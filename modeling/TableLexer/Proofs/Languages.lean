import TableLexer.Languages
import TableLexer.Proofs.Run.Tame

/-!
# The languages do not see their limits

The table of every language is brisk, and it is tame. In Kotlin the text that is lexed again is
a row of modifiers and blanks, and the state in which this is done has rules for their
characters; in the other languages an opening parenthesis ends each match of which the
beginning is lexed again. So in no text does a run nest on more than one level or slip twice at
one place, and limits do not matter as long as they are positive.

Results:
1. `Table.ShallowFrom.shallow`: what a table must be like for that.
2. `Languages.keyed_tables`, `Languages.kotlin_table`: the tables of the languages are like
   that, as evaluation finds out.
3. `Languages.limits_unseen`: so their limits are not seen.
-/

namespace TableLexer

open RunContext

/-! ## Tables -/

namespace Table

variable (t : Table) (K : List StateId) (names : List String)

/-- All states of a table. -/
def ids : List StateId := (List.range t.states.length).map StateId.mk

/-- There are states of these names, and all of them are in `K`. -/
def StartsIn : Prop := names ≠ [] ∧ ∃ ids, names.mapM t.stateId = .ok ids ∧ ∀ id ∈ ids, id ∈ K

/-- Runs that start in states of these names are shallow: they stay in states in which the
table is brisk and tame. -/
def ShallowFrom : Prop := ∃ K, t.Brisk K ∧ t.Tame K ∧ t.StartsIn K names

instance : Decidable (t.StartsIn K names) :=
  inferInstanceAs (Decidable (_ ∧ ∃ ids, names.mapM t.stateId = .ok ids ∧ _))

end Table

/-- A run from states of these names starts, and with all positive limits it is shallow. -/
theorem Table.ShallowFrom.shallow {t : Table} {names : List String} (h : t.ShallowFrom names)
    (library : Library) (config : LexConfig) (text : Text) :
    ∃ r, (Run.start library t names text).map (·.withConfig config) = .ok r ∧
      ∀ limits : LexConfig, limits.Positive → (r.outermost text).Shallow library limits := by
  obtain ⟨K, hb, ht, hne, ids, hids, hall⟩ := h
  have hids' : (if names.isEmpty then [rootState] else names).mapM t.stateId = .ok ids := by
    rwa [if_neg fun hempty => hne (List.isEmpty_iff.mp hempty)]
  have hinitial : ids.reverse ≠ [] ∧ ∀ id ∈ ids.reverse, id ∈ K := by
    refine ⟨fun hnil => ?_, fun id hid => hall id (List.mem_reverse.mp hid)⟩
    rw [List.reverse_eq_nil_iff.mp hnil] at hids
    exact hne (List.forall₂_nil_right_iff.mp (mapM_eq_ok_iff.mp hids))
  exact ⟨_, Run.start_eq_ok_iff.mpr ⟨ids, hids', rfl⟩,
    fun limits hlimits => InnerRun.shallow hb ht hlimits.emptySteps hinitial⟩

/-! ## Lexers -/

namespace Lexer

variable {lexer : Lexer} {config config' : LexConfig} {text : Text}

theorem tokens_eq {r : Run}
    (h : (Run.start lexer.library lexer.table lexer.initial text).map (·.withConfig lexer.config)
      = .ok r) : lexer.tokens text = .ok (lexer.rewrite.apply r.rest) := by
  obtain ⟨run, hrun, rfl⟩ := map_eq_ok_iff.mp h
  exact bind_eq_ok_iff.mpr ⟨run, hrun, rfl⟩

/-- A lexer whose runs are shallow gives the same tokens with all limits that are positive. -/
theorem tokens_of_shallowFrom (h : lexer.table.ShallowFrom lexer.initial)
    (hlimits : config.Positive) (hlimits' : config'.Positive)
    (hfallback : config'.fallback = config.fallback) (text : Text) :
    ∃ tokens r, { lexer with config }.tokens text = .ok tokens ∧
      { lexer with config := config' }.tokens text = .ok tokens ∧
      (Run.start lexer.library lexer.table lexer.initial text).map (·.withConfig config) = .ok r ∧
      r.LooksLike (r.withConfig config') ∧ (r.outermost text).Shallow lexer.library config := by
  obtain ⟨r, hr, hshallow⟩ := h.shallow lexer.library config text
  have hsame : r.LooksLike (r.withConfig config') :=
    Run.shallow_looksLike hr (hshallow _ ⟨Nat.le_refl 1, Nat.le_refl 1⟩) hfallback hlimits hlimits'
  have hr' : (Run.start lexer.library lexer.table lexer.initial text).map (·.withConfig config')
      = .ok (r.withConfig config') := by
    obtain ⟨run, hrun, rfl⟩ := map_eq_ok_iff.mp hr
    exact map_eq_ok_iff.mpr ⟨run, hrun, rfl⟩
  have htokens : { lexer with config }.tokens text = .ok (lexer.rewrite.apply r.rest) :=
    tokens_eq hr
  have htokens' : { lexer with config := config' }.tokens text
      = .ok (lexer.rewrite.apply (r.withConfig config').rest) := tokens_eq hr'
  rw [hsame.rest] at htokens'
  exact ⟨_, r, htokens, htokens', hr, hsame, hshallow config hlimits⟩

end Lexer

/-! ## Languages -/

theorem Language.lexer_eq (l : Language) {t : Table} (h : l.table = .ok t) :
    ∃ lexer, l.lexer = .ok lexer ∧ lexer.table = t ∧ lexer.initial = l.initial :=
  ⟨_, bind_eq_ok_iff.mpr ⟨t, h, rfl⟩, rfl, rfl⟩

namespace Languages

/-- The languages in which an opening parenthesis ends each match of which some is lexed
again. -/
def keyed : List Language := [Java.language, AspectJ.language, Groovy.language, Ceylon.language,
  Gosu.language, Gosu.templates, Pig.language, Golo.language]

set_option maxRecDepth 1000000 in
/-- Their tables are brisk and tame in all states. -/
theorem keyed_tables : ∀ l ∈ keyed, ∃ t, l.table = .ok t ∧
    t.Brisk t.ids ∧ t.Keyed t.ids '(' ∧ t.StartsIn t.ids l.initial := by
  decide +kernel

set_option maxRecDepth 1000000 in
/-- The table of Kotlin is brisk and tame in all states but the one for modifiers, which a
default rule ends and in which runs are only started. -/
theorem kotlin_table : ∃ t, Kotlin.table = .ok t ∧ ∃ id, t.stateId "modifiers" = .ok id ∧
    t.Brisk (t.ids.erase id) ∧ t.Fed (t.ids.erase id) id ∧
    t.StartsIn (t.ids.erase id) Kotlin.language.initial := by
  decide +kernel

theorem shallowFrom : ∀ l ∈ languages, ∃ t, l.table = .ok t ∧ t.ShallowFrom l.initial := by
  intro l hl
  have hsplit : l = Kotlin.language ∨ l ∈ keyed := by
    simp only [languages, keyed, List.mem_cons, List.not_mem_nil, or_false] at hl ⊢
    tauto
  rcases hsplit with rfl | hkeyed
  · obtain ⟨t, ht, id, -, hbrisk, hfed, hstart⟩ := kotlin_table
    exact ⟨t, ht, _, hbrisk, .fed id hfed, hstart⟩
  · obtain ⟨t, ht, hbrisk, hkey, hstart⟩ := keyed_tables l hkeyed
    exact ⟨t, ht, _, hbrisk, .keyed '(' hkey, hstart⟩

/-- Every language has a lexer, and in no text are its limits seen as long as they are
positive: two lexers of the language that differ only in such limits give the same tokens,
and nothing tells their runs apart. For no run nests on more than one level, text that has
been lexed again has none of it lexed again, and at no place are there two matches of
nothing that change the stack. -/
theorem limits_unseen : ∀ l ∈ languages, ∃ lexer, l.lexer = .ok lexer ∧
    ∀ config config' : LexConfig, config.Positive → config'.Positive →
      config'.fallback = config.fallback →
      (∀ source, { lexer with config := config' }.tokenize source
        = { lexer with config }.tokenize source) ∧
      ∀ text, ∃ tokens r, { lexer with config }.tokens text = .ok tokens ∧
        { lexer with config := config' }.tokens text = .ok tokens ∧
        (Run.start lexer.library lexer.table lexer.initial text).map (·.withConfig config) = .ok r ∧
        r.LooksLike (r.withConfig config') ∧ (r.outermost text).Shallow lexer.library config := by
  intro l hl
  obtain ⟨t, ht, hshallow⟩ := shallowFrom l hl
  obtain ⟨lexer, hlexer, htable, hinitial⟩ := l.lexer_eq ht
  rw [← htable, ← hinitial] at hshallow
  refine ⟨lexer, hlexer, fun config config' hlimits hlimits' hfallback => ?_⟩
  have htokens := Lexer.tokens_of_shallowFrom hshallow hlimits hlimits' hfallback
  refine ⟨fun source => ?_, htokens⟩
  obtain ⟨tokens, -, heq, heq', -⟩ := htokens (lexer.prepare source)
  exact heq'.trans heq.symm

theorem limits_unseen_kotlin : ∃ lexer, Kotlin.language.lexer = .ok lexer ∧
    { lexer with config := ⟨.text, 7, 9⟩ }.tokenize "private inline fun f".toList
      = { lexer with config := ⟨.text, 1, 1⟩ }.tokenize "private inline fun f".toList := by
  have hmem : Kotlin.language ∈ languages :=
    List.mem_cons_of_mem _ (List.mem_cons_of_mem _ List.mem_cons_self)
  obtain ⟨lexer, hlexer, hall⟩ := limits_unseen Kotlin.language hmem
  obtain ⟨hsame, -⟩ := hall ⟨.text, 1, 1⟩ ⟨.text, 7, 9⟩ ⟨Nat.le_refl 1, Nat.le_refl 1⟩
    ⟨by decide, by decide⟩ rfl
  exact ⟨lexer, hlexer, hsame _⟩

end Languages

end TableLexer
