import TableLexer.Proofs.Languages
import TableLexer.Proofs.Run.Renaming
import TableLexer.Proofs.Stream.Rewrite

/-!
# Grammars that extend others and change nothing

A grammar that extends another one starts with the states of that one. As long as it defines
none anew it builds where that one builds, and its table has another name and nothing else
that differs; a rule that lexes its match again with the running table then does so with the
new one, which has the same rules.

AspectJ extends Java in this way. Its tokens are those of Java, corrected by word.

Results:
1. `build_derive`: the table of the extending grammar.
2. `renamed_name`: the name of a table does not matter to runs.
3. `tokens_of_runsAs`: lexers with such tables differ by their corrections.
4. `derive_unchanged`: what holds of all grammars, and of AspectJ.
-/

namespace TableLexer

open Grammar Build

/-! ## Tables -/

section

variable {library : Library} {g : Grammar} {name : String}

/-- Making a state ready looks at what is written in the states, never at the name of the
grammar or at what it extends. -/
theorem Build.stateIn_derive (depth : Nat) :
    stateIn library (g.derive name) depth = stateIn library g depth := by
  induction depth with
  | zero => rfl
  | succ depth ih =>
    funext active id p
    rw [stateIn, stateIn, ih]
    rfl

theorem Build.allStates_derive (ids : List StateId) (p : Progress) :
    allStates library (g.derive name) ids p = allStates library g ids p := by
  induction ids generalizing p with
  | nil => rfl
  | cons id ids ih =>
    rw [allStates, allStates, stateIn_derive]
    exact congrArg (stateIn library g g.states.length [] id p >>= ·) (funext fun out => ih out.2)

/-- A grammar that extends another one builds as that one does, and its table has only
another name. -/
theorem Grammar.build_derive (g : Grammar) (name : String) (library : Library) :
    (g.derive name).build library = (g.build library).map fun t => { t with name } := by
  have hall : allStates library (g.derive name) (g.derive name).ids
      ⟨⟨.new (g.derive name).flags (g.derive name).fragments, []⟩, []⟩
        = allStates library g g.ids ⟨⟨.new g.flags g.fragments, []⟩, []⟩ := allStates_derive _ _
  rw [build, build, hall]
  cases allStates library g g.ids ⟨⟨.new g.flags g.fragments, []⟩, []⟩ <;> rfl

/-- The name of a table does not matter to runs. -/
theorem Table.renamed_name (t : Table) (name : String) : t.Renamed .same { t with name } where
  rules := (Table.Renamed.refl t).rules
  stateId target := by
    unfold Table.stateId
    cases (t.states.take t.defined).findIdx? (·.name == target) with
    | none => exact .none
    | some i => exact .some rfl
  stateName? := (Table.Renamed.refl t).stateName?
  resetOnNewline := rfl

end

/-! ## Lexers -/

theorem Rewrite.apply_nil (tokens : List Token) : Rewrite.apply [] tokens = tokens := by
  rw [apply_eq_flatMap]
  exact List.flatMap_singleton' tokens

/-- The lexer of a language, with a table in the place of its own. -/
def Language.lexerOn (l : Language) (t : Table) : Lexer :=
  { Lexer.new l.name [] t with
    aliases := l.aliases, initial := l.initial, rewrite := l.rewrite }

theorem Language.lexer_of_table {l : Language} {t : Table} (h : l.table = .ok t) :
    l.lexer = .ok (l.lexerOn t) :=
  bind_eq_ok_iff.mpr ⟨t, h, rfl⟩

namespace Lexer

variable {l l' : Lexer} {text : Text} {tokens : List Token}

/-- A lexer whose table runs as that of a lexer without corrections gives the tokens of this
one with its own corrections. -/
theorem tokens_of_runsAs (hruns : l.table.RunsAs l.library l'.table)
    (hlibrary : l'.library = l.library) (hinitial : l'.initial = l.initial)
    (hconfig : l'.config = l.config) (hrewrite : l.rewrite = []) (h : l.tokens text = .ok tokens) :
    l'.tokens text = .ok (l'.rewrite.apply tokens) := by
  obtain ⟨r, hr, -, rfl⟩ := run_of_tokens h
  have hsame := hruns l.initial text l.config
  rw [toOption_eq_some_iff.mpr hr] at hsame
  generalize hx : ((Run.start l.library l'.table l.initial text).map
    (·.withConfig l.config)).toOption = x at hsame
  cases hsame with
  | @some _ r' hshows =>
    have hr' := toOption_eq_some_iff.mp hx
    rw [← hlibrary, ← hinitial, ← hconfig] at hr'
    rw [tokens_eq hr', hshows.rest, hrewrite, Rewrite.apply_nil]

/-- Then its stream is the stream of that one, rewritten as it is asked for tokens. -/
theorem take_next_of_tokens {stream stream' : Rewritten Run} (rules : Rewrite)
    (hstream : ∀ n, l.next.take n stream = tokens.take n)
    (hstream' : ∀ n, l'.next.take n stream' = (rules.apply tokens).take n) (n : Nat) :
    l'.next.take n stream' = (rules.next l.next).take n ⟨stream, none⟩ := by
  rw [hstream', Rewrite.take_next, hstream, Rewrite.apply_eq_flatMap, Option.toList_none,
    List.nil_append, take_flatMap rules.image_ne_nil]

end Lexer

/-- A grammar that extends another one and defines nothing anew builds exactly if that one
does, and runs of both tables show the same from all states, over all texts and with all
limits. So AspectJ gives the tokens of Java, rewritten, for every prepared text, all at once
or one by one. -/
theorem derive_unchanged (g : Grammar) (name : String) (library : Library) :
    Option.Rel (Table.RunsAs library) (g.build library).toOption
      ((g.derive name).build library).toOption ∧
    ∃ java aspectJ, Java.language.lexer = .ok java ∧ AspectJ.language.lexer = .ok aspectJ ∧
      ∀ text, ∃ tokens stream stream', java.tokens text = .ok tokens ∧
        aspectJ.tokens text = .ok (AspectJ.rewrite.apply tokens) ∧
        java.stream text = .ok stream ∧ aspectJ.stream text = .ok stream' ∧
        ∀ n, aspectJ.next.take n stream'
          = (AspectJ.rewrite.next java.next).take n ⟨stream, none⟩ := by
  constructor
  · rw [g.build_derive name library]
    cases g.build library with
    | error e => exact .none
    | ok t => exact .some ((t.renamed_name name).runsAs library)
  · obtain ⟨t, ht, hshallow⟩ := Languages.shallowFrom Java.language List.mem_cons_self
    have ht' : AspectJ.language.table = .ok { t with name := "aspectj" } := by
      have hderive : AspectJ.language.table = Java.language.table.map fun t =>
        { t with name := "aspectj" } := Java.grammar.build_derive "aspectj" []
      rw [hderive, ht]
      rfl
    have hruns : t.RunsAs [] { t with name := "aspectj" } :=
      (t.renamed_name "aspectj").runsAs []
    refine ⟨_, _, Language.lexer_of_table ht, Language.lexer_of_table ht', fun text => ?_⟩
    obtain ⟨r, hr, -⟩ := hshallow.shallow [] .standard text
    have htokens : (Java.language.lexerOn t).tokens text = .ok (Rewrite.apply [] r.rest) :=
      Lexer.tokens_eq hr
    have htokens' : (AspectJ.language.lexerOn { t with name := "aspectj" }).tokens text
        = .ok (AspectJ.rewrite.apply (Rewrite.apply [] r.rest)) :=
      Lexer.tokens_of_runsAs (l := Java.language.lexerOn t) hruns rfl rfl rfl rfl htokens
    obtain ⟨stream, hstream, htake⟩ := Lexer.take_stream htokens
    obtain ⟨stream', hstream', htake'⟩ := Lexer.take_stream htokens'
    exact ⟨_, stream, stream', htokens, htokens', hstream, hstream',
      Lexer.take_next_of_tokens AspectJ.rewrite htake htake'⟩

end TableLexer
