import TableLexer.Proofs.Run.Confined
import TableLexer.Proofs.Run.Lockstep
import TableLexer.Proofs.Table.Validity

/-!
# Shadowed rules are dead

The first rule of a state that matches is the one that applies. A rule after a default
rule never gets its turn, and one after a rule with the same pattern gets it only where it
does not match. Such rules can be taken out of any state of any table, in runs inside of
runs as well, and no run changes: neither their actions nor their changes of the stack
play a part.

Results:
1. `Table.BuiltOn.matcher_eq`: in a built table a pattern has only one matcher.
2. `firstMatch?_sheds`: the rule that applies is still there, with the same match.
3. `relex_sheds`, `step_sheds`: so steps are the same ones, on every level.
4. `run_sheds`: and so are runs.
-/

namespace TableLexer

open Build RunContext

/-! ## Definitions -/

/-- The other rule has no effect after this one: this is a default rule, or both have the
same pattern. -/
def Rule.Shadows (e r : Rule) : Prop :=
  e.isDefault = true ∨
    ∃ p ∈ e.matcher, ∃ q ∈ r.matcher, q.matcher.pattern = p.matcher.pattern

/-- The second list is what is left of the first one if shadowed rules are taken out. The
rules `before` stand before both. -/
inductive Rule.Sheds : (before : List Rule) → List Rule → List Rule → Prop
  | nil {before : List Rule} : Sheds before [] []
  | keep {before rules rules' : List Rule} {r : Rule}
      (h : Sheds (r :: before) rules rules') : Sheds before (r :: rules) (r :: rules')
  | drop {before rules rules' : List Rule} {e r : Rule} (he : e ∈ before) (hr : e.Shadows r)
      (h : Sheds (r :: before) rules rules') : Sheds before (r :: rules) rules'

/-- Some of the shadowed rules of the state have been taken out. -/
structure State.Sheds (s s' : State) : Prop where
  name : s'.name = s.name
  rules : Rule.Sheds [] s.rules s'.rules

/-- Some of the shadowed rules of the states have been taken out, and nothing else is
different. -/
structure Table.Sheds (t t' : Table) : Prop where
  states : List.Forall₂ State.Sheds t.states t'.states
  others : t' = { t with states := t'.states }

/-- A pattern has only one matcher in the table. -/
def Table.Consistent (t : Table) : Prop :=
  ∀ id, ∀ r ∈ t.rules id, ∀ e ∈ t.rules id, ∀ p ∈ r.matcher, ∀ q ∈ e.matcher,
    q.matcher.pattern = p.matcher.pattern → q.matcher = p.matcher

/-! ## Built tables -/

section

variable {library : Library} {g : Grammar} {t : Table} {id : StateId} {r : Rule}

/-- The matchers of a table that has been built are those of their patterns. -/
theorem Grammar.build_genuine (h : g.build library = .ok t) (hr : r ∈ t.rules id) {p : Pooled}
    (hp : p ∈ r.matcher) : Matcher.compile p.matcher.pattern g.flags = .ok p.matcher := by
  obtain ⟨s, hs, rfl⟩ := (build_eq_ok_iff (build_wellSpliced h)).mp h
  obtain ⟨id', hr'⟩ := exists_of_mem_assemble_rules hr
  obtain ⟨-, -, spec, -, hspec⟩ := rule_of_mem_rulesAt hs hr'
  obtain ⟨-, hnone, -⟩ | ⟨-, text, found, -, hfound, -, hcompile⟩ :=
    matcher_cases (rule_parts hspec).1
  · cases hnone.symm.trans (Option.mem_def.mp hp)
  · cases hfound.symm.trans (Option.mem_def.mp hp)
    exact (Pool.compile_genuine (stock?_genuine hs) hcompile).2

/-- In a built table a pattern has only one matcher. -/
theorem Table.BuiltOn.matcher_eq (h : t.BuiltOn library) : t.Consistent := by
  obtain ⟨g, n, hbuild⟩ := h
  intro id r hr e he p hp q hq hpattern
  have hp' := Grammar.build_genuine hbuild hr hp
  have hq' := Grammar.build_genuine hbuild he hq
  rw [hpattern] at hq'
  exact Except.ok.inj (hq'.symm.trans hp')

theorem consistent_empty : Table.empty.Consistent := by
  intro id r hr
  cases hr

end

/-! ## Rules -/

section

variable {before rules rules' : List Rule} {e r : Rule}

theorem Rule.Sheds.refl (before rules : List Rule) : Rule.Sheds before rules rules := by
  induction rules generalizing before with
  | nil => exact .nil
  | cons r rules ih => exact .keep (ih _)

/-- One shadowed rule of a list may be taken out. -/
theorem Rule.Sheds.one {front back : List Rule} (he : e ∈ front ++ before) (hr : e.Shadows r) :
    Rule.Sheds before (front ++ r :: back) (front ++ back) := by
  induction front generalizing before with
  | nil => exact .drop he hr (.refl _ _)
  | cons x front ih =>
    refine .keep (ih ?_)
    rw [List.cons_append] at he
    rcases List.mem_cons.mp he with rfl | he
    · exact List.mem_append_right _ List.mem_cons_self
    · rcases List.mem_append.mp he with he | he
      · exact List.mem_append_left _ he
      · exact List.mem_append_right _ (List.mem_cons_of_mem _ he)

/-- A rule does not match where a rule that shadows it does not. -/
theorem Rule.Shadows.matchAt?_eq_none {place : Cursor} (h : e.Shadows r)
    (hsame : ∀ p ∈ e.matcher, ∀ q ∈ r.matcher, q.matcher.pattern = p.matcher.pattern →
      q.matcher = p.matcher) (he : e.matchAt? place = none) : r.matchAt? place = none := by
  rcases h with hdefault | ⟨p, hp, q, hq, hpattern⟩
  · rw [Rule.matchAt?, Option.isNone_iff_eq_none.mp hdefault] at he
    cases he
  · rw [Rule.matchAt?, Option.mem_def.mp hp] at he
    rw [Rule.matchAt?, Option.mem_def.mp hq]
    dsimp only at he ⊢
    rw [hsame p hp q hq hpattern, he]

/-- The rule that applies is still there, with the same match: a rule that is dropped comes after
the one that shadows it. -/
theorem RunContext.firstMatch?_sheds {among : List Rule} {place : Cursor}
    (h : Rule.Sheds before rules rules') (hrules : ∀ r ∈ rules, r ∈ among)
    (hsame : ∀ r ∈ among, ∀ e ∈ among, ∀ p ∈ r.matcher, ∀ q ∈ e.matcher,
      q.matcher.pattern = p.matcher.pattern → q.matcher = p.matcher)
    (hbefore : ∀ e ∈ before, e ∈ among ∧ e.matchAt? place = none) :
    firstMatch? place rules' = firstMatch? place rules := by
  unfold firstMatch?
  induction h with
  | nil => rfl
  | @keep before rules rules' r h ih =>
    obtain ⟨hr, hrules⟩ := List.forall_mem_cons.mp hrules
    rw [List.findSome?_cons, List.findSome?_cons]
    cases hmatch : r.matchAt? place with
    | some m => rfl
    | none => exact ih hrules (List.forall_mem_cons.mpr ⟨⟨hr, hmatch⟩, hbefore⟩)
  | @drop before rules rules' e r he hshadows h ih =>
    obtain ⟨hr, hrules⟩ := List.forall_mem_cons.mp hrules
    obtain ⟨hamong, hnone⟩ := hbefore e he
    have hmatch : r.matchAt? place = none :=
      hshadows.matchAt?_eq_none (hsame e hamong r hr) hnone
    rw [List.findSome?_cons, hmatch]
    exact ih hrules (List.forall_mem_cons.mpr ⟨⟨hr, hmatch⟩, hbefore⟩)

end

/-! ## Tables -/

theorem State.Sheds.ofRules {s : State} {rules : List Rule} (h : Rule.Sheds [] s.rules rules) :
    s.Sheds { s with rules } := ⟨rfl, h⟩

namespace Table.Sheds

variable {t t' : Table} {library library' : Library}

theorem ofStates {states : List State} (h : List.Forall₂ State.Sheds t.states states) :
    t.Sheds { t with states } := ⟨h, rfl⟩

theorem refl (t : Table) : t.Sheds t :=
  ofStates (List.forall₂_same.mpr fun _ _ => .ofRules (.refl _ _))

theorem rules (h : t.Sheds t') (id : StateId) : Rule.Sheds [] (t.rules id) (t'.rules id) := by
  have hget := List.forall₂_iff_get.mp h.states
  unfold Table.rules
  by_cases hlt : id.index < t.states.length
  · have hlt' : id.index < t'.states.length := h.states.length_eq ▸ hlt
    rw [List.getElem?_eq_getElem hlt, List.getElem?_eq_getElem hlt']
    exact (hget.2 id.index hlt hlt').rules
  · have hge' : ¬ id.index < t'.states.length := h.states.length_eq ▸ hlt
    rw [List.getElem?_eq_none (Nat.le_of_not_lt hlt), List.getElem?_eq_none (Nat.le_of_not_lt hge')]
    exact .nil

theorem names (h : t.Sheds t') : t'.states.map State.name = t.states.map State.name := by
  have hall := h.states
  generalize t.states = states at hall
  generalize t'.states = states' at hall
  induction hall with
  | nil => rfl
  | cons hs _ ih => rw [List.map_cons, List.map_cons, hs.name, ih]

theorem stateName? (h : t.Sheds t') : t'.stateName? = t.stateName? := by
  funext id
  rw [Table.stateName?, Table.stateName?, ← List.getElem?_map, ← List.getElem?_map, h.names]

theorem stateId (h : t.Sheds t') : t'.stateId = t.stateId := by
  have hdefined : t'.defined = t.defined := by rw [h.others]
  have hname : t'.name = t.name := by rw [h.others]
  funext name
  rw [Table.stateId, Table.stateId, Table.findIdx?_name, Table.findIdx?_name, h.names, hdefined,
    hname]

/-- The tables to which a delegate refers are alike if the libraries are. -/
theorem target (h : t.Sheds t') (hl : List.Forall₂ Table.Sheds library library')
    (target : Target) : (library.target t target).Sheds (library'.target t' target) := by
  cases target with
  | this => exact h
  | table id =>
    rw [Library.target, Library.target, Library.table, Library.table,
      List.getD_eq_getElem?_getD, List.getD_eq_getElem?_getD]
    by_cases hlt : id < library.length
    · have hlt' : id < library'.length := hl.length_eq ▸ hlt
      rw [List.getElem?_eq_getElem hlt, List.getElem?_eq_getElem hlt']
      exact (List.forall₂_iff_get.mp hl).2 id hlt hlt'
    · have hge' : ¬ id < library'.length := hl.length_eq ▸ hlt
      rw [List.getElem?_eq_none (Nat.le_of_not_lt hlt),
        List.getElem?_eq_none (Nat.le_of_not_lt hge')]
      exact .refl _

end Table.Sheds

theorem Library.target_consistent {library : Library} {t : Table} (ht : t.Consistent)
    (hlib : ∀ t ∈ library, t.Consistent) (target : Target) :
    (library.target t target).Consistent := by
  cases target with
  | this => exact ht
  | table id =>
    rw [Library.target, Library.table, List.getD_eq_getElem?_getD]
    cases hget : library[id]? with
    | none => exact consistent_empty
    | some t' => exact hlib t' (List.mem_of_getElem? hget)

/-! ## Steps -/

namespace RunContext

variable {ctx : RunContext} {table : Table}

/-- A step does not depend on the rules that have been taken out. -/
theorem step_sheds (ctx : RunContext) (hsame : ctx.table.Consistent) (h : ctx.table.Sheds table)
    (s : RunState) :
    { ctx with table }.step s = ctx.step s := by
  have hfirst : ∀ top place, firstMatch? place (table.rules top)
      = firstMatch? place (ctx.table.rules top) := fun top place =>
    firstMatch?_sheds (h.rules top) (fun _ hr => hr) (hsame top) (List.forall_mem_nil _)
  have hreset : table.resetOnNewline = ctx.table.resetOnNewline := by rw [h.others]
  have hnoMatch : ∀ s, { ctx with table }.noMatch s = ctx.noMatch s := by
    intro s
    simp only [noMatch, resetStack, h.stateId, hreset]
    rfl
  unfold step
  have hrefill : { ctx with table }.refill s = ctx.refill s := rfl
  rw [hrefill]
  dsimp only
  simp only [hfirst, hnoMatch]
  rfl

end RunContext

section

variable {library library' : Library} {table table' : Table}

/-- Text is lexed again in the same way, on every level. -/
theorem relex_sheds (config : LexConfig) (hlib : ∀ t ∈ library, t.Consistent)
    (hl : List.Forall₂ Table.Sheds library library') (ht : table.Consistent)
    (h : table.Sheds table') (depth : Nat) :
    relex library' config depth table' = relex library config depth table := by
  induction hn : config.maxDepth - depth generalizing depth table table' with
  | zero =>
    funext d text
    rw [relex, if_pos (by omega), relex, if_pos (by omega)]
  | succ n ih =>
    funext d text
    have htarget := h.target hl d.target
    have hsame := Library.target_consistent ht hlib d.target
    rw [relex, if_neg (by omega), relex, if_neg (by omega)]
    dsimp only
    rw [ih hsame htarget (depth + 1) (by omega)]
    exact exhaust_congr (step_sheds ⟨_, config, _, _⟩ hsame htarget) _ _

end

/-! ## Runs -/

namespace Run

variable {library library' : Library} {table table' : Table}

/-- Shadowed rules may be taken out of the states of a table that has been built, and of
those of the tables to which it refers, as many and wherever one likes: runs start in the
same states or fail with the same error, and nothing tells them apart, whatever their
states, texts and limits are. -/
theorem run_sheds (hlib : ∀ t ∈ library, t.BuiltOn library) (ht : table.BuiltOn library)
    (hl : List.Forall₂ Table.Sheds library library') (h : table.Sheds table')
    (states : List String) (text : Text) (config : LexConfig) :
    (∀ e, Run.start library' table' states text = .error e ↔
      Run.start library table states text = .error e) ∧
    ∀ r, (Run.start library table states text).map (·.withConfig config) = .ok r →
      ∃ r', (Run.start library' table' states text).map (·.withConfig config) = .ok r' ∧
        r.LooksLike r' := by
  have hids : table'.stateId = table.stateId := h.stateId
  refine ⟨fun e => ?_, fun r hr => ?_⟩
  · unfold Run.start
    rw [hids]
    cases (if states.isEmpty then [rootState] else states).mapM table.stateId with
    | error e' => exact Iff.rfl
    | ok ids => exact ⟨nofun, nofun⟩
  · obtain ⟨ids, hok, rfl⟩ := start_eq_ok_iff.mp hr
    refine ⟨_, start_eq_ok_iff.mpr ⟨ids, hids ▸ hok, rfl⟩, ?_⟩
    have hrelex := relex_sheds config (fun t ht => (hlib t ht).matcher_eq) hl ht.matcher_eq h 0
    have hsteps : ∀ s, (contextAt library' config 0 table' ids.reverse).step s
        = (contextAt library config 0 table ids.reverse).step s := by
      rw [contextAt, hrelex]
      exact step_sheds (contextAt library config 0 table ids.reverse) ht.matcher_eq h
    refine Lockstep.looksLike ⟨rfl, ?_⟩ h.stateName?
    exact lockstep_of_steps potential_le_enough fun s _ => hsteps s

/-- Letters, with a second rule for them and one after the default rule. -/
def crowded : Grammar :=
  (Grammar.new "crowded").state rootState
    [.rule ⟨some (.regex "[a-z]".toList), .kind .name, []⟩,
    .rule ⟨some (.regex "[a-z]".toList), .nothing, [.pushCurrent]⟩,
    .rule ⟨none, .nothing, []⟩,
    .rule ⟨some (.regex "-".toList), .kind .operator, []⟩]

/-- A grammar that lexes what stands in brackets with the table `0`, and has a second rule
for it. -/
def crowding : Grammar :=
  (Grammar.new "crowding").state rootState
    [.rule ⟨some (.regex "<[a-z-]*>".toList), .delegate (.root (.table 0)), []⟩,
    .rule ⟨some (.regex "<[a-z-]*>".toList), .delegate (.root .this), [.pop 1]⟩]

theorem run_sheds_crowding :
    ∃ inner inner' table table', crowded.build [] = .ok inner ∧ crowding.build [inner] = .ok table ∧
      inner.Sheds inner' ∧ (inner'.rules ⟨0⟩).length = 2 ∧
      table.Sheds table' ∧ (table'.rules ⟨0⟩).length = 1 ∧
      ∃ r r', (Run.start [inner] table [] "<a-b>".toList).map (·.withConfig ⟨.text, 2, 3⟩) = .ok r ∧
        (Run.start [inner'] table' [] "<a-b>".toList).map (·.withConfig ⟨.text, 2, 3⟩) = .ok r' ∧
        r.LooksLike r' := by
  obtain ⟨inner, hinner, table, htable, inner', hinner', htwo, table', htable', hone, r, hr⟩ :
      ∃ inner, crowded.build [] = .ok inner ∧ ∃ table, crowding.build [inner] = .ok table ∧
      ∃ inner', inner.Sheds inner' ∧ (inner'.rules ⟨0⟩).length = 2 ∧
      ∃ table', table.Sheds table' ∧ (table'.rules ⟨0⟩).length = 1 ∧
      ∃ r, (Run.start [inner] table [] "<a-b>".toList).map (·.withConfig ⟨.text, 2, 3⟩)
        = .ok r := by
    exact ⟨_, rfl, _, rfl,
      _, .ofStates (.cons (.ofRules (.keep (.drop List.mem_cons_self (.inr ⟨_, rfl, _, rfl, rfl⟩)
        (.keep (.drop List.mem_cons_self (.inl rfl) .nil))))) .nil), rfl,
      _, .ofStates (.cons (.ofRules (.one (List.mem_singleton_self _)
        (.inr ⟨_, rfl, _, rfl, rfl⟩) : Rule.Sheds [] ([_] ++ _ :: []) _)) .nil), rfl, _, rfl⟩
  have hlib : ∀ t ∈ [inner], t.BuiltOn [inner] :=
    List.forall_mem_singleton.mpr ⟨crowded, 0, hinner⟩
  obtain ⟨-, hruns⟩ := run_sheds hlib ⟨crowding, 1, htable⟩ (.cons hinner' .nil) htable' []
    "<a-b>".toList ⟨.text, 2, 3⟩
  obtain ⟨r', hr', hlooks⟩ := hruns r hr
  exact ⟨inner, inner', table, table', hinner, htable, hinner', htwo, htable', hone, r, r', hr,
    hr', hlooks⟩

end Run

end TableLexer
