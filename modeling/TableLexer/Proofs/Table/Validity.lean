import TableLexer.Proofs.Table.Combination

/-!
# Which grammars build

A grammar is valid if its splices are of defined states and make no circle, and if each
rule that is written in one of its states is valid by itself: the pattern can be compiled
and has as many groups as there are actions for groups, and all states that the rule
refers to are defined. Exactly the valid grammars build. In what order states are made
ready, which of them can be reached from the root state and what other rules have put
into the stock plays no part.

Results:
1. `compile_succeeds_iff`: whether a pattern compiles does not depend on the pool.
2. `rule_succeeds_iff`, `rules?_succeeds_iff`: a rule compiles exactly if it is valid.
3. `stateIn_depth`: the bound on how many states wait for each other is never reached.
4. `build_succeeds_iff`: a grammar builds exactly if it is valid.
-/

namespace TableLexer

open Grammar Build

/-! ## Definitions -/

/-- The run that an action for a group asks for. -/
def GroupSpec.delegate? : GroupSpec → Option DelegateSpec
  | .delegate d => some d
  | _ => none

/-- The runs that an action asks for, those of groups included. -/
def ActionSpec.delegates : ActionSpec → List DelegateSpec
  | .delegate d => [d]
  | .groups list => list.filterMap GroupSpec.delegate?
  | _ => []

/-- The states to which a change of the stack refers. -/
def StackOpSpec.targets : StackOpSpec → List String
  | .push target => [target]
  | .goto target => [target]
  | .pushCombined targets => targets
  | _ => []

/-- The names of the defined states. -/
def Table.definedNames (t : Table) : List String := (t.states.take t.defined).map State.name

namespace Grammar

variable (g : Grammar) (library : Library)

/-- The pattern compiles to the matcher: if it is a list of words, there is a word; all
references can be replaced; and what they leave is a regular expression. -/
def Accepts (p : PatternSpec) (m : Matcher) : Prop :=
  ∃ text expanded, patternText p = .ok text ∧ g.fragments.expand text = .ok expanded ∧
    Matcher.compile expanded g.flags = .ok m

/-- A rule may refer to a state by the name. -/
def Refers (target : String) : Prop := target ≠ "" ∧ target ∈ g.stateNames

/-- A run over matched text may start in the state of the name. -/
def StartsIn : Target → String → Prop
  | .this, name => g.Refers name
  | .table id, name => name ∈ (library.table id).definedNames

end Grammar

/-- The rule is valid by itself. -/
structure RuleSpec.Valid (g : Grammar) (library : Library) (r : RuleSpec) : Prop where
  pattern : ∀ p ∈ r.pattern, ∃ m, g.Accepts p m
  groups : ∀ groups, r.action = .groups groups →
    ∃ p ∈ r.pattern, ∃ m, g.Accepts p m ∧ m.groupCount = groups.length
  delegates : ∀ d ∈ r.action.delegates, ∀ name ∈ d.stack, g.StartsIn library d.target name
  ops : ∀ op ∈ r.ops, ∀ name ∈ op.targets, g.Refers name

/-- The splices of the grammar are in order, and so are all rules of all states. -/
structure Grammar.Valid (g : Grammar) (library : Library) : Prop where
  spliced : g.WellSpliced
  rules : ∀ name r, Entry.rule r ∈ g.entriesOf name → r.Valid g library

/-! ## Patterns -/

namespace Pool

variable {g : Grammar} {p q : Pool} {text : Text} {found : Pooled}

/-- The pool is one of the grammar, and its matchers are those of their patterns. -/
structure Genuine (g : Grammar) (p : Pool) : Prop where
  flags : p.flags = g.flags
  fragments : p.fragments = g.fragments
  matchers : ∀ m ∈ p.matchers, Matcher.compile m.pattern g.flags = .ok m

theorem genuine_iff : p.Genuine g ↔ p.Sound g.flags g.fragments :=
  ⟨fun h => ⟨h.flags, h.fragments, h.matchers⟩,
    fun h => ⟨h.sameFlags, h.sameFragments, h.matchers⟩⟩

theorem genuine_new (g : Grammar) : Genuine g (.new g.flags g.fragments) :=
  genuine_iff.mpr Arises.new.sound

theorem compile_genuine (hp : p.Genuine g) (h : p.compile text = .ok (found, q)) :
    q.Genuine g ∧ Matcher.compile found.matcher.pattern g.flags = .ok found.matcher := by
  have hq : q.Sound g.flags g.fragments := (genuine_iff.mp hp).kept h
  exact ⟨genuine_iff.mpr hq, hq.matchers _ (List.mem_of_getElem? (compile_slot h))⟩

/-- A pattern compiles if its expansion does, whatever has been compiled before. -/
theorem compile_succeeds_iff (hp : p.Genuine g) : Succeeds (p.compile text) ↔
    ∃ expanded m, g.fragments.expand text = .ok expanded ∧
      Matcher.compile expanded g.flags = .ok m := by
  rw [← Succeeds.map_iff, (genuine_iff.mp hp).compile_alone, alone, Succeeds.bind_iff]
  simp only [Succeeds, exists_and_left]

end Pool

namespace Build

variable {library : Library} {g : Grammar} {state : String} {s t : Stock}

theorem accepts_unique {p : PatternSpec} {m m' : Matcher} (h : g.Accepts p m)
    (h' : g.Accepts p m') : m = m' := by
  obtain ⟨text, expanded, htext, hexpand, hm⟩ := h
  obtain ⟨text', expanded', htext', hexpand', hm'⟩ := h'
  cases htext.symm.trans htext'
  cases hexpand.symm.trans hexpand'
  cases hm.symm.trans hm'
  rfl

theorem matcher_genuine {spec : Option PatternSpec} {p q : Pool} {m : Option Pooled}
    (hp : p.Genuine g) (h : matcher state spec p = .ok (m, q)) :
    q.Genuine g ∧ Option.Rel (fun spec found => g.Accepts spec found.matcher) spec m := by
  obtain ⟨rfl, rfl, rfl⟩ | ⟨written, text, found, rfl, rfl, htext, hcompile⟩ := matcher_cases h
  · exact ⟨hp, .none⟩
  · obtain ⟨hq, hm⟩ := Pool.compile_genuine hp hcompile
    have hexpand := Pool.compile_pattern hcompile
    rw [hp.fragments] at hexpand
    exact ⟨hq, .some ⟨text, _, htext, hexpand, hm⟩⟩

theorem matcher_succeeds_iff (state : String) {spec : Option PatternSpec} {p : Pool}
    (hp : p.Genuine g) :
    Succeeds (matcher state spec p) ↔ ∀ pattern ∈ spec, ∃ m, g.Accepts pattern m := by
  cases spec with
  | none => exact ⟨fun _ _ h => absurd h (Option.not_mem_none _), fun _ => .ok _⟩
  | some spec =>
    have hpattern : Succeeds (pattern state spec p) ↔ ∃ m, g.Accepts spec m := by
      rw [pattern, Succeeds.mapError_iff, Succeeds.bind_iff]
      constructor
      · rintro ⟨text, htext, hcompile⟩
        obtain ⟨expanded, m, hm⟩ := (Pool.compile_succeeds_iff hp).mp hcompile
        exact ⟨m, text, expanded, htext, hm⟩
      · rintro ⟨m, text, expanded, htext, hm⟩
        exact ⟨text, htext, (Pool.compile_succeeds_iff hp).mpr ⟨expanded, m, hm⟩⟩
    constructor
    · intro h pattern hp'
      obtain ⟨found, hfound, -⟩ := Succeeds.bind_iff.mp h
      cases hp'
      exact hpattern.mp ⟨found, hfound⟩
    · intro h
      obtain ⟨found, hfound⟩ := hpattern.mpr (h spec rfl)
      exact Succeeds.bind_iff.mpr ⟨found, hfound, .ok _⟩

/-! ## References to states -/

theorem localState_succeeds_iff (state : String) {target : String} :
    Succeeds (localState g.stateNames state target) ↔ g.Refers target := by
  constructor
  · rintro ⟨id, h⟩
    obtain ⟨hmem, hne⟩ := mem_stateNames_of_localState h
    exact ⟨hne, hmem⟩
  · rintro ⟨hne, hmem⟩
    obtain ⟨i, hi⟩ := findIdx?_of_mem hmem
    refine ⟨⟨i⟩, ?_⟩
    rw [localState, if_neg (by simpa using hne), hi]

theorem stateId_succeeds_iff {table : Table} {target : String} :
    Succeeds (table.stateId target) ↔ target ∈ table.definedNames := by
  have hfind : ((table.states.take table.defined).findIdx? (·.name == target)).isSome
      ↔ target ∈ table.definedNames := by
    rw [List.findIdx?_isSome, List.any_eq_true, Table.definedNames, List.mem_map]
    simp only [beq_iff_eq]
  rw [← hfind, Table.stateId]
  cases (table.states.take table.defined).findIdx? (·.name == target) with
  | none => exact ⟨fun h => absurd h (Succeeds.not_error _), fun h => absurd h (by decide)⟩
  | some i => exact ⟨fun _ => rfl, fun _ => .ok _⟩

theorem delegate_succeeds_iff {d : DelegateSpec} :
    Succeeds (delegate library g.stateNames state d) ↔
      ∀ name ∈ d.stack, g.StartsIn library d.target name := by
  have hstack : ∀ f : String → Except BuildError StateId,
      (∀ name, Succeeds (f name) ↔ g.StartsIn library d.target name) →
      (Succeeds (d.stack.mapM f) ↔ ∀ name ∈ d.stack, g.StartsIn library d.target name) := by
    intro f hf
    simp only [Succeeds.mapM_iff, hf]
  rw [delegate, Succeeds.bind_iff, ← hstack _ fun name => ?_]
  · exact exists_congr fun stack => and_iff_left (.ok _)
  · cases d.target with
    | this => exact localState_succeeds_iff state
    | table id => exact Succeeds.mapError_iff.trans stateId_succeeds_iff

/-! ## Rules -/

theorem groupAction_succeeds_iff {group : GroupSpec} :
    Succeeds (groupAction library g.stateNames state group) ↔
      ∀ d ∈ group.delegate?, ∀ name ∈ d.stack, g.StartsIn library d.target name := by
  cases group with
  | kind kind => exact ⟨fun _ _ h => absurd h (Option.not_mem_none _), fun _ => .ok _⟩
  | skip => exact ⟨fun _ _ h => absurd h (Option.not_mem_none _), fun _ => .ok _⟩
  | delegate d =>
    rw [groupAction, Succeeds.map_iff, delegate_succeeds_iff]
    exact ⟨fun h d' hd => Option.mem_some_iff.mp hd ▸ h, fun h => h d rfl⟩

/-- An action is in order for a matcher if its references are, and if the matcher has a
group for each action for groups. -/
theorem action_succeeds_iff {m : Option Pooled} {a : ActionSpec} :
    Succeeds (action library g.stateNames state m a) ↔
      (∀ list, a = .groups list → ∃ p ∈ m, p.matcher.groupCount = list.length) ∧
      ∀ d ∈ a.delegates, ∀ name ∈ d.stack, g.StartsIn library d.target name := by
  cases a with
  | nothing => exact ⟨fun _ => ⟨nofun, fun _ h => absurd h List.not_mem_nil⟩, fun _ => .ok _⟩
  | kind kind => exact ⟨fun _ => ⟨nofun, fun _ h => absurd h List.not_mem_nil⟩, fun _ => .ok _⟩
  | delegate d =>
    rw [action, Succeeds.map_iff, delegate_succeeds_iff]
    exact ⟨fun h => ⟨nofun, fun d' hd => List.mem_singleton.mp hd ▸ h⟩,
      fun h => h.2 d List.mem_cons_self⟩
  | groups list =>
    have hdelegates : (∀ group ∈ list, Succeeds (groupAction library g.stateNames state group)) ↔
        ∀ d ∈ (ActionSpec.groups list).delegates, ∀ name ∈ d.stack,
          g.StartsIn library d.target name := by
      simp only [groupAction_succeeds_iff, ActionSpec.delegates, List.mem_filterMap]
      exact ⟨fun h d ⟨group, hgroup, hd⟩ => h group hgroup d hd,
        fun h group hgroup d hd => h d ⟨group, hgroup, hd⟩⟩
    rw [← hdelegates]
    cases m with
    | none =>
      refine ⟨fun h => absurd h (Succeeds.not_error _), fun h => ?_⟩
      obtain ⟨p, hp, -⟩ := h.1 list rfl
      exact absurd hp (Option.not_mem_none _)
    | some p =>
      unfold action
      dsimp only
      split
      · next hcount =>
        rw [Succeeds.map_iff, Succeeds.mapM_iff]
        refine ⟨fun h => ⟨fun list' heq => ⟨p, rfl, ?_⟩, h⟩, fun h => h.2⟩
        cases heq
        exact hcount
      · next hcount =>
        refine ⟨fun h => absurd h (Succeeds.not_error _), fun h => ?_⟩
        obtain ⟨p', hp', hcount'⟩ := h.1 list rfl
        cases hp'
        exact absurd hcount' hcount

theorem combine_succeeds_iff (state : String) (s : Stock) {targets : List String} :
    Succeeds (combine g.stateNames state targets s) ↔ ∀ name ∈ targets, g.Refers name := by
  have hparts : Succeeds (targets.mapM (localState g.stateNames state))
      ↔ ∀ name ∈ targets, g.Refers name := by
    simp only [Succeeds.mapM_iff, localState_succeeds_iff state]
  rw [← hparts]
  constructor
  · intro h
    obtain ⟨parts, hparts, -⟩ := Succeeds.bind_iff.mp h
    exact ⟨parts, hparts⟩
  · rintro ⟨parts, hparts⟩
    refine Succeeds.bind_iff.mpr ⟨parts, hparts, ?_⟩
    dsimp only
    split <;> exact .ok _

theorem stackOp_succeeds_iff (state : String) (s : Stock) {op : StackOpSpec} :
    Succeeds (stackOp g.stateNames state op s) ↔ ∀ name ∈ op.targets, g.Refers name := by
  have hone : ∀ (target : String) (f : StateId → StackOp),
      Succeeds (localState g.stateNames state target >>= fun id =>
        (.ok (f id, s) : Except BuildError (StackOp × Stock)))
          ↔ ∀ name ∈ [target], g.Refers name := by
    intro target f
    rw [List.forall_mem_singleton, ← localState_succeeds_iff state]
    exact Succeeds.bind_iff.trans (exists_congr fun _ => and_iff_left (.ok _))
  cases op with
  | push target => exact hone target .push
  | goto target => exact hone target .goto
  | pushCurrent => exact ⟨fun _ _ h => absurd h List.not_mem_nil, fun _ => .ok _⟩
  | pop count => exact ⟨fun _ _ h => absurd h List.not_mem_nil, fun _ => .ok _⟩
  | pushCombined targets =>
    rw [StackOpSpec.targets, ← combine_succeeds_iff state s]
    exact Succeeds.bind_iff.trans (exists_congr fun _ => and_iff_left (.ok _))

theorem stackOps_succeeds_iff (state : String) (s : Stock) {ops : List StackOpSpec} :
    Succeeds (stackOps g.stateNames state ops s) ↔
      ∀ op ∈ ops, ∀ name ∈ op.targets, g.Refers name := by
  induction ops generalizing s with
  | nil => exact ⟨fun _ _ h => absurd h List.not_mem_nil, fun _ => .ok _⟩
  | cons op ops ih =>
    rw [List.forall_mem_cons, ← stackOp_succeeds_iff state s]
    constructor
    · intro h
      obtain ⟨⟨x, s₁⟩, hop, h⟩ := Succeeds.bind_iff.mp h
      obtain ⟨found, hops, -⟩ := Succeeds.bind_iff.mp h
      exact ⟨⟨_, hop⟩, (ih s₁).mp ⟨found, hops⟩⟩
    · rintro ⟨⟨⟨x, s₁⟩, hop⟩, hrest⟩
      obtain ⟨found, hops⟩ := (ih s₁).mpr hrest
      exact Succeeds.bind_iff.mpr ⟨_, hop, Succeeds.bind_iff.mpr ⟨found, hops, .ok _⟩⟩

theorem stackOp_pool {op : StackOpSpec} {x : StackOp}
    (h : stackOp g.stateNames state op s = .ok (x, t)) : t.pool = s.pool := by
  cases op with
  | push target =>
    obtain ⟨id, -, h⟩ := bind_eq_ok_iff.mp h
    cases h
    rfl
  | goto target =>
    obtain ⟨id, -, h⟩ := bind_eq_ok_iff.mp h
    cases h
    rfl
  | pushCurrent =>
    cases h
    rfl
  | pop count =>
    cases h
    rfl
  | pushCombined targets =>
    obtain ⟨⟨id, s'⟩, hcomb, h⟩ := bind_eq_ok_iff.mp h
    cases h
    obtain ⟨parts, -, ⟨i, -, -, rfl⟩ | ⟨-, -, rfl⟩⟩ := combine_cases hcomb
    · rfl
    · rfl

theorem stackOps_pool {ops : List StackOpSpec} {xs : List StackOp}
    (h : stackOps g.stateNames state ops s = .ok (xs, t)) : t.pool = s.pool := by
  induction ops generalizing s xs with
  | nil =>
    cases h
    rfl
  | cons op ops ih =>
    obtain ⟨⟨x, s₁⟩, hop, h⟩ := bind_eq_ok_iff.mp h
    obtain ⟨⟨ys, s₂⟩, hops, h⟩ := bind_eq_ok_iff.mp h
    cases h
    exact (ih hops).trans (stackOp_pool hop)

theorem rule_genuine {r : RuleSpec} {x : Rule} (hs : s.pool.Genuine g)
    (h : rule library g.stateNames state r s = .ok (x, t)) : t.pool.Genuine g := by
  obtain ⟨pool, hm, -, hops⟩ := rule_cases h
  rw [stackOps_pool hops]
  exact (matcher_genuine hs hm).1

theorem rules?_genuine {l : List RuleSpec} {xs : List Rule} (hs : s.pool.Genuine g)
    (h : rules? library g.stateNames l s = some (xs, t)) : t.pool.Genuine g := by
  induction l generalizing s xs with
  | nil =>
    cases h
    exact hs
  | cons r l ih =>
    obtain ⟨x, s₁, ys, hx, hys, -⟩ := rules?_cons_iff.mp h
    exact ih (rule_genuine hs ((rule?_eq_some_iff "").mp hx)) hys

/-- A rule compiles exactly if it is valid, whatever has been compiled before. -/
theorem rule_succeeds_iff (state : String) {r : RuleSpec} (hs : s.pool.Genuine g) :
    Succeeds (rule library g.stateNames state r s) ↔ r.Valid g library := by
  constructor
  · rintro ⟨⟨x, t⟩, h⟩
    obtain ⟨pool, hm, haction, hops⟩ := rule_cases h
    obtain ⟨hgroups, hdelegates⟩ := action_succeeds_iff.mp ⟨_, haction⟩
    refine ⟨(matcher_succeeds_iff state hs).mp ⟨_, hm⟩, fun list hlist => ?_, hdelegates,
      (stackOps_succeeds_iff state _).mp ⟨_, hops⟩⟩
    obtain ⟨p, hp, hcount⟩ := hgroups list hlist
    have hrel := (matcher_genuine hs hm).2
    rw [Option.mem_def.mp hp] at hrel
    cases hspec : r.pattern with
    | none =>
      rw [hspec] at hrel
      cases hrel
    | some spec =>
      rw [hspec] at hrel
      cases hrel with
      | some haccepts => exact ⟨spec, rfl, p.matcher, haccepts, hcount⟩
  · intro h
    obtain ⟨⟨m, pool⟩, hm⟩ := (matcher_succeeds_iff state hs).mpr h.pattern
    have hrel := (matcher_genuine hs hm).2
    have haction : Succeeds (action library g.stateNames state m r.action) := by
      refine action_succeeds_iff.mpr ⟨fun list hlist => ?_, h.delegates⟩
      obtain ⟨spec, hspec, m', haccepts, hcount⟩ := h.groups list hlist
      rw [Option.mem_def.mp hspec] at hrel
      cases hrel with
      | @some _ p haccepts' =>
        rw [accepts_unique haccepts haccepts'] at hcount
        exact ⟨p, rfl, hcount⟩
    obtain ⟨a, ha⟩ := haction
    obtain ⟨found, hops⟩ := (stackOps_succeeds_iff state { s with pool }).mpr h.ops
    exact Succeeds.bind_iff.mpr ⟨_, hm, Succeeds.bind_iff.mpr ⟨a, ha,
      Succeeds.bind_iff.mpr ⟨found, hops, .ok _⟩⟩⟩

theorem rules?_succeeds_iff {l : List RuleSpec} (hs : s.pool.Genuine g) :
    (rules? library g.stateNames l s).isSome ↔ ∀ r ∈ l, r.Valid g library := by
  induction l generalizing s with
  | nil => exact ⟨fun _ _ h => absurd h List.not_mem_nil, fun _ => rfl⟩
  | cons r l ih =>
    rw [List.forall_mem_cons, ← rule_succeeds_iff "" hs, Option.isSome_iff_exists]
    constructor
    · rintro ⟨⟨xs, t⟩, h⟩
      obtain ⟨x, s₁, ys, hx, hys, -⟩ := rules?_cons_iff.mp h
      have hrule := (rule?_eq_some_iff "").mp hx
      refine ⟨⟨_, hrule⟩, (ih (rule_genuine hs hrule)).mp ?_⟩
      rw [hys]
      rfl
    · rintro ⟨⟨⟨x, s₁⟩, hrule⟩, hrest⟩
      obtain ⟨⟨ys, t⟩, hys⟩ :=
        Option.isSome_iff_exists.mp ((ih (rule_genuine hs hrule)).mpr hrest)
      exact ⟨(x :: ys, t), rules?_cons_iff.mpr
        ⟨x, s₁, ys, (rule?_eq_some_iff "").mpr hrule, hys, rfl⟩⟩

/-! ## The bound on states that wait -/

section

variable {active : List StateId} {id : StateId} {depth : Nat} {p : Progress}

/-- Only states of the grammar are spliced. -/
theorem entries_congr {names : List String}
    {splice splice' : StateId → Progress → Except BuildError (List Rule × Progress)}
    (h : ∀ i < names.length, splice ⟨i⟩ = splice' ⟨i⟩) (es : List Entry) :
    entries library names splice state es p = entries library names splice' state es p := by
  induction es generalizing p with
  | nil => rfl
  | cons e es ih =>
    cases e with
    | splice target =>
      rw [entries, entries]
      cases hi : names.findIdx? (· == target) with
      | none => rfl
      | some i =>
        obtain ⟨hlt, -, -⟩ := List.findIdx?_eq_some_iff_getElem.mp hi
        simp only [h i hlt, ih]
    | inherit => exact ih
    | rule r => simp only [entries, ih]

/-- A state that waits already is not made to wait again. -/
theorem stateWith_congr
    {splice splice' : List StateId → StateId → Progress → Except BuildError (List Rule × Progress)}
    (h : id ∉ active → ∀ i < g.states.length,
      splice (active ++ [id]) ⟨i⟩ = splice' (active ++ [id]) ⟨i⟩) :
    stateWith library g splice active id p = stateWith library g splice' active id p := by
  unfold stateWith
  cases p.ready.lookup id with
  | some rules => rfl
  | none =>
    dsimp only
    split
    · rfl
    · next hfree =>
      have hnames : g.stateNames.length = g.states.length := by simp [stateNames]
      have hsplice := h fun hmem => hfree (List.contains_iff_mem.mpr hmem)
      rw [← hnames] at hsplice
      rw [entries_congr hsplice]

/-- The states that wait are different ones of the grammar. -/
structure Waiting (g : Grammar) (active : List StateId) : Prop where
  nodup : active.Nodup
  known : ∀ a ∈ active, a ∈ g.ids

theorem Waiting.length_le (h : Waiting g active) : active.length ≤ g.states.length := by
  have hle : active.length ≤ g.ids.length := (h.nodup.subperm h.known).length_le
  simpa [ids] using hle

theorem Waiting.more (h : Waiting g active) (hid : id ∈ g.ids) (hfree : id ∉ active) :
    Waiting g (active ++ [id]) := by
  refine ⟨h.nodup.append (List.nodup_singleton id) ?_, fun a ha => ?_⟩
  · exact List.disjoint_singleton.mpr hfree
  · rcases List.mem_append.mp ha with ha | ha
    · exact h.known a ha
    · exact List.mem_singleton.mp ha ▸ hid

/-- Depth beyond the number of states that do not wait yet changes nothing: where all of them wait,
nothing is spliced. -/
theorem stateIn_succ (h : Waiting g active) (hid : id ∈ g.ids)
    (hdepth : g.states.length ≤ depth + active.length) :
    stateIn library g (depth + 1) active id p = stateIn library g depth active id p := by
  induction depth generalizing active id p with
  | zero =>
    refine stateWith_congr fun hfree i hi => ?_
    have hle := (h.more hid hfree).length_le
    rw [List.length_append, List.length_singleton] at hle
    omega
  | succ depth ih =>
    refine stateWith_congr fun hfree i hi => funext fun p => ?_
    refine ih (h.more hid hfree) (mem_ids.mpr hi) ?_
    rw [List.length_append, List.length_singleton]
    omega

/-- However many states are allowed to wait, no more do than there are. -/
theorem stateIn_depth (hid : id ∈ g.ids) (extra : Nat) (p : Progress) :
    stateIn library g (g.states.length + extra) [] id p
      = stateIn library g g.states.length [] id p := by
  have hnone : Waiting g [] := ⟨List.nodup_nil, fun _ h => absurd h List.not_mem_nil⟩
  induction extra with
  | zero => rfl
  | succ extra ih =>
    rw [← ih]
    exact stateIn_succ hnone hid (Nat.le_add_right _ _)

end

end Build

/-! ## Grammars -/

namespace Grammar

variable {g : Grammar} {library : Library} {name : String} {r : RuleSpec}

theorem stock?_genuine {s : Stock} (hs : g.stock? library = some s) : s.pool.Genuine g := by
  obtain ⟨⟨xs, s'⟩, hall, rfl⟩ := Option.map_eq_some_iff.mp hs
  exact rules?_genuine (Pool.genuine_new g) hall

theorem mem_stateNames_of_mem_entriesOf {e : Entry} (h : e ∈ g.entriesOf name) :
    name ∈ g.stateNames := by
  unfold entriesOf entries? at h
  cases hlook : g.states.lookup name with
  | none =>
    rw [hlook] at h
    cases h
  | some entries =>
    obtain ⟨l, l', hl, -⟩ := List.lookup_eq_some_iff.mp hlook
    rw [stateNames, hl]
    simp

/-- The rules of a state are all written in some state. -/
theorem written_of_mem_flatIn {depth : Nat} (h : r ∈ g.flatIn depth name) :
    ∃ name', Entry.rule r ∈ g.entriesOf name' := by
  induction depth generalizing name with
  | zero =>
    obtain ⟨e, he, hr⟩ := List.mem_flatMap.mp h
    cases e with
    | splice target => cases hr
    | inherit => cases hr
    | rule r' => exact ⟨name, List.mem_singleton.mp hr ▸ he⟩
  | succ depth ih =>
    obtain ⟨e, he, hr⟩ := List.mem_flatMap.mp h
    cases e with
    | splice target => exact ih hr
    | inherit => cases hr
    | rule r' => exact ⟨name, List.mem_singleton.mp hr ▸ he⟩

/-- The rules of all states are the rules that are written in them. -/
theorem mem_flat_states (hg : g.WellSpliced) :
    r ∈ g.stateNames.flatMap g.flat ↔ ∃ name, Entry.rule r ∈ g.entriesOf name := by
  constructor
  · intro h
    obtain ⟨name, -, hr⟩ := List.mem_flatMap.mp h
    exact written_of_mem_flatIn hr
  · rintro ⟨name, h⟩
    refine List.mem_flatMap.mpr ⟨name, mem_stateNames_of_mem_entriesOf h, ?_⟩
    rw [flat_eq hg]
    exact List.mem_flatMap.mpr ⟨_, h, List.mem_singleton_self r⟩

/-- A grammar builds exactly if it is valid, which is said of each of its states and rules
alone; and making a state ready never takes more states that wait than there are, so that
every build comes to its end by itself. -/
theorem build_succeeds_iff (g : Grammar) (library : Library) :
    (Succeeds (g.build library) ↔ g.Valid library) ∧
    ∀ id ∈ g.ids, ∀ extra p, stateIn library g (g.states.length + extra) [] id p
      = stateIn library g g.states.length [] id p := by
  refine ⟨?_, fun id hid extra p => stateIn_depth hid extra p⟩
  have hrules : ∀ hg : g.WellSpliced, Succeeds (g.build library) ↔
      ∀ name r, Entry.rule r ∈ g.entriesOf name → r.Valid g library := by
    intro hg
    have hstock : Succeeds (g.build library) ↔ (g.stock? library).isSome := by
      simp only [Succeeds, build_eq_ok_iff hg, Option.isSome_iff_exists]
      constructor
      · rintro ⟨t, s, hs, -⟩
        exact ⟨s, hs⟩
      · rintro ⟨s, hs⟩
        exact ⟨_, s, hs, rfl⟩
    rw [hstock, stock?, Option.isSome_map, rules?_succeeds_iff (Pool.genuine_new g)]
    simp only [mem_flat_states hg]
    constructor
    · intro h name r hr
      exact h r ⟨name, hr⟩
    · rintro h r ⟨name, hr⟩
      exact h name r hr
  constructor
  · rintro ⟨t, ht⟩
    have hg := build_wellSpliced ht
    exact ⟨hg, (hrules hg).mp ⟨t, ht⟩⟩
  · intro h
    exact (hrules h.spliced).mpr h.rules

/-- A grammar with a state that cannot be reached from the root state and refers to
states in every way. -/
def island : Grammar :=
  ((Grammar.new "island").state rootState
    [.rule ⟨some (.words ["a".toList, "ab".toList] [] []), .kind .name, []⟩]).state "island"
    [.splice rootState,
    .rule ⟨some (.regex "(x)(y)".toList), .groups [.delegate (.root .this), .skip],
      [.pushCombined ["island", rootState], .goto "island"]⟩,
    .rule ⟨none, .nothing, [.push rootState, .pop 1]⟩]

/-- The same with one more state that nothing refers to and that has a bad reference. -/
def wreck : Grammar := island.state "wreck" [.rule ⟨none, .nothing, [.pushCombined ["island", ""]]⟩]

theorem build_succeeds_iff_island : island.Valid [] ∧ ¬ wreck.Valid [] ∧
    ∀ extra p, stateIn [] island (2 + extra) [] ⟨1⟩ p = stateIn [] island 2 [] ⟨1⟩ p := by
  obtain ⟨hvalid, hdepth⟩ := build_succeeds_iff island []
  have hfails : wreck.build [] = .error (.emptyStateName "wreck") := rfl
  refine ⟨hvalid.mp ⟨_, rfl⟩, fun h => ?_, hdepth ⟨1⟩ (by decide)⟩
  have hbuilds : Succeeds (wreck.build []) := (build_succeeds_iff wreck []).1.mpr h
  rw [hfails] at hbuilds
  exact Succeeds.not_error _ hbuilds

end Grammar

end TableLexer
