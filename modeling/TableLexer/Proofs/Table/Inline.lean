import TableLexer.Proofs.Grammar.Inline
import TableLexer.Proofs.Table.Stock

/-!
# Building a grammar with splices

The states of a grammar are made ready one inside the other, each of them once. What
comes out is what would come out if the rules of every state, with the spliced ones
written out, were compiled in order: the rules of a state that is already there are
found again, and compiling them once more would neither change them nor the stock. So
a grammar and the one with its splices written out have the same table.

Results:
1. `entries_compiles`, `stateIn_compiles`: making a state ready is compiling its flat
   list of rules.
2. `build_eq_ok_iff`: the table of a grammar, read off the flat lists.
3. `build_inline`: inlining changes neither whether a grammar builds nor its table.
-/

namespace TableLexer

open Grammar

namespace Build

variable {library : Library} {g : Grammar}

/-! ## What is ready -/

/-- Every state that is ready is one of the grammar, and compiling its flat list of
rules again would give the rules that are kept and add nothing to the stock. -/
structure Sound (library : Library) (g : Grammar) (p : Progress) : Prop where
  inRange : ∀ id rules, p.ready.lookup id = some rules → id.index < g.states.length
  replays : ∀ id rules, p.ready.lookup id = some rules →
    rules? library g.stateNames (g.flat (stateName g id)) p.stock = some (rules, p.stock)

/-- What is ready before is ready after. -/
def Keeps (p q : Progress) : Prop :=
  ∀ id, (p.ready.lookup id).isSome → (q.ready.lookup id).isSome

variable {p q : Progress} {l m : List RuleSpec}

theorem Sound.grow {s : Stock} (h : Sound library g p) (hs : p.stock.Grows s) :
    Sound library g { p with stock := s } :=
  ⟨h.inRange, fun id rules hr => rules?_again (h.replays id rules hr) hs⟩

theorem Sound.ready {id : StateId} {rules : List Rule} (h : Sound library g p)
    (hid : id.index < g.states.length)
    (hr : rules? library g.stateNames (g.flat (stateName g id)) p.stock
      = some (rules, p.stock)) :
    Sound library g { p with ready := (id, rules) :: p.ready } := by
  refine ⟨fun id' rules' h' => ?_, fun id' rules' h' => ?_⟩
  · by_cases heq : id' = id
    · exact heq ▸ hid
    · rw [List.lookup_cons, beq_false_of_ne heq] at h'
      exact h.inRange id' rules' h'
  · by_cases heq : id' = id
    · subst heq
      rw [List.lookup_cons_self] at h'
      cases h'
      exact hr
    · rw [List.lookup_cons, beq_false_of_ne heq] at h'
      exact h.replays id' rules' h'

theorem Keeps.ready (id : StateId) (rules : List Rule) :
    Keeps p { p with ready := (id, rules) :: p.ready } := by
  intro id' h
  rw [List.lookup_cons]
  split
  · rfl
  · exact h

/-! ## Making states ready -/

/-- What becomes of compiling a list of rules while states are made ready. -/
inductive Compiles (library : Library) (g : Grammar) (p : Progress) (l : List RuleSpec) :
    Except BuildError (List Rule × Progress) → Prop
  | ok {rules : List Rule} {q : Progress}
      (compiled : rules? library g.stateNames l p.stock = some (rules, q.stock))
      (sound : Sound library g q) (keeps : Keeps p q) : Compiles library g p l (.ok (rules, q))
  | error (e : BuildError) (failed : rules? library g.stateNames l p.stock = none) :
      Compiles library g p l (.error e)

theorem Compiles.nil (h : Sound library g p) : Compiles library g p [] (.ok ([], p)) :=
  .ok rfl h fun _ h => h

/-- Lists of rules are compiled one after the other. -/
theorem Compiles.append {x : Except BuildError (List Rule × Progress)}
    {f : Progress → Except BuildError (List Rule × Progress)} (hx : Compiles library g p l x)
    (hf : ∀ q, Sound library g q → Compiles library g q m (f q)) :
    Compiles library g p (l ++ m) (x >>= fun first => f first.2 >>= fun others =>
      .ok (first.1 ++ others.1, others.2)) := by
  cases hx with
  | error e failed =>
    refine .error e ?_
    rw [rules?_append, failed]
    rfl
  | @ok rules q compiled sound keeps =>
    have hnext := hf q sound
    show Compiles library g p (l ++ m) (f q >>= fun others =>
      .ok (rules ++ others.1, others.2))
    generalize f q = y at hnext
    cases hnext with
    | error e failed =>
      refine .error e ?_
      rw [rules?_append, compiled, Option.bind_some, failed]
      rfl
    | ok compiled' sound' keeps' =>
      refine .ok ?_ sound' fun id h => keeps' id (keeps id h)
      rw [rules?_append, compiled, Option.bind_some, compiled']
      rfl

/-- A rule is compiled where it stands. -/
theorem rule_compiles (state : String) (r : RuleSpec) (h : Sound library g p) :
    Compiles library g p [r] ((rule library g.stateNames state r p.stock).map fun found =>
      ([found.1], { p with stock := found.2 })) := by
  cases hr : rule library g.stateNames state r p.stock with
  | error e =>
    refine .error e ?_
    rw [rules?, (rule?_eq_none_iff state).mpr ⟨e, hr⟩]
    rfl
  | ok found =>
    obtain ⟨x, s⟩ := found
    have hgrows : p.stock.Grows s := (rule_replays r _ _ _ hr).1
    refine .ok ?_ (h.grow hgrows) fun _ h => h
    exact rules?_cons_iff.mpr ⟨x, s, [], (rule?_eq_some_iff state).mpr hr, rfl, rfl⟩

/-- The entries of a state are compiled as their flat list of rules, if the states that
they splice are. -/
theorem entries_compiles {splice : StateId → Progress → Except BuildError (List Rule × Progress)}
    {es : List Entry} (state : String)
    (hsplice : ∀ target, Entry.splice target ∈ es →
      ∃ i, g.stateNames.findIdx? (· == target) = some i ∧
        ∀ p, Sound library g p → Compiles library g p (g.flat target) (splice ⟨i⟩ p))
    (h : Sound library g p) :
    Compiles library g p (es.flatMap (Entry.rules g.flat))
      (entries library g.stateNames splice state es p) := by
  induction es generalizing p with
  | nil => exact .nil h
  | cons e es ih =>
    have hrest : ∀ q, Sound library g q → Compiles library g q
        (es.flatMap (Entry.rules g.flat)) (entries library g.stateNames splice state es q) :=
      fun q hq => ih (fun target ht => hsplice target (List.mem_cons_of_mem _ ht)) hq
    rw [List.flatMap_cons]
    cases e with
    | splice target =>
      obtain ⟨i, hi, hcompiles⟩ := hsplice target List.mem_cons_self
      rw [entries, hi]
      exact (hcompiles p h).append hrest
    | inherit => exact hrest p h
    | rule r =>
      have hfirst := (rule_compiles state r h).append hrest
      rw [entries]
      cases hr : rule library g.stateNames state r p.stock with
      | error e =>
        rw [hr] at hfirst
        exact hfirst
      | ok found =>
        rw [hr] at hfirst
        exact hfirst

/-- The state of a name is the one found by it. -/
theorem stateName_of_findIdx? {target : String} {i : Nat}
    (h : g.stateNames.findIdx? (· == target) = some i) :
    i < g.states.length ∧ stateName g ⟨i⟩ = target := by
  obtain ⟨hlt, hname, -⟩ := List.findIdx?_eq_some_iff_getElem.mp h
  refine ⟨by simpa [stateNames] using hlt, ?_⟩
  rw [stateName, List.getD_eq_getElem?_getD, List.getElem?_eq_getElem hlt, Option.getD_some]
  exact beq_iff_eq.mp hname

theorem findIdx?_of_mem {target : String} (h : target ∈ g.stateNames) :
    ∃ i, g.stateNames.findIdx? (· == target) = some i := by
  refine Option.isSome_iff_exists.mp (List.findIdx?_isSome.trans ?_)
  exact List.any_eq_true.mpr ⟨target, h, beq_self_eq_true target⟩

section

variable {active : List StateId} {id : StateId}

/-- A state is made ready once: the rules that are kept stand for compiling the list once more. -/
theorem stateWith_compiles (hg : g.WellSpliced)
    {splice : List StateId → StateId → Progress → Except BuildError (List Rule × Progress)}
    (hid : id.index < g.states.length)
    (hactive : ∀ a ∈ active, g.rank (stateName g id) < g.rank (stateName g a))
    (hsplice : ∀ target i, g.Splices (stateName g id) target →
      g.stateNames.findIdx? (· == target) = some i → ∀ p, Sound library g p →
        Compiles library g p (g.flat target) (splice (active ++ [id]) ⟨i⟩ p))
    (h : Sound library g p) :
    Compiles library g p (g.flat (stateName g id))
      (stateWith library g splice active id p) := by
  unfold stateWith
  cases hready : p.ready.lookup id with
  | some rules => exact .ok (h.replays id rules hready) h fun _ h => h
  | none =>
    have hfree : ¬ active.contains id = true := fun hmem =>
      Nat.lt_irrefl _ (hactive id (List.contains_iff_mem.mp hmem))
    dsimp only
    rw [if_neg hfree]
    have hentries : Compiles library g p (g.flat (stateName g id))
        (entries library g.stateNames (splice (active ++ [id])) (stateName g id)
          (g.entriesOf (stateName g id)) p) := by
      rw [flat_eq hg]
      refine entries_compiles _ (fun target ht => ?_) h
      obtain ⟨i, hi⟩ := findIdx?_of_mem (hg.defined _ _ ht)
      exact ⟨i, hi, hsplice target i ht hi⟩
    show Compiles library g p _ (entries library g.stateNames (splice (active ++ [id]))
      (stateName g id) (g.entriesOf (stateName g id)) p >>= _)
    generalize entries library g.stateNames (splice (active ++ [id])) (stateName g id)
      (g.entriesOf (stateName g id)) p = x at hentries
    cases hentries with
    | error e failed => exact .error e failed
    | ok compiled sound keeps =>
      have hagain := rules?_again compiled (.refl _)
      exact .ok compiled (sound.ready hid hagain) fun id' h' => Keeps.ready _ _ _ (keeps id' h')

/-- Making a state ready is compiling its flat list of rules: as many states as its
rank may wait for it, and those that do have a higher rank, so it is none of them. -/
theorem stateIn_compiles (hg : g.WellSpliced) {depth : Nat}
    (hdepth : g.rank (stateName g id) ≤ depth) (hid : id.index < g.states.length)
    (hactive : ∀ a ∈ active, g.rank (stateName g id) < g.rank (stateName g a))
    (h : Sound library g p) :
    Compiles library g p (g.flat (stateName g id)) (stateIn library g depth active id p) := by
  induction depth generalizing active id p with
  | zero =>
    refine stateWith_compiles hg hid hactive (fun target i ht => ?_) h
    exact absurd (Nat.lt_of_lt_of_le (rank_lt hg ht) hdepth) (Nat.not_lt_zero _)
  | succ depth ih =>
    refine stateWith_compiles hg hid hactive (fun target i ht hi p hp => ?_) h
    obtain ⟨hlt, hname⟩ := stateName_of_findIdx? hi
    have hrank := rank_lt hg ht
    rw [← hname] at hrank ⊢
    refine ih (by omega) hlt (fun a ha => ?_) hp
    rcases List.mem_append.mp ha with ha | ha
    · exact Nat.lt_trans hrank (hactive a ha)
    · rw [List.mem_singleton.mp ha]
      exact hrank

theorem stateIn_ready {depth : Nat} {rules : List Rule}
    (h : stateIn library g depth active id p = .ok (rules, q)) :
    (q.ready.lookup id).isSome := by
  have hwith : ∀ splice, stateWith library g splice active id p = .ok (rules, q) →
      (q.ready.lookup id).isSome := by
    intro splice h
    unfold stateWith at h
    split at h
    · next hready =>
      cases h
      rw [hready]
      rfl
    · split at h
      · cases h
      · obtain ⟨⟨rules', p'⟩, -, h⟩ := bind_eq_ok_iff.mp h
        cases h
        rw [List.lookup_cons_self]
        rfl
  cases depth with
  | zero => exact hwith _ h
  | succ depth => exact hwith _ h

end

/-- What becomes of making states ready one after the other. -/
inductive CompilesAll (library : Library) (g : Grammar) (ids : List StateId) (p : Progress) :
    Except BuildError Progress → Prop
  | ok {rules : List Rule} {q : Progress}
      (compiled : rules? library g.stateNames (ids.flatMap fun id => g.flat (stateName g id))
        p.stock = some (rules, q.stock))
      (sound : Sound library g q) (keeps : Keeps p q)
      (ready : ∀ id ∈ ids, (q.ready.lookup id).isSome) : CompilesAll library g ids p (.ok q)
  | error (e : BuildError)
      (failed : rules? library g.stateNames (ids.flatMap fun id => g.flat (stateName g id))
        p.stock = none) : CompilesAll library g ids p (.error e)

/-- A state is made ready, and then the others. -/
theorem CompilesAll.cons {id : StateId} {ids : List StateId}
    {x : Except BuildError (List Rule × Progress)} {f : Progress → Except BuildError Progress}
    (hx : Compiles library g p (g.flat (stateName g id)) x)
    (hready : ∀ found, x = .ok found → (found.2.ready.lookup id).isSome)
    (hf : ∀ q, Sound library g q → CompilesAll library g ids q (f q)) :
    CompilesAll library g (id :: ids) p (x >>= fun found => f found.2) := by
  cases hx with
  | error e failed =>
    refine .error e ?_
    rw [List.flatMap_cons, rules?_append, failed]
    rfl
  | @ok rules q compiled sound keeps =>
    have hrest := hf q sound
    show CompilesAll library g (id :: ids) p (f q)
    generalize f q = y at hrest
    cases hrest with
    | error e failed =>
      refine .error e ?_
      rw [List.flatMap_cons, rules?_append, compiled, Option.bind_some, failed]
      rfl
    | @ok rules' q' compiled' sound' keeps' ready =>
      have hboth : rules? library g.stateNames
          ((id :: ids).flatMap fun id => g.flat (stateName g id)) p.stock
            = some (rules ++ rules', q'.stock) := by
        rw [List.flatMap_cons, rules?_append, compiled, Option.bind_some, compiled']
        rfl
      refine .ok hboth sound' (fun id' h' => keeps' id' (keeps id' h')) fun id' h' => ?_
      rcases List.mem_cons.mp h' with rfl | h'
      · exact keeps' _ (hready _ rfl)
      · exact ready id' h'

theorem allStates_compiles (hg : g.WellSpliced) {ids : List StateId}
    (hids : ∀ id ∈ ids, id.index < g.states.length) (h : Sound library g p) :
    CompilesAll library g ids p (allStates library g ids p) := by
  induction ids generalizing p with
  | nil => exact .ok rfl h (fun _ h => h) fun id hid => absurd hid List.not_mem_nil
  | cons id ids ih =>
    have hfirst : Compiles library g p (g.flat (stateName g id))
        (stateIn library g g.states.length [] id p) :=
      stateIn_compiles hg (rank_le g _) (hids id List.mem_cons_self)
        (fun a ha => absurd ha List.not_mem_nil) h
    rw [allStates]
    refine .cons hfirst (fun found hfound => stateIn_ready hfound) fun q hq => ?_
    exact ih (fun id' h' => hids id' (List.mem_cons_of_mem _ h')) hq

end Build

/-! ## The table -/

namespace Grammar

open Build

variable {library : Library} {g : Grammar} {t : Table}

/-- The stock after the flat lists of rules of all states. -/
def stock? (g : Grammar) (library : Library) : Option Stock :=
  (rules? library g.stateNames (g.stateNames.flatMap g.flat)
    ⟨.new g.flags g.fragments, []⟩).map Prod.snd

/-- The rules of a state, compiled with a stock that has all they need. -/
def rulesAt (g : Grammar) (library : Library) (s : Stock) (id : StateId) : List Rule :=
  if id.index < g.states.length then
    ((rules? library g.stateNames (g.flat (stateName g id)) s).map Prod.fst).getD []
  else []

theorem mem_ids {id : StateId} : id ∈ g.ids ↔ id.index < g.states.length := by
  simp only [ids, List.mem_map, List.mem_range]
  constructor
  · rintro ⟨i, hi, rfl⟩
    exact hi
  · intro h
    exact ⟨id.index, h, rfl⟩

theorem ids_map_stateName (g : Grammar) : g.ids.map (stateName g) = g.stateNames := by
  refine List.ext_getElem (by simp [ids, stateNames]) fun i h h' => ?_
  simp only [ids, List.getElem_map, List.getElem_range, stateName, List.getD_eq_getElem?_getD,
    List.getElem?_eq_getElem h', Option.getD_some]

theorem readyRules_eq {p : Progress} (h : Sound library g p)
    (hready : ∀ id ∈ g.ids, (p.ready.lookup id).isSome) :
    readyRules p = g.rulesAt library p.stock := by
  funext id
  unfold readyRules rulesAt
  by_cases hid : id.index < g.states.length
  · obtain ⟨rules, hrules⟩ := Option.isSome_iff_exists.mp (hready id (mem_ids.mpr hid))
    rw [if_pos hid, h.replays id rules hrules, hrules]
    rfl
  · rw [if_neg hid]
    cases hlook : p.ready.lookup id with
    | none => rfl
    | some rules => exact absurd (h.inRange id rules hlook) hid

/-- The table of a grammar has the flat lists of rules, compiled in order. With all states ready,
what is kept of each is its flat list compiled at the end. -/
theorem build_eq_ok_iff (hg : g.WellSpliced) :
    g.build library = .ok t ↔
      ∃ s, g.stock? library = some s ∧ t = g.assemble (g.rulesAt library s) s.combined := by
  have hempty : Sound library g ⟨⟨.new g.flags g.fragments, []⟩, []⟩ := by
    constructor
    · rintro id rules ⟨⟩
    · rintro id rules ⟨⟩
  have hall := allStates_compiles hg (fun id hid => mem_ids.mp hid) hempty
  have hflat : g.stateNames.flatMap g.flat = g.ids.flatMap fun id => g.flat (stateName g id) := by
    rw [← ids_map_stateName, List.flatMap_map]
  unfold build stock?
  rw [hflat]
  generalize allStates library g g.ids ⟨⟨.new g.flags g.fragments, []⟩, []⟩ = x at hall
  cases hall with
  | error e failed =>
    rw [failed]
    simp [bind, Except.bind]
  | @ok _ p compiled sound keeps ready =>
    have hrules := readyRules_eq sound ready
    rw [compiled]
    show Except.ok (g.assemble (readyRules p) p.stock.combined) = .ok t ↔ _
    rw [hrules]
    constructor
    · rintro ⟨⟩
      exact ⟨p.stock, rfl, rfl⟩
    · rintro ⟨s, hs, rfl⟩
      cases hs
      rfl

/-! ## Inlining -/

theorem inline_ids (g : Grammar) : g.inline.ids = g.ids := by
  rw [ids, ids, inline_length]

theorem inline_stateName (g : Grammar) (id : StateId) :
    stateName g.inline id = stateName g id := by
  rw [stateName, stateName, inline_stateNames]

theorem inline_stock? (hg : g.WellSpliced) : g.inline.stock? library = g.stock? library := by
  rw [stock?, stock?, inline_stateNames, funext (inline_flat hg)]
  rfl

theorem inline_rulesAt (hg : g.WellSpliced) (s : Stock) :
    g.inline.rulesAt library s = g.rulesAt library s := by
  funext id
  rw [rulesAt, rulesAt, inline_length, inline_stateNames, inline_flat hg, inline_stateName]

theorem inline_assemble (g : Grammar) (rules : StateId → List Rule) (combined : List Combined) :
    g.inline.assemble rules combined = g.assemble rules combined := by
  have hname : (fun id => State.mk (stateName g.inline id) (rules id))
      = fun id => State.mk (stateName g id) (rules id) := by
    funext id
    rw [inline_stateName]
  unfold assemble
  rw [inline_ids, inline_length, hname]
  rfl

/-- A grammar whose splices are all of defined states and make no circle builds exactly
if the one with its splices written out does, and to the same table: the same states
in the same order, synthetic ones included, with the same rules. -/
theorem build_inline (hg : g.WellSpliced) (library : Library) (t : Table) :
    g.build library = .ok t ↔ g.inline.build library = .ok t := by
  rw [build_eq_ok_iff hg, build_eq_ok_iff (inline_wellSpliced g), inline_stock? hg]
  simp only [inline_rulesAt hg, inline_assemble]

/-- A grammar with a state that two others splice, all of them before it is defined. -/
def diamond : Grammar :=
  ((((Grammar.new "diamond").state rootState [.splice "left", .splice "right"]).state "left"
    [.rule ⟨some (.regex "l".toList), .kind .name, [.pushCombined ["right", "base"]]⟩,
    .splice "base"]).state "right"
    [.splice "base", .rule ⟨some (.regex "r".toList), .kind .text, [.goto "left"]⟩]).state "base"
    [.rule ⟨some (.regex "b".toList), .kind .keyword, [.pushCombined ["base", rootState]]⟩]

theorem build_inline_diamond :
    diamond.WellSpliced ∧ ∃ t, diamond.build [] = .ok t ∧ diamond.inline.build [] = .ok t := by
  have hg : diamond.WellSpliced := by
    refine wellSpliced_of_rank (fun name =>
      if name = rootState then 2 else if name = "base" then 0 else 1) ?_
    decide
  obtain ⟨t, ht⟩ : ∃ t, diamond.build [] = .ok t := ⟨_, rfl⟩
  exact ⟨hg, t, ht, (build_inline hg [] t).mp ht⟩

end Grammar

end TableLexer
