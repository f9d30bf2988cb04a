import TableLexer.Proofs.Table.Combination

/-!
# Tables keep to their states

A table that has been built refers only to states that there are. Its rules push states
of the table itself, synthetic ones included, and runs over matched text start in defined
states of the table they are with. A rule has actions for groups only if it has a pattern
with as many groups.

A table keeps this when the library with which it was built grows.

Results:
1. `rule_closed`: what a rule refers to that has been compiled.
2. `build_closed`, `BuiltOn.closed`: what the rules of a table refer to.
-/

namespace TableLexer

open Grammar Build

/-! ## Definitions -/

/-- The run that an action for a group asks for. -/
def GroupAction.delegate? : GroupAction → Option Delegate
  | .delegate d => some d
  | _ => none

/-- The runs that an action asks for, those of groups included. -/
def Action.delegates : Action → List Delegate
  | .delegate d => [d]
  | .groups list => list.filterMap GroupAction.delegate?
  | _ => []

/-- The state to which a change of the stack refers. -/
def StackOp.state? : StackOp → Option StateId
  | .push id => some id
  | .goto id => some id
  | _ => none

/-- The id is that of a state of the table. -/
def Table.Has (t : Table) (id : StateId) : Prop := id.index < t.states.length

/-- The ids are those of defined states of the table, and there is one of them. -/
def Table.Defines (t : Table) (ids : List StateId) : Prop :=
  ∃ names, names ≠ [] ∧ names.mapM t.stateId = .ok ids

/-- The run starts in defined states of a table that there is. -/
structure Delegate.Closed (library : Library) (t : Table) (d : Delegate) : Prop where
  known : ∀ id, d.target = .table id → id < library.length
  stack : (library.target t d.target).Defines d.stack

/-- The rule refers only to states that there are and has a group for each action for
groups. -/
structure Rule.Closed (library : Library) (t : Table) (r : Rule) : Prop where
  ops : ∀ op ∈ r.ops, ∀ id ∈ op.state?, t.Has id
  delegates : ∀ d ∈ r.action.delegates, d.Closed library t
  groups : ∀ list, r.action = .groups list →
    ∃ p ∈ r.matcher, p.matcher.groupCount = list.length

namespace Table

variable (library : Library) (t : Table)

/-- All rules of the table refer only to states that there are. -/
def Closed : Prop := ∀ id, ∀ r ∈ t.rules id, r.Closed library t

/-- The table has been built when the library had its first tables, or all of them. -/
def BuiltOn : Prop := ∃ (g : Grammar) (n : Nat), g.build (library.take n) = .ok t

variable {library : Library} {t : Table} {id : StateId} {name : String}

/-- States are looked up by their names alone. -/
theorem findIdx?_name (t : Table) (name : String) :
    (t.states.take t.defined).findIdx? (·.name == name)
      = ((t.states.map State.name).take t.defined).findIdx? (· == name) := by
  rw [← List.map_take, List.findIdx?_map]
  rfl

theorem has_of_stateId (h : t.stateId name = .ok id) : t.Has id := by
  unfold stateId at h
  split at h
  · next i hi =>
    cases h
    obtain ⟨hlt, -, -⟩ := List.findIdx?_eq_some_iff_getElem.mp hi
    exact Nat.lt_of_lt_of_le hlt (List.length_take_le' _ _)
  · cases h

end Table

/-- A table of which a state has been found is in the library. -/
theorem Library.lt_of_stateId {library : Library} {id : TableId} {name : String} {s : StateId}
    (h : (library.table id).stateId name = .ok s) : id < library.length := by
  by_contra hge
  have hempty : library.table id = Table.empty := by
    rw [table, List.getD_eq_getElem?_getD, List.getElem?_eq_none (Nat.le_of_not_lt hge)]
    rfl
  rw [hempty] at h
  cases h

/-! ## Rules -/

namespace Build

variable {library : Library} {g : Grammar} {state : String} {s : Stock}
  {rules : StateId → List Rule} {combined : List Combined}

theorem delegate_closed {spec : DelegateSpec} {d : Delegate}
    (h : delegate library g.stateNames state spec = .ok d) :
    d.Closed library (g.assemble rules combined) := by
  obtain ⟨stack, hstack, h⟩ := bind_eq_ok_iff.mp h
  cases h
  have hnames : spec.stack.mapM (library.target (g.assemble rules combined) spec.target).stateId
      = .ok stack := by
    refine mapM_eq_ok_iff.mpr ((mapM_eq_ok_iff.mp hstack).imp fun name id hid => ?_)
    cases htarget : spec.target with
    | this =>
      rw [htarget] at hid
      exact assemble_stateId (findIdx?_of_localState hid)
    | table table =>
      rw [htarget] at hid
      exact mapError_eq_ok_iff.mp hid
  refine ⟨fun id hid => ?_, spec.stack, spec.stack_ne_nil, hnames⟩
  obtain ⟨name, hname⟩ := List.exists_mem_of_ne_nil _ spec.stack_ne_nil
  obtain ⟨first, -, hfirst⟩ := exists_of_forall₂ (mapM_eq_ok_iff.mp hnames) hname
  rw [show spec.target = .table id from hid] at hfirst
  exact Library.lt_of_stateId hfirst

theorem groupAction_delegate? {group : GroupSpec} {x : GroupAction}
    (h : groupAction library g.stateNames state group = .ok x) {d : Delegate}
    (hd : x.delegate? = some d) : ∃ spec, delegate library g.stateNames state spec = .ok d := by
  cases group with
  | kind kind =>
    cases h
    cases hd
  | skip =>
    cases h
    cases hd
  | delegate spec =>
    obtain ⟨d', hd', rfl⟩ := map_eq_ok_iff.mp h
    cases hd
    exact ⟨spec, hd'⟩

theorem action_closed {m : Option Pooled} {spec : ActionSpec} {a : Action}
    (h : action library g.stateNames state m spec = .ok a) :
    (∀ d ∈ a.delegates, d.Closed library (g.assemble rules combined)) ∧
    ∀ list, a = .groups list → ∃ p ∈ m, p.matcher.groupCount = list.length := by
  cases spec with
  | nothing =>
    cases h
    exact ⟨fun d hd => absurd hd List.not_mem_nil, nofun⟩
  | kind kind =>
    cases h
    exact ⟨fun d hd => absurd hd List.not_mem_nil, nofun⟩
  | delegate spec =>
    obtain ⟨d, hd, rfl⟩ := map_eq_ok_iff.mp h
    exact ⟨fun d' hd' => List.mem_singleton.mp hd' ▸ delegate_closed hd, nofun⟩
  | groups specs =>
    cases m with
    | none => cases h
    | some p =>
      unfold action at h
      dsimp only at h
      split at h
      · next hcount =>
        obtain ⟨list, hlist, rfl⟩ := map_eq_ok_iff.mp h
        have hall := mapM_eq_ok_iff.mp hlist
        refine ⟨fun d hd => ?_, fun list' heq => ⟨p, rfl, ?_⟩⟩
        · obtain ⟨x, hx, hxd⟩ := List.mem_filterMap.mp hd
          obtain ⟨group, -, hgroup⟩ := exists_of_forall₂ hall.flip hx
          obtain ⟨spec, hspec⟩ := groupAction_delegate? hgroup hxd
          exact delegate_closed hspec
        · cases heq
          rw [hcount, hall.length_eq]
      · cases h

/-- The states of a table are the defined ones and the synthetic ones. -/
theorem assemble_length : (g.assemble rules combined).states.length
    = g.stateNames.length + combined.length := by
  simp [assemble, ids, stateNames]

theorem stackOp_closed {op : StackOpSpec} {x : StackOp}
    (h : stackOp g.stateNames "" op s = .ok (x, s)) :
    ∀ id ∈ x.state?, (g.assemble rules s.combined).Has id := by
  have hlocal : ∀ {target : String} {id : StateId},
      localState g.stateNames "" target = .ok id → (g.assemble rules s.combined).Has id :=
    fun hid => Table.has_of_stateId (assemble_stateId (findIdx?_of_localState hid))
  intro id hid
  cases op with
  | push target =>
    obtain ⟨id', hid', h⟩ := bind_eq_ok_iff.mp h
    cases h
    cases hid
    exact hlocal hid'
  | goto target =>
    obtain ⟨id', hid', h⟩ := bind_eq_ok_iff.mp h
    cases h
    cases hid
    exact hlocal hid'
  | pushCurrent =>
    cases h
    cases hid
  | pop count =>
    cases h
    cases hid
  | pushCombined targets =>
    obtain ⟨i, parts, hi, rfl, -⟩ := stackOp_placed h targets rfl
    cases hid
    obtain ⟨hlt, -, -⟩ := List.findIdx?_eq_some_iff_getElem.mp hi
    rw [Table.Has, assemble_length]
    exact Nat.add_lt_add_left hlt _

/-- A rule that has been compiled refers only to states of the table. -/
theorem rule_closed {spec : RuleSpec} {x : Rule}
    (h : rule library g.stateNames "" spec s = .ok (x, s)) :
    x.Closed library (g.assemble rules s.combined) := by
  obtain ⟨-, haction, hops⟩ := rule_parts h
  obtain ⟨hdelegates, hgroups⟩ := action_closed haction
  refine ⟨fun op hop => ?_, hdelegates, hgroups⟩
  obtain ⟨spec', -, hspec⟩ := exists_of_forall₂ hops.flip hop
  exact stackOp_closed hspec

end Build

/-! ## Tables -/

namespace Grammar

variable {library : Library} {g : Grammar} {rules : StateId → List Rule}
  {combined : List Combined} {id : StateId} {r : Rule} {t : Table}

/-- Every rule of a table is one of a defined state. -/
theorem exists_of_mem_assemble_rules (h : r ∈ (g.assemble rules combined).rules id) :
    ∃ id', r ∈ rules id' := by
  unfold Table.rules at h
  split at h
  · next found hfound =>
    rcases List.mem_append.mp (List.mem_of_getElem? hfound) with hmem | hmem
    · obtain ⟨id', -, rfl⟩ := List.mem_map.mp hmem
      exact ⟨id', h⟩
    · obtain ⟨c, -, rfl⟩ := List.mem_map.mp hmem
      obtain ⟨part, -, hr⟩ := List.mem_flatMap.mp h
      exact ⟨part, hr⟩
  · cases h

theorem rule_of_mem_rulesAt {s : Stock} (hs : g.stock? library = some s)
    (h : r ∈ g.rulesAt library s id) :
    ∃ name ∈ g.stateNames, ∃ spec ∈ g.flat name,
      Build.rule library g.stateNames "" spec s = .ok (r, s) := by
  obtain ⟨⟨xs, s'⟩, hall, rfl⟩ := Option.map_eq_some_iff.mp hs
  unfold rulesAt at h
  split at h
  · next hid =>
    have hname : stateName g id ∈ g.stateNames := by
      rw [← ids_map_stateName]
      exact List.mem_map_of_mem (mem_ids.mpr hid)
    obtain ⟨ys, hys⟩ := rules?_of_mem hall hname
    rw [hys] at h
    exact ⟨_, hname, exists_of_forall₂ (rules?_each hys).flip h⟩
  · cases h

/-- All rules of a table that has been built refer only to states that there are. -/
theorem build_closed (h : g.build library = .ok t) : t.Closed library := by
  obtain ⟨s, hs, rfl⟩ := (build_eq_ok_iff (build_wellSpliced h)).mp h
  intro id r hr
  obtain ⟨id', hr'⟩ := exists_of_mem_assemble_rules hr
  obtain ⟨-, -, spec, -, hspec⟩ := rule_of_mem_rulesAt hs hr'
  exact rule_closed hspec

end Grammar

/-! ## Libraries that grow -/

section

variable {library : Library} {t : Table} {n : Nat}

theorem Library.table_take {id : TableId} (h : id < (library.take n).length) :
    library.table id = Library.table (library.take n) id := by
  have hlt : id < n := Nat.lt_of_lt_of_le h (List.length_take_le _ _)
  have hget : (library.take n)[id]? = library[id]? := List.getElem?_take_of_lt hlt
  rw [table, table, List.getD_eq_getElem?_getD, List.getD_eq_getElem?_getD, hget]

theorem Delegate.Closed.grow {d : Delegate} (h : d.Closed (library.take n) t) :
    d.Closed library t := by
  obtain ⟨hknown, names, hne, hnames⟩ := h
  refine ⟨fun id hid => Nat.lt_of_lt_of_le (hknown id hid) (List.length_take_le' _ _),
    names, hne, ?_⟩
  have htarget : library.target t d.target = Library.target (library.take n) t d.target := by
    cases hd : d.target with
    | this => rfl
    | table id => exact Library.table_take (hknown id hd)
  rwa [htarget]

theorem Table.Closed.grow (h : t.Closed (library.take n)) : t.Closed library :=
  fun id r hr => ⟨(h id r hr).ops, fun d hd => ((h id r hr).delegates d hd).grow,
    (h id r hr).groups⟩

theorem Table.BuiltOn.closed (h : t.BuiltOn library) : t.Closed library := by
  obtain ⟨g, n, hbuild⟩ := h
  exact (build_closed hbuild).grow

end

end TableLexer
