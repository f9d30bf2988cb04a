import TableLexer.Proofs.Grammar.Reorder
import TableLexer.Proofs.Run.Renaming
import TableLexer.Proofs.Table.Validity

/-!
# Tables do not depend on the order of states

If the states of a grammar are defined in another order, their ids change, and with them
the order in which states are made ready, in which patterns are compiled and in which
synthetic states are made. The table is the same one, but for what its states are called by
their ids. A state that both tables have is found by its name: a defined one by the name it
is defined with, a synthetic one by the joined name of the combination.

Results:
1. `locate?_injective`: an id is that of one state only.
2. `rule_renamed`, `rules_renamed`: rules compiled in another order refer to corresponding
   states.
3. `Reordered.stock?`: in another order a grammar builds as well.
4. `assemble_renamed`: the tables differ only in ids.
5. `build_reordered`: so runs of both tables show the same.
-/

namespace TableLexer

open Grammar Build

section

variable {α β γ : Type} {P : α → β → Prop} {Q : α → γ → Prop} {R : β → γ → Prop} {l : List α}
  {m : List β} {n : List γ}

/-- What stands beside one list in two ways stands side by side. -/
theorem forall₂_of_common (h : List.Forall₂ P l m) (h' : List.Forall₂ Q l n)
    (hR : ∀ a ∈ l, ∀ b c, P a b → Q a c → R b c) : List.Forall₂ R m n := by
  induction h generalizing n with
  | nil =>
    cases h'
    exact .nil
  | cons hab _ ih =>
    cases h' with
    | cons hac hrest =>
      exact .cons (hR _ List.mem_cons_self _ _ hab hac)
        (ih hrest fun a ha => hR a (List.mem_cons_of_mem _ ha))

end

/-- The name by which an element is found is its own. -/
theorem name_of_findIdx? {α : Type} {f : α → String} {name : String} {l : List α} {i : Nat}
    (h : l.findIdx? (f · == name) = some i) : ∃ a, l[i]? = some a ∧ f a = name := by
  obtain ⟨hlt, hname, -⟩ := List.findIdx?_eq_some_iff_getElem.mp h
  exact ⟨l[i], List.getElem?_eq_getElem hlt, beq_iff_eq.mp hname⟩

theorem findIdx?_of_not_mem {name : String} {names : List String} (h : name ∉ names) :
    names.findIdx? (· == name) = none :=
  List.findIdx?_eq_none_iff.mpr fun _ ha => beq_eq_false_iff_ne.mpr (ne_of_mem_of_not_mem ha h)

namespace Grammar

/-! ## States by name -/

/-- The id of the state of a name, a synthetic state or a defined one. -/
def locate? (g : Grammar) (s : Stock) (name : String) : (synthetic : Bool) → Option StateId
  | true => (s.combined.findIdx? (·.name == name)).map fun i => ⟨g.stateNames.length + i⟩
  | false => (g.stateNames.findIdx? (· == name)).map StateId.mk

variable {g g' : Grammar} {s s' : Stock} {name name' : String} {synthetic synthetic' : Bool}
  {id id' : StateId} {library : Library}

theorem locate?_defined {i : Nat} (h : g.stateNames.findIdx? (· == name) = some i) :
    g.locate? s name false = some ⟨i⟩ := by
  rw [locate?, h]
  rfl

theorem locate?_combined {i : Nat} (h : s.combined.findIdx? (·.name == name) = some i) :
    g.locate? s name true = some ⟨g.stateNames.length + i⟩ := by
  rw [locate?, h]
  rfl

/-- An id is that of one state only. -/
theorem locate?_injective (h : g.locate? s name synthetic = some id)
    (h' : g.locate? s name' synthetic' = some id) : name = name' ∧ synthetic = synthetic' := by
  cases synthetic with
  | false =>
    obtain ⟨i, hi, rfl⟩ := Option.map_eq_some_iff.mp h
    obtain ⟨a, ha, rfl⟩ := name_of_findIdx? (f := id) hi
    obtain ⟨hlt, -⟩ := List.getElem?_eq_some_iff.mp ha
    cases synthetic' with
    | false =>
      obtain ⟨j, hj, heq⟩ := Option.map_eq_some_iff.mp h'
      cases heq
      obtain ⟨b, hb, rfl⟩ := name_of_findIdx? (f := id) hj
      exact ⟨Option.some.inj (ha.symm.trans hb), rfl⟩
    | true =>
      obtain ⟨j, -, heq⟩ := Option.map_eq_some_iff.mp h'
      have hindex : g.stateNames.length + j = i := congrArg StateId.index heq
      omega
  | true =>
    obtain ⟨i, hi, rfl⟩ := Option.map_eq_some_iff.mp h
    obtain ⟨a, ha, rfl⟩ := name_of_findIdx? hi
    cases synthetic' with
    | false =>
      obtain ⟨j, hj, heq⟩ := Option.map_eq_some_iff.mp h'
      have hindex : j = g.stateNames.length + i := congrArg StateId.index heq
      obtain ⟨hlt, -, -⟩ := List.findIdx?_eq_some_iff_getElem.mp hj
      omega
    | true =>
      obtain ⟨j, hj, heq⟩ := Option.map_eq_some_iff.mp h'
      have hindex : g.stateNames.length + j = g.stateNames.length + i := congrArg StateId.index heq
      obtain rfl : j = i := Nat.add_left_cancel hindex
      obtain ⟨b, hb, rfl⟩ := name_of_findIdx? hj
      rw [Option.some.inj (ha.symm.trans hb)]
      exact ⟨rfl, rfl⟩

/-- The states of one name in the tables of two grammars. -/
def byName (g g' : Grammar) (s s' : Stock) : Renaming where
  state id id' := ∃ name synthetic,
    g.locate? s name synthetic = some id ∧ g'.locate? s' name synthetic = some id'
  unique := by
    constructor
    · rintro a b c ⟨name, synthetic, ha, hc⟩ ⟨name', synthetic', hb, hc'⟩
      obtain ⟨rfl, rfl⟩ := locate?_injective hc hc'
      exact Option.some.inj (ha.symm.trans hb)
    · rintro a b c ⟨name, synthetic, ha, hb⟩ ⟨name', synthetic', ha', hc⟩
      obtain ⟨rfl, rfl⟩ := locate?_injective ha ha'
      exact Option.some.inj (hb.symm.trans hc)

/-! ## Rules -/

theorem localState_renamed {state : String}
    (h : localState g.stateNames state name = .ok id)
    (h' : localState g'.stateNames state name = .ok id') :
    (g.byName g' s s').state id id' :=
  ⟨name, false, locate?_defined (findIdx?_of_localState h),
    locate?_defined (findIdx?_of_localState h')⟩

theorem localStates_renamed {state : String} {names : List String} {ids ids' : List StateId}
    (h : names.mapM (localState g.stateNames state) = .ok ids)
    (h' : names.mapM (localState g'.stateNames state) = .ok ids') :
    List.Forall₂ (g.byName g' s s').state ids ids' :=
  forall₂_of_common (mapM_eq_ok_iff.mp h) (mapM_eq_ok_iff.mp h')
    fun _ _ _ _ hid hid' => localState_renamed hid hid'

theorem delegate_renamed {state : String} {spec : DelegateSpec} {d d' : Delegate}
    (h : delegate library g.stateNames state spec = .ok d)
    (h' : delegate library g'.stateNames state spec = .ok d') :
    d.Renamed (g.byName g' s s') d' := by
  obtain ⟨stack, hstack, h⟩ := bind_eq_ok_iff.mp h
  obtain ⟨stack', hstack', h'⟩ := bind_eq_ok_iff.mp h'
  cases h
  cases h'
  cases htarget : spec.target with
  | this =>
    simp only [htarget] at hstack hstack'
    exact .this (localStates_renamed hstack hstack')
  | table id =>
    simp only [htarget] at hstack hstack'
    rw [Except.ok.inj (hstack.symm.trans hstack')]
    exact .table id stack'

theorem groupAction_renamed {state : String} {spec : GroupSpec} {a a' : GroupAction}
    (h : groupAction library g.stateNames state spec = .ok a)
    (h' : groupAction library g'.stateNames state spec = .ok a') :
    a.Renamed (g.byName g' s s') a' := by
  cases spec with
  | kind kind =>
    cases h
    cases h'
    exact .kind kind
  | skip =>
    cases h
    cases h'
    exact .skip
  | delegate spec =>
    obtain ⟨d, hd, rfl⟩ := map_eq_ok_iff.mp h
    obtain ⟨d', hd', rfl⟩ := map_eq_ok_iff.mp h'
    exact .delegate (delegate_renamed hd hd')

theorem groups_of_action {names : List String} {state : String} {m : Option Pooled}
    {specs : List GroupSpec} {a : Action}
    (h : action library names state m (.groups specs) = .ok a) :
    ∃ groups, specs.mapM (groupAction library names state) = .ok groups ∧ .groups groups = a := by
  unfold action at h
  cases m with
  | none => cases h
  | some p =>
    dsimp only at h
    split at h
    · exact map_eq_ok_iff.mp h
    · cases h

theorem action_renamed {state : String} {m m' : Option Pooled} {spec : ActionSpec} {a a' : Action}
    (h : action library g.stateNames state m spec = .ok a)
    (h' : action library g'.stateNames state m' spec = .ok a') :
    a.Renamed (g.byName g' s s') a' := by
  cases spec with
  | nothing =>
    cases h
    cases h'
    exact .nothing
  | kind kind =>
    cases h
    cases h'
    exact .kind kind
  | delegate spec =>
    obtain ⟨d, hd, rfl⟩ := map_eq_ok_iff.mp h
    obtain ⟨d', hd', rfl⟩ := map_eq_ok_iff.mp h'
    exact .delegate (delegate_renamed hd hd')
  | groups specs =>
    obtain ⟨groups, hgroups, rfl⟩ := groups_of_action h
    obtain ⟨groups', hgroups', rfl⟩ := groups_of_action h'
    exact .groups (forall₂_of_common (mapM_eq_ok_iff.mp hgroups) (mapM_eq_ok_iff.mp hgroups')
      fun _ _ _ _ hgroup hgroup' => groupAction_renamed hgroup hgroup')

theorem stackOp_renamed {op : StackOpSpec} {x x' : StackOp}
    (h : stackOp g.stateNames "" op s = .ok (x, s))
    (h' : stackOp g'.stateNames "" op s' = .ok (x', s')) :
    x.Renamed (g.byName g' s s') x' := by
  cases op with
  | push target =>
    obtain ⟨id, hid, h⟩ := bind_eq_ok_iff.mp h
    obtain ⟨id', hid', h'⟩ := bind_eq_ok_iff.mp h'
    cases h
    cases h'
    exact .push (localState_renamed hid hid')
  | goto target =>
    obtain ⟨id, hid, h⟩ := bind_eq_ok_iff.mp h
    obtain ⟨id', hid', h'⟩ := bind_eq_ok_iff.mp h'
    cases h
    cases h'
    exact .goto (localState_renamed hid hid')
  | pushCurrent =>
    cases h
    cases h'
    exact .pushCurrent
  | pop count =>
    cases h
    cases h'
    exact .pop count
  | pushCombined targets =>
    obtain ⟨i, parts, hi, rfl, -⟩ := stackOp_placed h targets rfl
    obtain ⟨i', parts', hi', rfl, -⟩ := stackOp_placed h' targets rfl
    exact .push ⟨combinedName targets, true, locate?_combined hi, locate?_combined hi'⟩

end Grammar

/-! ## Grammars in another order -/

/-- Compiling the rules succeeds exactly if each of them is valid. -/
theorem Grammar.stock?_isSome_iff {g : Grammar} {library : Library} :
    (g.stock? library).isSome ↔ ∀ r ∈ g.stateNames.flatMap g.flat, r.Valid g library := by
  rw [stock?, Option.isSome_map, rules?_succeeds_iff (Pool.genuine_new g)]

namespace Grammar.Reordered

variable {g g' : Grammar} {s s' : Stock} {library : Library} {r : RuleSpec}

theorem accepts (h : g.Reordered g') {p : PatternSpec} {m : Matcher} :
    g'.Accepts p m ↔ g.Accepts p m := by
  rw [Accepts, Accepts, h.fragments, h.flags]

theorem startsIn (h : g.Reordered g') {target : Target} {name : String} :
    g'.StartsIn library target name ↔ g.StartsIn library target name := by
  cases target with
  | this => exact and_congr_right fun _ => h.mem_stateNames
  | table id => exact Iff.rfl

/-- A rule that is valid stays so. -/
theorem valid (h : g.Reordered g') (hr : r.Valid g library) : r.Valid g' library where
  pattern p hp := by
    obtain ⟨m, hm⟩ := hr.pattern p hp
    exact ⟨m, h.accepts.mpr hm⟩
  groups groups hgroups := by
    obtain ⟨p, hp, m, hm, hcount⟩ := hr.groups groups hgroups
    exact ⟨p, hp, m, h.accepts.mpr hm, hcount⟩
  delegates d hd name hname := h.startsIn.mpr (hr.delegates d hd name hname)
  ops op hop name hname := (hr.ops op hop name hname).imp_right h.mem_stateNames.mpr

variable (hn : g.stateNames.Nodup)
include hn

theorem mem_flat (h : g.Reordered g') :
    r ∈ g'.stateNames.flatMap g'.flat ↔ r ∈ g.stateNames.flatMap g.flat := by
  simp only [List.mem_flatMap, h.mem_stateNames, h.flat hn]

/-- In another order a grammar builds as well. -/
theorem stock? (h : g.Reordered g') (hs : g.stock? library = some s) :
    ∃ s', g'.stock? library = some s' := by
  have hvalid := stock?_isSome_iff.mp (Option.isSome_of_eq_some hs)
  refine Option.isSome_iff_exists.mp (stock?_isSome_iff.mpr fun r hr => ?_)
  exact h.valid (hvalid r ((h.mem_flat hn).mp hr))

end Grammar.Reordered

/-! ## Tables -/

namespace Grammar

variable {g g' : Grammar} {s s' : Stock} {name : String} {synthetic : Bool} {id id' : StateId}
  {library : Library} {rules : StateId → List Rule}

/-- Synthetic states come from the combinations that the rules push. -/
theorem stock?_combined (hs : g.stock? library = some s) {c : Combined} (hc : c ∈ s.combined) :
    StandsFor g.stateNames g.combinations c := by
  obtain ⟨⟨xs, s'⟩, hall, rfl⟩ := Option.map_eq_some_iff.mp hs
  rcases rules?_combined hall hc with hnone | hstands
  · exact absurd hnone List.not_mem_nil
  · rwa [List.flatMap_assoc] at hstands

/-- Of a rule compiled in two orders, the matchers are the same and what it refers to
corresponds. -/
theorem rule_renamed (h : g.Reordered g') (hs : s.pool.Genuine g) (hs' : s'.pool.Genuine g')
    {r : RuleSpec} {x x' : Rule} (hx : Build.rule library g.stateNames "" r s = .ok (x, s))
    (hx' : Build.rule library g'.stateNames "" r s' = .ok (x', s')) :
    x.Renamed (g.byName g' s s') x' := by
  obtain ⟨hm, haction, hops⟩ := rule_parts hx
  obtain ⟨hm', haction', hops'⟩ := rule_parts hx'
  have haccepts := (matcher_genuine hs hm).2
  have haccepts' := (matcher_genuine hs' hm').2
  refine ⟨?_, action_renamed haction haction',
    forall₂_of_common hops hops' fun _ _ _ _ hop hop' => stackOp_renamed hop hop'⟩
  generalize r.pattern = pattern at haccepts haccepts'
  generalize x.matcher = m, x'.matcher = m' at haccepts haccepts'
  cases haccepts with
  | none =>
    cases haccepts'
    rfl
  | some hp =>
    cases haccepts' with
    | some hp' => exact congrArg some (accepts_unique (h.accepts.mp hp') hp)

/-- The rules of a defined state correspond. -/
theorem rules_renamed (hn : g.stateNames.Nodup) (h : g.Reordered g')
    (hs : g.stock? library = some s) (hs' : g'.stock? library = some s') {i i' : Nat}
    (hi : g.stateNames.findIdx? (· == name) = some i)
    (hi' : g'.stateNames.findIdx? (· == name) = some i') :
    List.Forall₂ (Rule.Renamed (g.byName g' s s')) (g.rulesAt library s ⟨i⟩)
      (g'.rulesAt library s' ⟨i'⟩) := by
  have hrules := rules?_each (rules?_rulesAt hs hi)
  have hrules' := rules?_each (rules?_rulesAt hs' hi')
  rw [h.flat hn] at hrules'
  exact forall₂_of_common hrules hrules' fun _ _ _ _ hx hx' =>
    rule_renamed h (stock?_genuine hs) (stock?_genuine hs') hx hx'

/-- The rules of a synthetic state correspond if each joined name is that of one combination
only: in either order it stands for the same list, so the parts are the same states. -/
theorem combined_renamed (hn : g.stateNames.Nodup) (h : g.Reordered g')
    (hcombinations : ∀ a ∈ g.combinations, ∀ b ∈ g.combinations,
      combinedName a = combinedName b → a = b)
    (hs : g.stock? library = some s) (hs' : g'.stock? library = some s') {c c' : Combined}
    (hc : c ∈ s.combined) (hc' : c' ∈ s'.combined) (hname : c'.name = c.name) :
    List.Forall₂ (Rule.Renamed (g.byName g' s s')) (c.parts.flatMap (g.rulesAt library s))
      (c'.parts.flatMap (g'.rulesAt library s')) := by
  obtain ⟨targets, htargets, hjoined, hparts⟩ := stock?_combined hs hc
  obtain ⟨targets', htargets', hjoined', hparts'⟩ := stock?_combined hs' hc'
  have hmem : targets' ∈ g.combinations := by
    obtain ⟨name, hname, r, hr, hop⟩ := mem_combinations.mp htargets'
    rw [h.flat hn] at hr
    exact mem_combinations.mpr ⟨name, h.mem_stateNames.mp hname, r, hr, hop⟩
  obtain rfl : targets' = targets := hcombinations _ hmem _ htargets
    (hjoined'.symm.trans (hname.trans hjoined))
  have hids := forall₂_of_common (mapM_eq_ok_iff.mp hparts) (mapM_eq_ok_iff.mp hparts')
    (R := fun id id' => List.Forall₂ (Rule.Renamed (g.byName g' s s')) (g.rulesAt library s id)
      (g'.rulesAt library s' id'))
    fun _ _ _ _ hid hid' => rules_renamed hn h hs hs' (findIdx?_of_localState hid)
      (findIdx?_of_localState hid')
  exact List.rel_flatMap hids fun _ _ hrules => hrules

theorem assemble_stateId_toOption (name : String) :
    ((g.assemble rules s.combined).stateId name).toOption = g.locate? s name false := by
  rw [Table.stateId, assemble_findIdx?, locate?]
  cases g.stateNames.findIdx? (· == name) <;> rfl

theorem assemble_stateName? (h : g.locate? s name synthetic = some id) :
    (g.assemble rules s.combined).stateName? id = some name := by
  cases synthetic with
  | false =>
    obtain ⟨i, hi, rfl⟩ := Option.map_eq_some_iff.mp h
    obtain ⟨hlt, hname⟩ := stateName_of_findIdx? hi
    rw [Table.stateName?, assemble_defined hlt, hname]
    rfl
  | true =>
    obtain ⟨i, hi, rfl⟩ := Option.map_eq_some_iff.mp h
    obtain ⟨c, hc, rfl⟩ := name_of_findIdx? hi
    rw [Table.stateName?, assemble_combined hc]
    rfl

/-- The tables of a grammar and of the same one in another order differ only in the ids of
states. -/
theorem assemble_renamed (hn : g.stateNames.Nodup) (h : g.Reordered g')
    (hcombinations : ∀ a ∈ g.combinations, ∀ b ∈ g.combinations,
      combinedName a = combinedName b → a = b)
    (hs : g.stock? library = some s) (hs' : g'.stock? library = some s') :
    (g.assemble (g.rulesAt library s) s.combined).Renamed (g.byName g' s s')
      (g'.assemble (g'.rulesAt library s') s'.combined) where
  rules := by
    rintro id id' ⟨name, synthetic, hid, hid'⟩
    cases synthetic with
    | false =>
      obtain ⟨i, hi, rfl⟩ := Option.map_eq_some_iff.mp hid
      obtain ⟨i', hi', rfl⟩ := Option.map_eq_some_iff.mp hid'
      rw [assemble_rules_defined (stateName_of_findIdx? hi).1,
        assemble_rules_defined (stateName_of_findIdx? hi').1]
      exact rules_renamed hn h hs hs' hi hi'
    | true =>
      obtain ⟨i, hi, rfl⟩ := Option.map_eq_some_iff.mp hid
      obtain ⟨i', hi', rfl⟩ := Option.map_eq_some_iff.mp hid'
      obtain ⟨c, hc, hname⟩ := name_of_findIdx? hi
      obtain ⟨c', hc', hname'⟩ := name_of_findIdx? hi'
      rw [assemble_rules_combined hc, assemble_rules_combined hc']
      exact combined_renamed hn h hcombinations hs hs' (List.mem_of_getElem? hc)
        (List.mem_of_getElem? hc') (hname'.trans hname.symm)
  stateId name := by
    rw [assemble_stateId_toOption, assemble_stateId_toOption]
    by_cases hname : name ∈ g.stateNames
    · obtain ⟨i, hi⟩ := findIdx?_of_mem hname
      obtain ⟨i', hi'⟩ := findIdx?_of_mem (h.mem_stateNames.mpr hname)
      rw [locate?_defined hi, locate?_defined hi']
      exact .some ⟨name, false, locate?_defined hi, locate?_defined hi'⟩
    · have hname' : name ∉ g'.stateNames := mt h.mem_stateNames.mp hname
      rw [locate?, locate?, findIdx?_of_not_mem hname, findIdx?_of_not_mem hname']
      exact .none
  stateName? := by
    rintro id id' ⟨name, synthetic, hid, hid'⟩
    rw [assemble_stateName? hid, assemble_stateName? hid']
  resetOnNewline := h.resetOnNewline

/-- If a grammar builds in which each joined name is that of one combination only, then it
builds with its states in any other order, and runs of both tables from states of the same
names show the same. The names of the states are distinct, as they are in every grammar
that has been put together from the empty one. -/
theorem build_reordered {t : Table} (hn : g.stateNames.Nodup) (h : g.Reordered g')
    (hcombinations : ∀ a ∈ g.combinations, ∀ b ∈ g.combinations,
      combinedName a = combinedName b → a = b)
    (ht : g.build library = .ok t) :
    ∃ t', g'.build library = .ok t' ∧ t.RunsAs library t' := by
  have hg := build_wellSpliced ht
  obtain ⟨s, hs, rfl⟩ := (build_eq_ok_iff hg).mp ht
  obtain ⟨s', hs'⟩ := h.stock? hn hs
  refine ⟨_, (build_eq_ok_iff (h.wellSpliced hn hg)).mpr ⟨s', hs', rfl⟩, ?_⟩
  exact (assemble_renamed hn h hcombinations hs hs').runsAs library

/-- A grammar that splices, combines and lexes again, with two combinations of which the one
is met first in the one order and the other in the other. -/
def layered : Grammar :=
  (((Grammar.new "layered").state rootState
    [.splice "word",
    .rule ⟨some (.regex "\\(".toList), .kind .punctuation, [.pushCombined ["word", "close"]]⟩,
    .rule ⟨some (.regex "<(.)>".toList),
      .groups [.delegate ((DelegateSpec.root .this).inState "word")], []⟩]).state "word"
    [.rule ⟨some (.regex "[a-z]".toList), .kind .name, []⟩]).state "close"
    [.rule ⟨some (.regex "\\)".toList), .kind .punctuation, [.pop 1]⟩,
    .rule ⟨some (.regex ",".toList), .kind .operator, [.pushCombined ["close", rootState]]⟩]

/-- The same with the states in the opposite order. -/
def layeredBack : Grammar := { layered with states := layered.states.reverse }

theorem build_reordered_layered : ∃ t t', layered.build [] = .ok t ∧
    layeredBack.build [] = .ok t' ∧
    t.states.map State.name = [rootState, "word", "close", "word+close", "close+root"] ∧
    t'.states.map State.name = ["close", "word", rootState, "close+root", "word+close"] ∧
    t.RunsAs [] t' := by
  obtain ⟨t, ht, t', ht', hstates, hstates'⟩ : ∃ t, layered.build [] = .ok t ∧
      ∃ t', layeredBack.build [] = .ok t' ∧
      t.states.map State.name = [rootState, "word", "close", "word+close", "close+root"] ∧
      t'.states.map State.name = ["close", "word", rootState, "close+root", "word+close"] := by
    decide +kernel
  have hwritten : layered.Written := (((Written.new _).state _ _).state _ _).state _ _
  have hback : layered.Reordered layeredBack := ⟨List.reverse_perm _, rfl⟩
  obtain ⟨t'', ht'', hruns⟩ := build_reordered hwritten.nodup hback (by decide +kernel) ht
  obtain rfl : t' = t'' := Except.ok.inj (ht'.symm.trans ht'')
  exact ⟨t, t', ht, ht', hstates, hstates', hruns⟩

end Grammar

end TableLexer
