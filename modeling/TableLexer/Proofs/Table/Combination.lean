import TableLexer.Proofs.Table.Splices

/-!
# Combined states

A rule that pushes a combination of states pushes a synthetic state, which goes by the
names of its parts joined by `+`. The first combination of a name decides which rules
the state has. So every combination has the rules it lists exactly if those of one name
list the same rules, which is certain as long as no state has a `+` in its name.

Results:
1. `rules?_combined`: synthetic states come from the combinations of the rules.
2. `build_placed`: the rules of a table beside the rules as they are written.
3. `combines_iff`: when all combinations have the rules they list.
4. `combines_of_plain`: they do if no name of a state contains the joint.
-/

namespace TableLexer

open Grammar

/-! ## Lists side by side -/

section

variable {α β : Type} {R S : α → β → Prop} {l : List α} {m : List β}

theorem forall₂_and (h : List.Forall₂ R l m) (h' : List.Forall₂ S l m) :
    List.Forall₂ (fun a b => R a b ∧ S a b) l m := by
  induction h with
  | nil => exact .nil
  | cons hab _ ih =>
    cases h' with
    | cons hab' hrest => exact .cons ⟨hab, hab'⟩ (ih hrest)

theorem forall₂_imp_of_mem (hRS : ∀ a ∈ l, ∀ b, R a b → S a b) (h : List.Forall₂ R l m) :
    List.Forall₂ S l m := by
  induction h with
  | nil => exact .nil
  | cons hab _ ih =>
    exact .cons (hRS _ List.mem_cons_self _ hab)
      (ih fun a ha => hRS a (List.mem_cons_of_mem _ ha))

theorem exists_of_forall₂ (h : List.Forall₂ R l m) {a : α} (ha : a ∈ l) :
    ∃ b ∈ m, R a b := by
  induction h with
  | nil => exact absurd ha List.not_mem_nil
  | @cons x y l m hxy _ ih =>
    rcases List.mem_cons.mp ha with rfl | ha
    · exact ⟨y, List.mem_cons_self, hxy⟩
    · obtain ⟨b, hb, hab⟩ := ih ha
      exact ⟨b, List.mem_cons_of_mem _ hb, hab⟩

end

/-! ## Combinations of a grammar -/

/-- The states that a change of the stack combines. -/
def StackOpSpec.combination? : StackOpSpec → Option (List String)
  | .pushCombined targets => some targets
  | _ => none

/-- The combinations that a rule pushes. -/
def RuleSpec.combinations (r : RuleSpec) : List (List String) :=
  r.ops.filterMap StackOpSpec.combination?

/-- The combinations that the rules of the states push. -/
def Grammar.combinations (g : Grammar) : List (List String) :=
  g.stateNames.flatMap fun name => (g.flat name).flatMap RuleSpec.combinations

theorem RuleSpec.mem_combinations {r : RuleSpec} {targets : List String} :
    targets ∈ r.combinations ↔ StackOpSpec.pushCombined targets ∈ r.ops := by
  rw [combinations, List.mem_filterMap]
  constructor
  · rintro ⟨op, hop, h⟩
    cases op <;> simp [StackOpSpec.combination?] at h
    exact h ▸ hop
  · intro h
    exact ⟨_, h, rfl⟩

theorem Grammar.mem_combinations {g : Grammar} {targets : List String} :
    targets ∈ g.combinations ↔ ∃ name ∈ g.stateNames, ∃ r ∈ g.flat name,
      StackOpSpec.pushCombined targets ∈ r.ops := by
  simp only [combinations, List.mem_flatMap, RuleSpec.mem_combinations]

namespace Build

variable {library : Library} {names : List String} {s t : Stock}

/-! ## Where synthetic states come from -/

/-- The synthetic state stands for one of the combinations. -/
def StandsFor (names : List String) (combinations : List (List String)) (c : Combined) :
    Prop :=
  ∃ targets ∈ combinations, c.name = combinedName targets ∧
    targets.mapM (localState names "") = .ok c.parts

theorem StandsFor.mono {l m : List (List String)} {c : Combined} (h : StandsFor names l c)
    (hsub : l ⊆ m) : StandsFor names m c := by
  obtain ⟨targets, hmem, hc⟩ := h
  exact ⟨targets, hsub hmem, hc⟩

theorem stackOp_combined {op : StackOpSpec} {x : StackOp}
    (h : stackOp names "" op s = .ok (x, t)) {c : Combined} (hc : c ∈ t.combined) :
    c ∈ s.combined ∨ StandsFor names op.combination?.toList c := by
  cases op with
  | pushCombined targets =>
    obtain ⟨⟨id, s'⟩, hcomb, h⟩ := bind_eq_ok_iff.mp h
    cases h
    obtain ⟨parts, hparts, ⟨i, -, -, rfl⟩ | ⟨-, -, rfl⟩⟩ := combine_cases hcomb
    · exact .inl hc
    · rcases List.mem_append.mp hc with hc | hc
      · exact .inl hc
      · rw [List.mem_singleton.mp hc]
        exact .inr ⟨targets, by simp [StackOpSpec.combination?], rfl, hparts⟩
  | push target =>
    obtain ⟨id, -, h⟩ := bind_eq_ok_iff.mp h
    cases h
    exact .inl hc
  | goto target =>
    obtain ⟨id, -, h⟩ := bind_eq_ok_iff.mp h
    cases h
    exact .inl hc
  | pushCurrent =>
    cases h
    exact .inl hc
  | pop count =>
    cases h
    exact .inl hc

theorem stackOps_combined {ops : List StackOpSpec} {xs : List StackOp}
    (h : stackOps names "" ops s = .ok (xs, t)) {c : Combined} (hc : c ∈ t.combined) :
    c ∈ s.combined ∨ StandsFor names (ops.filterMap StackOpSpec.combination?) c := by
  induction ops generalizing s xs with
  | nil =>
    cases h
    exact .inl hc
  | cons op ops ih =>
    obtain ⟨⟨x, s₁⟩, hop, h⟩ := bind_eq_ok_iff.mp h
    obtain ⟨⟨ys, s₂⟩, hops, h⟩ := bind_eq_ok_iff.mp h
    cases h
    have hsub : ops.filterMap StackOpSpec.combination?
        ⊆ (op :: ops).filterMap StackOpSpec.combination? := by
      intro targets ht
      obtain ⟨op', hop', heq⟩ := List.mem_filterMap.mp ht
      exact List.mem_filterMap.mpr ⟨op', List.mem_cons_of_mem _ hop', heq⟩
    rcases ih hops with hs₁ | hstands
    · rcases stackOp_combined hop hs₁ with hs | hstands
      · exact .inl hs
      · refine .inr (hstands.mono fun targets ht => ?_)
        exact List.mem_filterMap.mpr ⟨op, List.mem_cons_self, Option.mem_toList.mp ht⟩
    · exact .inr (hstands.mono hsub)

/-- Synthetic states come from the combinations that the rules push. -/
theorem rules?_combined {l : List RuleSpec} {xs : List Rule}
    (h : rules? library names l s = some (xs, t)) {c : Combined} (hc : c ∈ t.combined) :
    c ∈ s.combined ∨ StandsFor names (l.flatMap RuleSpec.combinations) c := by
  induction l generalizing s xs with
  | nil =>
    cases h
    exact .inl hc
  | cons r l ih =>
    obtain ⟨x, s₁, ys, hx, hys, rfl⟩ := rules?_cons_iff.mp h
    rw [List.flatMap_cons]
    rcases ih hys with hs₁ | hstands
    · obtain ⟨pool, -, -, hops⟩ := rule_cases ((rule?_eq_some_iff "").mp hx)
      rcases stackOps_combined hops hs₁ with hs | hstands
      · exact .inl hs
      · exact .inr (hstands.mono (List.subset_append_left _ _))
    · exact .inr (hstands.mono (List.subset_append_right _ _))

/-! ## Where rules find synthetic states -/

/-- A change of the stack that pushes a combination pushes the synthetic state of its
name. -/
def Placed (names : List String) (s : Stock) (op : StackOpSpec) (x : StackOp) : Prop :=
  ∀ targets, op = .pushCombined targets →
    ∃ i parts, s.combined.findIdx? (·.name == combinedName targets) = some i ∧
      x = .push ⟨names.length + i⟩ ∧ targets.mapM (localState names "") = .ok parts

theorem stackOp_placed {op : StackOpSpec} {x : StackOp}
    (h : stackOp names "" op s = .ok (x, s)) : Placed names s op x := by
  rintro targets rfl
  obtain ⟨⟨id, s'⟩, hcomb, h⟩ := bind_eq_ok_iff.mp h
  cases h
  obtain ⟨parts, hparts, ⟨i, hi, rfl, -⟩ | ⟨-, -, hs⟩⟩ := combine_cases hcomb
  · exact ⟨i, parts, hi, rfl, hparts⟩
  · have hlen := congrArg (fun s => s.combined.length) hs
    simp at hlen

theorem rules?_placed {l : List RuleSpec} {xs : List Rule}
    (h : rules? library names l s = some (xs, s)) :
    List.Forall₂ (fun r x => List.Forall₂ (Placed names s) r.ops x.ops) l xs :=
  (rules?_each h).imp fun _ _ hrule =>
    (rule_parts hrule).2.2.imp fun _ _ hop => stackOp_placed hop

end Build

/-! ## Looking up in the table -/

namespace Grammar

open Build

variable {g : Grammar} {library : Library} {rules : StateId → List Rule}
  {combined : List Combined} {t : Table}

theorem assemble_findIdx? (target : String) :
    ((g.assemble rules combined).states.take (g.assemble rules combined).defined).findIdx?
      (·.name == target) = g.stateNames.findIdx? (· == target) := by
  have hlen : g.states.length
      = (g.ids.map fun id => State.mk (stateName g id) (rules id)).length := by simp [ids]
  have hstates : ((g.assemble rules combined).states.take g.states.length).map State.name
      = g.stateNames := by
    rw [assemble, hlen, List.take_left, List.map_map, ← ids_map_stateName]
    rfl
  rw [← hstates, List.findIdx?_map]
  rfl

theorem assemble_stateId {target : String} {i : Nat}
    (h : g.stateNames.findIdx? (· == target) = some i) :
    (g.assemble rules combined).stateId target = .ok ⟨i⟩ := by
  rw [Table.stateId, assemble_findIdx?, h]

theorem assemble_defined {id : StateId} (h : id.index < g.states.length) :
    (g.assemble rules combined).states[id.index]? = some ⟨stateName g id, rules id⟩ := by
  rw [assemble, List.getElem?_append_left (by simpa [ids] using h)]
  simp [ids, h]

theorem assemble_combined {i : Nat} {c : Combined} (h : combined[i]? = some c) :
    (g.assemble rules combined).states[g.stateNames.length + i]?
      = some ⟨c.name, c.parts.flatMap rules⟩ := by
  have hlen : (g.ids.map fun id => State.mk (stateName g id) (rules id)).length
      = g.stateNames.length := by simp [ids, stateNames]
  rw [assemble, ← hlen, List.getElem?_append_right (Nat.le_add_right _ _),
    Nat.add_sub_cancel_left, List.getElem?_map, h]
  rfl

theorem assemble_rules_defined {id : StateId} (h : id.index < g.states.length) :
    (g.assemble rules combined).rules id = rules id := by
  rw [Table.rules, assemble_defined h]

theorem assemble_rules_combined {i : Nat} {c : Combined} (h : combined[i]? = some c) :
    (g.assemble rules combined).rules ⟨g.stateNames.length + i⟩ = c.parts.flatMap rules := by
  rw [Table.rules, assemble_combined h]

theorem assemble_resolve {target : String} {i : Nat}
    (h : g.stateNames.findIdx? (· == target) = some i) :
    (g.assemble rules combined).resolve target = .ok (rules ⟨i⟩) := by
  rw [Table.resolve, assemble_stateId h]
  exact congrArg Except.ok (assemble_rules_defined (stateName_of_findIdx? h).1)

theorem findIdx?_of_localState {names : List String} {state target : String} {id : StateId}
    (h : localState names state target = .ok id) :
    names.findIdx? (· == target) = some id.index := by
  unfold localState at h
  split at h
  · cases h
  · split at h
    · next i hi =>
      cases h
      exact hi
    · cases h

end Grammar

/-- The rules of the listed states, in order. -/
def Table.combination (t : Table) (targets : List String) : Except UndefinedState (List Rule) :=
  (targets.mapM t.resolve).map List.flatten

theorem Grammar.assemble_combination {g : Grammar} {rules : StateId → List Rule}
    {combined : List Build.Combined} {targets : List String} {parts : List StateId}
    (h : targets.mapM (Build.localState g.stateNames "") = .ok parts) :
    (g.assemble rules combined).combination targets = .ok (parts.flatMap rules) := by
  have hresolve : targets.mapM (g.assemble rules combined).resolve = .ok (parts.map rules) := by
    rw [mapM_eq_ok_iff, List.forall₂_map_right_iff]
    exact (mapM_eq_ok_iff.mp h).imp fun target id hid =>
      assemble_resolve (findIdx?_of_localState hid)
  rw [Table.combination, hresolve, List.flatMap_def]
  rfl

/-! ## Combinations and their rules -/

/-- A combination is pushed as a state of the table that has exactly the rules of the
listed states, in order. -/
def Table.Combines (t : Table) (op : StackOpSpec) (x : StackOp) : Prop :=
  ∀ targets, op = .pushCombined targets →
    ∃ id, x = .push id ∧ id.index < t.states.length ∧
      t.combination targets = .ok (t.rules id)

namespace Grammar

open Build

variable {g : Grammar} {library : Library} {t : Table}

/-- Of each state, all combinations that its rules push have the rules they list. -/
def CombinesAll (g : Grammar) (t : Table) : Prop :=
  ∀ name ∈ g.stateNames, ∃ rules, t.resolve name = .ok rules ∧
    List.Forall₂ (fun r x => List.Forall₂ t.Combines r.ops x.ops) (g.flat name) rules

/-- Two combinations of one name list the same rules. -/
def CombinesAlike (g : Grammar) (t : Table) : Prop :=
  ∀ a ∈ g.combinations, ∀ b ∈ g.combinations,
    combinedName a = combinedName b → t.combination a = t.combination b

/-- The synthetic states of a table, and what pushes them. -/
structure Placement (g : Grammar) (t : Table) (s : Stock) : Prop where
  /-- Combinations are pushed as the synthetic state of their name. -/
  placed : ∀ name ∈ g.stateNames, ∃ xs, t.resolve name = .ok xs ∧
    List.Forall₂ (fun r x => List.Forall₂ (Placed g.stateNames s) r.ops x.ops) (g.flat name) xs
  /-- A synthetic state has the rules of some combination of its name. -/
  stands : ∀ i c, s.combined[i]? = some c → g.stateNames.length + i < t.states.length ∧
    ∃ targets ∈ g.combinations, c.name = combinedName targets ∧
      t.combination targets = .ok (t.rules ⟨g.stateNames.length + i⟩)

/-- The rules of a state can be compiled again with the stock at the end. -/
theorem rules?_rulesAt {s : Stock} {name : String} {i : Nat} (hs : g.stock? library = some s)
    (hi : g.stateNames.findIdx? (· == name) = some i) :
    rules? library g.stateNames (g.flat name) s = some (g.rulesAt library s ⟨i⟩, s) := by
  obtain ⟨⟨xs, s'⟩, hall, rfl⟩ := Option.map_eq_some_iff.mp hs
  obtain ⟨hlt, hstate⟩ := stateName_of_findIdx? hi
  have hname : name ∈ g.stateNames := by
    obtain ⟨hidx, hget, -⟩ := List.findIdx?_eq_some_iff_getElem.mp hi
    exact beq_iff_eq.mp hget ▸ List.getElem_mem hidx
  obtain ⟨ys, hys⟩ := rules?_of_mem hall hname
  rw [rulesAt, if_pos hlt, hstate, hys]
  rfl

/-- A grammar that builds splices well, so its table can be read off the flat lists. -/
theorem build_placed (h : g.build library = .ok t) : ∃ s, g.Placement t s := by
  obtain ⟨s', hs, rfl⟩ := (build_eq_ok_iff (build_wellSpliced h)).mp h
  obtain ⟨⟨xs, s⟩, hall, heq⟩ := Option.map_eq_some_iff.mp hs
  obtain rfl : s = s' := heq
  refine ⟨s, fun name hname => ?_, fun i c hc => ⟨?_, ?_⟩⟩
  · obtain ⟨i, hi⟩ := findIdx?_of_mem hname
    exact ⟨_, assemble_resolve hi, rules?_placed (rules?_rulesAt hs hi)⟩
  · obtain ⟨hlt, -⟩ := List.getElem?_eq_some_iff.mp hc
    simpa [assemble, ids, stateNames] using hlt
  · have hmem : c ∈ s.combined := List.mem_of_getElem? hc
    rcases rules?_combined hall hmem with hnone | ⟨targets, ht, hname, hparts⟩
    · exact absurd hnone List.not_mem_nil
    · refine ⟨targets, ?_, hname, ?_⟩
      · rw [combinations, ← List.flatMap_assoc]
        exact ht
      · rw [assemble_combination hparts, assemble_rules_combined hc]

/-- A combination is pushed as the state of its joined name, with the rules of the first
combination of that name, which may be another list. -/
theorem Placement.combines {s : Stock} (h : g.Placement t s) (hsame : g.CombinesAlike t)
    {op : StackOpSpec} {x : StackOp} (hplaced : Placed g.stateNames s op x)
    (hop : ∀ targets, op = .pushCombined targets → targets ∈ g.combinations) :
    t.Combines op x := by
  intro targets htargets
  obtain ⟨i, parts, hi, rfl, -⟩ := hplaced targets htargets
  obtain ⟨hlt, hname, -⟩ := List.findIdx?_eq_some_iff_getElem.mp hi
  obtain ⟨hrange, first, hfirst, hc, hrules⟩ := h.stands i _ (List.getElem?_eq_getElem hlt)
  refine ⟨_, rfl, hrange, ?_⟩
  have hjoint : combinedName first = combinedName targets := hc.symm.trans (beq_iff_eq.mp hname)
  rw [← hsame first hfirst targets (hop targets htargets) hjoint, hrules]

theorem Placement.combinesAll {s : Stock} (h : g.Placement t s) (hsame : g.CombinesAlike t) :
    g.CombinesAll t := by
  intro name hname
  obtain ⟨xs, hxs, hplaced⟩ := h.placed name hname
  refine ⟨xs, hxs, forall₂_imp_of_mem (fun r hr x hx => ?_) hplaced⟩
  refine forall₂_imp_of_mem (fun op hop y hy => h.combines hsame hy ?_) hx
  rintro targets rfl
  exact mem_combinations.mpr ⟨name, hname, r, hr, hop⟩

/-- Two combinations of one joined name are pushed as the one synthetic state of that name. -/
theorem Placement.alike {s : Stock} (h : g.Placement t s) (hall : g.CombinesAll t) :
    g.CombinesAlike t := by
  have hfound : ∀ targets ∈ g.combinations, ∃ i,
      s.combined.findIdx? (·.name == combinedName targets) = some i ∧
        t.combination targets = .ok (t.rules ⟨g.stateNames.length + i⟩) := by
    intro targets ht
    obtain ⟨name, hname, r, hr, hop⟩ := mem_combinations.mp ht
    obtain ⟨xs, hxs, hplaced⟩ := h.placed name hname
    obtain ⟨xs', hxs', hcombines⟩ := hall name hname
    rw [hxs] at hxs'
    cases hxs'
    obtain ⟨x, -, hx, hx'⟩ := exists_of_forall₂ (forall₂_and hplaced hcombines) hr
    obtain ⟨y, -, hy, hy'⟩ := exists_of_forall₂ (forall₂_and hx hx') hop
    obtain ⟨i, parts, hi, rfl, -⟩ := hy targets rfl
    obtain ⟨id, hid, -, hrules⟩ := hy' targets rfl
    cases hid
    exact ⟨i, hi, hrules⟩
  intro a ha b hb hab
  obtain ⟨i, hi, hrules⟩ := hfound a ha
  obtain ⟨j, hj, hrules'⟩ := hfound b hb
  rw [hab, hj] at hi
  cases hi
  rw [hrules, hrules']

/-! ## Names without the joint -/

theorem Placement.resolved {s : Stock} (h : g.Placement t s) {targets : List String}
    (ht : targets ∈ g.combinations) :
    ∃ parts, targets.mapM (localState g.stateNames "") = .ok parts := by
  obtain ⟨name, hname, r, hr, hop⟩ := mem_combinations.mp ht
  obtain ⟨xs, -, hplaced⟩ := h.placed name hname
  obtain ⟨x, -, hx⟩ := exists_of_forall₂ hplaced hr
  obtain ⟨y, -, hy⟩ := exists_of_forall₂ hx hop
  obtain ⟨i, parts, -, -, hparts⟩ := hy targets rfl
  exact ⟨parts, hparts⟩

theorem mem_stateNames_of_localState {state target : String} {id : StateId}
    (h : localState g.stateNames state target = .ok id) :
    target ∈ g.stateNames ∧ target ≠ "" := by
  obtain ⟨hlt, hname, -⟩ := List.findIdx?_eq_some_iff_getElem.mp (findIdx?_of_localState h)
  refine ⟨?_, ?_⟩
  · rw [← beq_iff_eq.mp hname]
    exact List.getElem_mem hlt
  · rintro rfl
    cases h

/-- The joint separates the names that do not contain it. -/
theorem splitOn_combinedName {targets : List String} (h : ∀ name ∈ targets, '+' ∉ name.toList)
    (hne : targets ≠ []) :
    (combinedName targets).toList.splitOn '+' = targets.map String.toList := by
  have hjoint : "+".toList = ['+'] := rfl
  rw [combinedName, String.toList_intercalate, hjoint]
  refine List.splitOn_intercalate '+' ?_ (by simpa using hne)
  intro l hl
  obtain ⟨name, hname, rfl⟩ := List.mem_map.mp hl
  exact h name hname

theorem combinedName_injective {a b : List String}
    (ha : ∀ name ∈ a, '+' ∉ name.toList ∧ name ≠ "")
    (hb : ∀ name ∈ b, '+' ∉ name.toList ∧ name ≠ "") (h : combinedName a = combinedName b) :
    a = b := by
  have hnil : ∀ {l : List String}, (∀ name ∈ l, '+' ∉ name.toList ∧ name ≠ "") →
      combinedName l = combinedName [] → l = [] := by
    intro l hl heq
    by_contra hne
    have hsplit := splitOn_combinedName (fun name hn => (hl name hn).1) hne
    rw [heq] at hsplit
    obtain ⟨name, hname⟩ := List.exists_mem_of_ne_nil l hne
    have hempty : name.toList ∈ l.map String.toList := List.mem_map_of_mem hname
    rw [← hsplit] at hempty
    have hchars : name.toList = "".toList := List.mem_singleton.mp hempty
    exact (hl name hname).2 (String.toList_injective hchars)
  by_cases hane : a = []
  · subst hane
    exact (hnil hb h.symm).symm
  · by_cases hbne : b = []
    · subst hbne
      exact hnil ha h
    · have hsplit := splitOn_combinedName (fun name hn => (ha name hn).1) hane
      rw [h, splitOn_combinedName (fun name hn => (hb name hn).1) hbne] at hsplit
      have hinj : Function.Injective String.toList := fun _ _ => String.toList_injective
      exact (List.map_injective_iff.mpr hinj hsplit).symm

/-- As long as no state has a `+` in its name, all combinations have the rules they
list. -/
theorem combines_of_plain (h : g.build library = .ok t)
    (hplain : ∀ name ∈ g.stateNames, '+' ∉ name.toList) : g.CombinesAll t := by
  obtain ⟨s, hs⟩ := build_placed h
  have hnames : ∀ targets ∈ g.combinations, ∀ name ∈ targets,
      '+' ∉ name.toList ∧ name ≠ "" := by
    intro targets ht name hname
    obtain ⟨parts, hparts⟩ := hs.resolved ht
    obtain ⟨id, -, hid⟩ := exists_of_forall₂ (mapM_eq_ok_iff.mp hparts) hname
    obtain ⟨hmem, hne⟩ := mem_stateNames_of_localState hid
    exact ⟨hplain name hmem, hne⟩
  refine hs.combinesAll fun a ha b hb hab => ?_
  rw [combinedName_injective (hnames a ha) (hnames b hb) hab]

/-! ## The exact condition -/

/-- In a table that has been built, all combinations have the rules they list exactly
if those of one name list the same rules. -/
theorem combines_iff (h : g.build library = .ok t) : g.CombinesAll t ↔ g.CombinesAlike t := by
  obtain ⟨s, hs⟩ := build_placed h
  exact ⟨hs.alike, hs.combinesAll⟩

/-- A grammar with two combinations that have different names. -/
def twoCombinations : Grammar :=
  ((Grammar.new "two").state rootState
    [.rule ⟨some (.regex "w".toList), .kind .text, [.pushCombined ["a", rootState]]⟩,
    .rule ⟨some (.regex "x".toList), .kind .text, [.pushCombined ["a", "a"]]⟩]).state "a"
    [.rule ⟨some (.regex "y".toList), .kind .name, [.pop 1]⟩]

theorem combines_iff_twoCombinations :
    ∃ t, twoCombinations.build [] = .ok t ∧ twoCombinations.CombinesAll t := by
  obtain ⟨t, ht, halike⟩ : ∃ t, twoCombinations.build [] = .ok t ∧
      twoCombinations.CombinesAlike t := by
    refine ⟨_, rfl, ?_⟩
    unfold CombinesAlike
    decide
  exact ⟨t, ht, (combines_iff ht).mpr halike⟩

/-- A grammar with two combinations of one name, `a+b+c`. -/
def clashing : Grammar :=
  (((((Grammar.new "clashing").state rootState
    [.rule ⟨some (.regex "w".toList), .kind .text, [.pushCombined ["a+b", "c"]]⟩,
    .rule ⟨some (.regex "x".toList), .kind .text, [.pushCombined ["a", "b+c"]]⟩]).state "a"
    [.rule ⟨some (.regex "y".toList), .kind .name, []⟩]).state "b+c" []).state "a+b"
    [.rule ⟨some (.regex "y".toList), .kind .keyword, []⟩]).state "c" []

theorem not_combinesAll_clashing :
    ∃ t, clashing.build [] = .ok t ∧ ¬ clashing.CombinesAll t := by
  obtain ⟨t, ht, hne⟩ : ∃ t, clashing.build [] = .ok t ∧
      t.combination ["a+b", "c"] ≠ t.combination ["a", "b+c"] :=
    ⟨_, rfl, by decide⟩
  obtain ⟨s, hs⟩ := build_placed ht
  exact ⟨t, ht, fun hall => hne (hs.alike hall _ (by decide) _ (by decide) (by decide))⟩

end Grammar

end TableLexer
