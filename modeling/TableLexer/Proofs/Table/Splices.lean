import TableLexer.Proofs.Table.Inline

/-!
# Grammars that build splice well

A state becomes ready only after the states that it splices. So when all states are
ready, they have become so in an order in which every splice goes back, and no state
takes in itself.

Results:
1. `stateIn_grounds`: making a state ready keeps the order.
2. `build_wellSpliced`: the splices of a grammar that builds are of defined states and
   make no circle.
-/

namespace TableLexer

open Grammar

namespace Build

variable {library : Library} {g : Grammar}

/-! ## The order in which states become ready -/

/-- The state with the id is among those listed. -/
def Listed (g : Grammar) (ready : List StateId) (target : String) : Prop :=
  ∃ i, g.stateNames.findIdx? (· == target) = some i ∧ StateId.mk i ∈ ready

/-- Each of the states, the latest first, splices only states after it in the list. -/
inductive Grounded (g : Grammar) : List StateId → Prop
  | nil : Grounded g []
  | cons {id : StateId} {ready : List StateId}
      (earlier : ∀ target, g.Splices (stateName g id) target → Listed g ready target)
      (rest : Grounded g ready) : Grounded g (id :: ready)

variable {p q : Progress} {ready : List StateId} {id : StateId}

/-- The states that are ready, the latest first. -/
def readyIds (p : Progress) : List StateId := p.ready.map Prod.fst

theorem Listed.mono {target : String} {more : List StateId} (h : Listed g ready target)
    (hsub : ready ⊆ more) : Listed g more target := by
  obtain ⟨i, hi, hmem⟩ := h
  exact ⟨i, hi, hsub hmem⟩

theorem Grounded.listed (h : Grounded g ready) (hid : id ∈ ready) {target : String}
    (hs : g.Splices (stateName g id) target) : Listed g ready target := by
  induction h with
  | nil => exact absurd hid List.not_mem_nil
  | cons earlier rest ih =>
    rcases List.mem_cons.mp hid with rfl | hid
    · exact (earlier target hs).mono (List.subset_cons_self _ _)
    · exact (ih hid).mono (List.subset_cons_self _ _)

theorem Grounded.acc (h : Grounded g ready) (hid : id ∈ ready) :
    Acc (fun target name => g.Splices name target) (stateName g id) := by
  induction h generalizing id with
  | nil => exact absurd hid List.not_mem_nil
  | cons earlier rest ih =>
    rcases List.mem_cons.mp hid with rfl | hid
    · refine ⟨_, fun target hs => ?_⟩
      obtain ⟨i, hi, hmem⟩ := earlier target hs
      rw [← (stateName_of_findIdx? hi).2]
      exact ih hmem
    · exact ih hid

/-- A relation without infinite descent has no circle. -/
theorem not_transGen_of_acc {r : String → String → Prop} {a : String}
    (h : Acc (fun b a => r a b) a) : ¬ Relation.TransGen r a a := by
  induction h with
  | intro a _ ih =>
    intro hcircle
    obtain ⟨b, hab, hba⟩ := Relation.TransGen.head'_iff.mp hcircle
    exact ih b hab (Relation.TransGen.tail' hba hab)

/-! ## Steps of the build -/

/-- What making states ready keeps: their order, and what was ready before. -/
structure Grounds (g : Grammar) (p q : Progress) : Prop where
  grounded : Grounded g (readyIds p) → Grounded g (readyIds q)
  keeps : readyIds p ⊆ readyIds q

theorem Grounds.refl (p : Progress) : Grounds g p p := ⟨id, fun _ h => h⟩

theorem Grounds.trans {r : Progress} (h : Grounds g p q) (h' : Grounds g q r) :
    Grounds g p r :=
  ⟨fun hp => h'.grounded (h.grounded hp), fun _ hid => h'.keeps (h.keeps hid)⟩

theorem entries_grounds {splice : StateId → Progress → Except BuildError (List Rule × Progress)}
    {state : String} {es : List Entry} {rules : List Rule}
    (hsplice : ∀ id p rules q, splice id p = .ok (rules, q) →
      Grounds g p q ∧ id ∈ readyIds q)
    (h : entries library g.stateNames splice state es p = .ok (rules, q)) :
    Grounds g p q ∧ ∀ target, Entry.splice target ∈ es → Listed g (readyIds q) target := by
  induction es generalizing p rules with
  | nil =>
    cases h
    exact ⟨.refl _, fun target ht => absurd ht List.not_mem_nil⟩
  | cons e es ih =>
    cases e with
    | splice target =>
      rw [entries] at h
      split at h
      · cases h
      · next i hi =>
        obtain ⟨⟨first, p₁⟩, hfirst, h⟩ := bind_eq_ok_iff.mp h
        obtain ⟨⟨others, q'⟩, hothers, h⟩ := bind_eq_ok_iff.mp h
        cases h
        obtain ⟨hg₁, hready⟩ := hsplice _ _ _ _ hfirst
        obtain ⟨hg₂, hlisted⟩ := ih hothers
        refine ⟨hg₁.trans hg₂, fun target' ht => ?_⟩
        rcases List.mem_cons.mp ht with heq | ht
        · cases heq
          exact ⟨i, hi, hg₂.keeps hready⟩
        · exact hlisted target' ht
    | inherit =>
      obtain ⟨hgrounds, hlisted⟩ := ih (show entries _ _ _ _ es p = _ from h)
      refine ⟨hgrounds, fun target ht => hlisted target ?_⟩
      exact (List.mem_cons.mp ht).resolve_left (by simp)
    | rule r =>
      obtain ⟨⟨first, stock⟩, -, h⟩ := bind_eq_ok_iff.mp h
      obtain ⟨⟨others, q'⟩, hothers, h⟩ := bind_eq_ok_iff.mp h
      cases h
      obtain ⟨hgrounds, hlisted⟩ := ih hothers
      refine ⟨⟨hgrounds.grounded, hgrounds.keeps⟩, fun target ht => hlisted target ?_⟩
      exact (List.mem_cons.mp ht).resolve_left (by simp)

/-- What a state splices is ready by now, so the state may come before it. -/
theorem stateWith_grounds
    {splice : List StateId → StateId → Progress → Except BuildError (List Rule × Progress)}
    {active : List StateId} {rules : List Rule}
    (hsplice : ∀ active id p rules q, splice active id p = .ok (rules, q) →
      Grounds g p q ∧ id ∈ readyIds q)
    (h : stateWith library g splice active id p = .ok (rules, q)) :
    Grounds g p q ∧ id ∈ readyIds q := by
  unfold stateWith at h
  split at h
  · next hready =>
    cases h
    obtain ⟨l, l', hl, -⟩ := List.lookup_eq_some_iff.mp hready
    refine ⟨.refl _, ?_⟩
    rw [readyIds, hl]
    simp
  · split at h
    · cases h
    · obtain ⟨⟨rules', p'⟩, hentries, h⟩ := bind_eq_ok_iff.mp h
      cases h
      obtain ⟨hgrounds, hlisted⟩ := entries_grounds (hsplice _) hentries
      refine ⟨⟨fun hp => ?_, fun id' h' => ?_⟩, List.mem_cons_self⟩
      · exact .cons hlisted (hgrounds.grounded hp)
      · exact List.mem_cons_of_mem _ (hgrounds.keeps h')

/-- Making a state ready keeps the order in which states become so. -/
theorem stateIn_grounds {depth : Nat} {active : List StateId} {rules : List Rule}
    (h : stateIn library g depth active id p = .ok (rules, q)) :
    Grounds g p q ∧ id ∈ readyIds q := by
  induction depth generalizing active id p rules q with
  | zero => exact stateWith_grounds (fun _ _ _ _ _ hnever => by cases hnever) h
  | succ depth ih => exact stateWith_grounds (fun _ _ _ _ _ hs => ih hs) h

theorem allStates_grounds {ids : List StateId} (h : allStates library g ids p = .ok q) :
    Grounds g p q ∧ ∀ id ∈ ids, id ∈ readyIds q := by
  induction ids generalizing p with
  | nil =>
    cases h
    exact ⟨.refl _, fun id hid => absurd hid List.not_mem_nil⟩
  | cons id ids ih =>
    obtain ⟨⟨rules, p₁⟩, hfirst, h⟩ := bind_eq_ok_iff.mp h
    obtain ⟨hg₁, hready⟩ := stateIn_grounds hfirst
    obtain ⟨hg₂, hall⟩ := ih h
    refine ⟨hg₁.trans hg₂, fun id' h' => ?_⟩
    rcases List.mem_cons.mp h' with rfl | h'
    · exact hg₂.keeps hready
    · exact hall id' h'

end Build

/-! ## The result -/

namespace Grammar

open Build

variable {g : Grammar} {library : Library} {t : Table}

/-- The splices of a grammar that builds are of defined states and make no circle. -/
theorem build_wellSpliced (h : g.build library = .ok t) : g.WellSpliced := by
  obtain ⟨p, hp, -⟩ := bind_eq_ok_iff.mp h
  obtain ⟨hgrounds, hready⟩ := allStates_grounds hp
  have hgrounded : Grounded g (readyIds p) := hgrounds.grounded .nil
  have hstate : ∀ name target, g.Splices name target →
      ∃ id ∈ readyIds p, stateName g id = name := by
    intro name target hs
    obtain ⟨entries, hmem, -⟩ := hs.defined
    obtain ⟨i, hi⟩ := findIdx?_of_mem (List.mem_map_of_mem hmem : name ∈ g.stateNames)
    obtain ⟨hlt, hname⟩ := stateName_of_findIdx? hi
    exact ⟨⟨i⟩, hready _ (mem_ids.mpr hlt), hname⟩
  refine ⟨fun name target hs => ?_, fun name hcircle => ?_⟩
  · obtain ⟨id, hid, rfl⟩ := hstate name target hs
    obtain ⟨i, hi, -⟩ := hgrounded.listed hid hs
    obtain ⟨hlt, hname, -⟩ := List.findIdx?_eq_some_iff_getElem.mp hi
    rw [← beq_iff_eq.mp hname]
    exact List.getElem_mem hlt
  · obtain ⟨target, hs, -⟩ := Relation.TransGen.head'_iff.mp hcircle
    obtain ⟨id, hid, rfl⟩ := hstate name target hs
    exact not_transGen_of_acc (hgrounded.acc hid) hcircle

end Grammar

end TableLexer
