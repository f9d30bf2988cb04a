import TableLexer.Proofs.Grammar.Inline

/-!
# The order of states

States are found by their names, and a grammar has each name only once. So the order in
which its states are defined is not seen by whoever looks up what is written in a state,
which states it takes in or which rules it comes down to.

Results:
1. `Written.nodup`: each name of a state occurs once in every grammar that is put together
   from the empty one.
2. `reordered_state`: new states may be defined in either order.
3. `Reordered.entries?`: what is written in a state does not depend on the order.
4. `Reordered.flat`, `Reordered.wellSpliced`: neither do its rules and its splices.
-/

namespace TableLexer

/-- With distinct keys, what a list holds for a key is what stands beside it. -/
theorem lookup_eq_some_iff_mem {α β : Type} [BEq α] [LawfulBEq α] {l : List (α × β)}
    (hl : (l.map Prod.fst).Nodup) {key : α} {value : β} :
    l.lookup key = some value ↔ (key, value) ∈ l := by
  induction l with
  | nil => simp
  | cons entry l ih =>
    obtain ⟨key', value'⟩ := entry
    rw [List.map_cons, List.nodup_cons] at hl
    rw [List.lookup_cons, List.mem_cons, ← ih hl.2]
    by_cases hkey : key = key'
    · subst hkey
      have hnone : l.lookup key ≠ some value := fun hsome =>
        hl.1 (List.mem_map.mpr ⟨_, (ih hl.2).mp hsome, rfl⟩)
      simp [hnone, eq_comm]
    · have hbeq : (key == key') = false := beq_eq_false_iff_ne.mpr hkey
      simp [hbeq, hkey]

namespace Grammar

variable {g g' : Grammar} {name : String}

/-! ## Names of states -/

/-- The grammar is put together from the empty one. -/
inductive Written : Grammar → Prop
  | new (name : String) : Written (.new name)
  | derive {g : Grammar} (h : Written g) (name : String) : Written (g.derive name)
  | withFlags {g : Grammar} (h : Written g) (flags : PatternFlags) : Written (g.withFlags flags)
  | withFragment {g : Grammar} (h : Written g) (name pattern : Text) :
      Written (g.withFragment name pattern)
  | withResetOnNewline {g : Grammar} (h : Written g) (on : Bool) :
      Written (g.withResetOnNewline on)
  | state {g : Grammar} (h : Written g) (name : String) (entries : List Entry) :
      Written (g.state name entries)

theorem map_fst_replaceIn (name : String) (entries : List Entry)
    (states : List (String × List Entry)) :
    (replaceIn name entries states).map Prod.fst =
      if name ∈ states.map Prod.fst then states.map Prod.fst
      else states.map Prod.fst ++ [name] := by
  induction states with
  | nil => rfl
  | cons state states ih =>
    rw [replaceIn]
    by_cases hname : state.1 = name
    · simp [hname]
    · rw [if_neg hname, List.map_cons, ih, List.map_cons]
      by_cases hmem : name ∈ states.map Prod.fst
      · rw [if_pos hmem, if_pos (List.mem_cons_of_mem _ hmem)]
      · have hnone : name ∉ state.1 :: states.map Prod.fst :=
          List.not_mem_cons_of_ne_of_not_mem (Ne.symm hname) hmem
        rw [if_neg hmem, if_neg hnone, List.cons_append]

/-- Each name of a state occurs once. -/
theorem Written.nodup (h : g.Written) : g.stateNames.Nodup := by
  induction h with
  | new name => exact List.nodup_nil
  | derive _ _ ih => exact ih
  | withFlags _ _ ih => exact ih
  | withFragment _ _ _ ih => exact ih
  | withResetOnNewline _ _ ih => exact ih
  | @state g _ name entries ih =>
    rw [Grammar.state, stateNames, map_fst_replaceIn]
    split
    · exact ih
    · next hnone => exact List.nodup_append.mpr ⟨ih, List.nodup_singleton name, by
        rintro a ha b hb rfl
        exact hnone (List.mem_singleton.mp hb ▸ ha)⟩

/-! ## Another order -/

/-- The second grammar has the states of the first one in another order. -/
structure Reordered (g g' : Grammar) : Prop where
  states : g'.states.Perm g.states
  others : g' = { g with states := g'.states }

/-- A state that is new comes last. -/
theorem replaceIn_of_not_mem {entries : List Entry} {states : List (String × List Entry)}
    (h : name ∉ states.map Prod.fst) :
    replaceIn name entries states = states ++ [(name, entries)] := by
  induction states with
  | nil => rfl
  | cons state states ih =>
    obtain ⟨hfirst, hrest⟩ := List.ne_and_not_mem_of_not_mem_cons h
    rw [replaceIn, if_neg (Ne.symm hfirst), ih hrest, List.cons_append]

/-- Two new states may be defined in either order. -/
theorem reordered_state {a b : String} (ha : a ∉ g.stateNames) (hb : b ∉ g.stateNames)
    (hab : a ≠ b) (entries entries' : List Entry) :
    ((g.state a entries).state b entries').Reordered ((g.state b entries').state a entries) := by
  have hlast {name : String} (h : name ∉ g.stateNames) (entries : List Entry) :
      (g.state name entries).states =
        g.states ++ [(name, inheritEntries ((g.inherited.lookup name).getD []) entries)] :=
    replaceIn_of_not_mem h
  have hnew {name name' : String} (h : name ∉ g.stateNames) (h' : name' ∉ g.stateNames)
      (hne : name' ≠ name) (entries entries' : List Entry) :
      ((g.state name entries).state name' entries').states =
        (g.state name entries).states ++
          [(name', inheritEntries ((g.inherited.lookup name').getD []) entries')] := by
    refine replaceIn_of_not_mem ?_
    rw [hlast h, List.map_append, List.mem_append, not_or]
    exact ⟨h', mt List.mem_singleton.mp hne⟩
  refine ⟨?_, rfl⟩
  rw [hnew ha hb (Ne.symm hab), hnew hb ha hab, hlast ha, hlast hb, List.append_assoc,
    List.append_assoc]
  exact (List.Perm.swap _ _ []).append_left g.states

namespace Reordered

theorem flags (h : g.Reordered g') : g'.flags = g.flags := by rw [h.others]

theorem fragments (h : g.Reordered g') : g'.fragments = g.fragments := by rw [h.others]

theorem resetOnNewline (h : g.Reordered g') : g'.resetOnNewline = g.resetOnNewline := by
  rw [h.others]

theorem stateNames (h : g.Reordered g') : g'.stateNames.Perm g.stateNames := h.states.map _

theorem mem_stateNames (h : g.Reordered g') : name ∈ g'.stateNames ↔ name ∈ g.stateNames :=
  h.stateNames.mem_iff

variable (hn : g.stateNames.Nodup)
include hn

theorem entries? (h : g.Reordered g') (name : String) : g'.entries? name = g.entries? name := by
  have hn' : (g'.states.map Prod.fst).Nodup := h.stateNames.nodup_iff.mpr hn
  refine Option.ext fun entries => ?_
  rw [Grammar.entries?, Grammar.entries?, lookup_eq_some_iff_mem hn', lookup_eq_some_iff_mem hn,
    h.states.mem_iff]

theorem entriesOf (h : g.Reordered g') (name : String) : g'.entriesOf name = g.entriesOf name := by
  rw [Grammar.entriesOf, Grammar.entriesOf, h.entries? hn]

theorem splices (h : g.Reordered g') : g'.Splices = g.Splices := by
  funext name target
  rw [Splices, Splices, h.entriesOf hn]

theorem flat (h : g.Reordered g') (name : String) : g'.flat name = g.flat name := by
  have hdepth : ∀ depth name, g'.flatIn depth name = g.flatIn depth name := by
    intro depth
    induction depth with
    | zero =>
      intro name
      rw [flatIn, flatIn, h.entriesOf hn]
    | succ depth ih =>
      intro name
      rw [flatIn, flatIn, h.entriesOf hn, funext ih]
  rw [Grammar.flat, Grammar.flat, hdepth, h.states.length_eq]

theorem wellSpliced (h : g.Reordered g') (hg : g.WellSpliced) : g'.WellSpliced where
  defined name target hs := by
    rw [h.splices hn] at hs
    exact h.mem_stateNames.mpr (hg.defined name target hs)
  acyclic := by
    rw [h.splices hn]
    exact hg.acyclic

end Reordered

end Grammar

end TableLexer
