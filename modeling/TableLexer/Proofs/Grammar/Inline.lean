import Mathlib.Data.Finset.Card
import Mathlib.Logic.Relation
import TableLexer.Grammar

/-!
# Inlining

An entry that splices a state stands for the rules of that state, which may splice
others. Where all these states are defined and none takes in itself, every state comes
down to a list of rules, and writing out that list in the place of each such entry
gives a grammar without splices.

Results:
1. `rank_lt`, `rank_le`: the number of states that a state takes in falls along
   splices and is never more than the number of states.
2. `flat_eq`: the list of rules of a state is the one that its entries ask for.
3. `inline_flat`, `inline_wellSpliced`: inlining changes no list of rules and leaves no
   splice.
-/

namespace TableLexer

/-! ## Definitions -/

/-- The rules of an entry, where `flat` are those of other states. -/
def Entry.rules (flat : String → List RuleSpec) : Entry → List RuleSpec
  | .splice target => flat target
  | .inherit => []
  | .rule r => [r]

/-- What is written for an entry when the rules of other states are written out. -/
def Entry.inlined (flat : String → List RuleSpec) : Entry → List Entry
  | .splice target => (flat target).map .rule
  | .inherit => [.inherit]
  | .rule r => [.rule r]

/-- The state for whose rules an entry stands. -/
def Entry.target? : Entry → Option String
  | .splice target => some target
  | _ => none

namespace Grammar

variable (g : Grammar)

/-- The entries of a state, none where there is no state of the name. -/
def entriesOf (name : String) : List Entry := (g.entries? name).getD []

/-- The rules of a state, those of other states put in so many levels deep. -/
def flatIn : (depth : Nat) → String → List RuleSpec
  | 0, name => (g.entriesOf name).flatMap (Entry.rules fun _ => [])
  | depth + 1, name => (g.entriesOf name).flatMap (Entry.rules (flatIn depth))

/-- The rules of a state, those of other states put in. -/
def flat (name : String) : List RuleSpec := g.flatIn g.states.length name

/-- The grammar with the rules of other states written out. -/
def inline : Grammar :=
  { g with states := g.states.map fun s => (s.1, s.2.flatMap (Entry.inlined g.flat)) }

/-- The state `name` has an entry that stands for the rules of `target`. -/
def Splices (name target : String) : Prop := Entry.splice target ∈ g.entriesOf name

/-- All states that are spliced are defined, and none takes in itself. -/
structure WellSpliced : Prop where
  defined : ∀ name target, g.Splices name target → target ∈ g.stateNames
  acyclic : ∀ name, ¬ Relation.TransGen g.Splices name name

/-! ## Ranks -/

section

open Classical

/-- The defined states that a state takes in. -/
noncomputable def reach (name : String) : Finset String :=
  g.stateNames.toFinset.filter (Relation.TransGen g.Splices name)

/-- The number of defined states that a state takes in. -/
noncomputable def rank (name : String) : Nat := (g.reach name).card

theorem mem_reach {g : Grammar} {name target : String} : target ∈ g.reach name ↔
    target ∈ g.stateNames ∧ Relation.TransGen g.Splices name target := by
  rw [reach, Finset.mem_filter, List.mem_toFinset]

theorem rank_le (g : Grammar) (name : String) : g.rank name ≤ g.states.length := by
  have hnames : g.stateNames.toFinset.card ≤ g.stateNames.length :=
    List.toFinset_card_le _
  rw [stateNames, List.length_map] at hnames
  exact Nat.le_trans (Finset.card_filter_le _ _) hnames

end

variable {g} {name target : String}

/-- The rank falls along splices. -/
theorem rank_lt (hg : g.WellSpliced) (h : g.Splices name target) :
    g.rank target < g.rank name := by
  refine Finset.card_lt_card (Finset.ssubset_iff_of_subset ?_ |>.mpr ?_)
  · intro t ht
    obtain ⟨hdef, hpath⟩ := mem_reach.mp ht
    exact mem_reach.mpr ⟨hdef, .head h hpath⟩
  · refine ⟨target, mem_reach.mpr ⟨hg.defined _ _ h, .single h⟩, fun hself => ?_⟩
    exact hg.acyclic target (mem_reach.mp hself).2

/-- A state that splices another one is defined. -/
theorem Splices.defined (h : g.Splices name target) :
    ∃ entries, (name, entries) ∈ g.states ∧ Entry.splice target ∈ entries := by
  unfold Splices entriesOf entries? at h
  cases hlook : g.states.lookup name with
  | none =>
    rw [hlook] at h
    cases h
  | some entries =>
    rw [hlook] at h
    obtain ⟨l, l', hl, -⟩ := List.lookup_eq_some_iff.mp hlook
    refine ⟨entries, ?_, h⟩
    rw [hl]
    exact List.mem_append_right _ List.mem_cons_self

/-- Splices along which some number falls make no circle. -/
theorem wellSpliced_of_rank (rank : String → Nat)
    (h : ∀ s ∈ g.states, ∀ e ∈ s.2, ∀ target ∈ e.target?,
      target ∈ g.stateNames ∧ rank target < rank s.1) : g.WellSpliced := by
  have hsplice : ∀ name target, g.Splices name target →
      target ∈ g.stateNames ∧ rank target < rank name := by
    intro name target hs
    obtain ⟨entries, hmem, he⟩ := hs.defined
    exact h (name, entries) hmem _ he target rfl
  have hpath : ∀ name target, Relation.TransGen g.Splices name target →
      rank target < rank name := by
    intro name target hp
    induction hp with
    | single hs => exact (hsplice _ _ hs).2
    | tail _ hs ih => exact Nat.lt_trans (hsplice _ _ hs).2 ih
  exact ⟨fun name target hs => (hsplice name target hs).1,
    fun name hp => Nat.lt_irrefl _ (hpath name name hp)⟩

/-! ## Flat lists of rules -/

theorem flatMap_rules_congr {f f' : String → List RuleSpec}
    (h : ∀ target, g.Splices name target → f target = f' target) :
    (g.entriesOf name).flatMap (Entry.rules f)
      = (g.entriesOf name).flatMap (Entry.rules f') := by
  have hsame : ∀ e ∈ g.entriesOf name, e.rules f = e.rules f' := by
    intro e he
    cases e with
    | splice target => exact h target he
    | inherit => rfl
    | rule r => rfl
  rw [List.flatMap_def, List.flatMap_def, List.map_congr_left hsame]

/-- From the rank on, the depth does not matter. -/
theorem flatIn_eq (hg : g.WellSpliced) {m n : Nat} (hm : g.rank name ≤ m)
    (hn : g.rank name ≤ n) : g.flatIn m name = g.flatIn n name := by
  induction m generalizing n name with
  | zero =>
    have hnone : ∀ target, ¬ g.Splices name target := fun target hs =>
      Nat.not_lt_of_le (Nat.le_trans hm (Nat.zero_le _)) (rank_lt hg hs)
    cases n with
    | zero => rfl
    | succ n => exact flatMap_rules_congr fun target hs => absurd hs (hnone target)
  | succ m ih =>
    cases n with
    | zero =>
      refine flatMap_rules_congr fun target hs => ?_
      exact absurd (rank_lt hg hs) (Nat.not_lt_of_le (Nat.le_trans hn (Nat.zero_le _)))
    | succ n =>
      refine flatMap_rules_congr fun target hs => ?_
      have hlt := rank_lt hg hs
      exact ih (by omega) (by omega)

theorem flatIn_eq_flat (hg : g.WellSpliced) {depth : Nat} (h : g.rank name ≤ depth) :
    g.flatIn depth name = g.flat name :=
  flatIn_eq hg h (rank_le g name)

/-- The rules of a state are those of its entries. -/
theorem flat_eq (hg : g.WellSpliced) (name : String) :
    g.flat name = (g.entriesOf name).flatMap (Entry.rules g.flat) := by
  have hdepth : g.rank name ≤ g.states.length + 1 := Nat.le_succ_of_le (rank_le g name)
  rw [← flatIn_eq_flat hg hdepth]
  rfl

/-! ## Inlining -/

theorem inline_stateNames (g : Grammar) : g.inline.stateNames = g.stateNames := by
  simp [inline, stateNames]

theorem inline_length (g : Grammar) : g.inline.states.length = g.states.length := by
  simp [inline]

theorem lookup_map_snd (f : List Entry → List Entry) (states : List (String × List Entry))
    (name : String) :
    (states.map fun s => (s.1, f s.2)).lookup name = (states.lookup name).map f := by
  induction states with
  | nil => rfl
  | cons s states ih =>
    rw [List.map_cons, List.lookup_cons, List.lookup_cons]
    cases name == s.1 with
    | true => rfl
    | false => exact ih

theorem inline_entriesOf (g : Grammar) (name : String) :
    g.inline.entriesOf name = (g.entriesOf name).flatMap (Entry.inlined g.flat) := by
  have hlook : g.inline.entries? name
      = (g.entries? name).map (List.flatMap (Entry.inlined g.flat)) :=
    lookup_map_snd (List.flatMap (Entry.inlined g.flat)) g.states name
  rw [entriesOf, entriesOf, hlook]
  cases g.entries? name <;> rfl

theorem inline_not_splices (g : Grammar) (name target : String) :
    ¬ g.inline.Splices name target := by
  intro h
  rw [Splices, inline_entriesOf] at h
  obtain ⟨e, -, he⟩ := List.mem_flatMap.mp h
  cases e <;> simp [Entry.inlined] at he

/-- Inlining leaves no splice. -/
theorem inline_wellSpliced (g : Grammar) : g.inline.WellSpliced := by
  refine ⟨fun name target h => absurd h (inline_not_splices g name target),
    fun name h => ?_⟩
  obtain ⟨target, hfirst, -⟩ := Relation.TransGen.head'_iff.mp h
  exact inline_not_splices g name target hfirst

theorem rules_inlined (f flat : String → List RuleSpec) (e : Entry) :
    (e.inlined flat).flatMap (Entry.rules f) = e.rules flat := by
  cases e with
  | splice target => simp [Entry.inlined, Entry.rules, List.flatMap_map]
  | inherit => rfl
  | rule r => rfl

/-- Inlining changes the rules of no state. -/
theorem inline_flat (hg : g.WellSpliced) (name : String) :
    g.inline.flat name = g.flat name := by
  rw [flat_eq (inline_wellSpliced g), inline_entriesOf, List.flatMap_assoc, flat_eq hg]
  refine congrArg (fun f => (g.entriesOf name).flatMap f) (funext fun e => ?_)
  exact rules_inlined _ _ e

end Grammar

end TableLexer
