import TableLexer.Proofs.Regex.Content
import TableLexer.Proofs.Run.Limits
import TableLexer.Proofs.Run.Memory

/-!
# Tables with brisk runs

A step that matches nothing and changes the stack *slips*. A table is brisk in some of its
states if runs that start in them stay in them and if a rule of theirs that may slip leads to
a state of which no rule may. So a run does not slip twice at one place, and the limit on such
steps does not matter if it allows one.

Results:
1. `Rule.advances_sound`, `Rule.head?_of_enters`: what a rule says of its matches and of the
   stack after them.
2. `Table.Brisk.step`, `Table.Brisk.visited`: runs with a brisk table stay in its states.
3. `Table.Brisk.not_givesUp`, `Table.Brisk.slipsAt_le`: they slip at most once at a place.
-/

namespace TableLexer

open Cursor Regex RunContext

/-! ## Definitions -/

namespace Rule

/-- The rule matches no empty text. -/
def advances (r : Rule) : Bool := r.matcher.any fun p => p.matcher.regex.program.needs .all

/-- The state to which the rule leads, if its last change of the stack says so. -/
def enters? (r : Rule) : Option StateId := r.ops.getLast?.bind StackOp.state?

end Rule

namespace Table

variable (t : Table) (K : List StateId)

/-- No rule of the state matches an empty text. -/
def Settled (id : StateId) : Prop := ∀ r ∈ t.rules id, r.advances = true

/-- Runs that start in the states `K` stay in them, and what is found to match nothing leads
to a state that is settled. -/
structure Brisk : Prop where
  root : ∃ id, t.stateId rootState = .ok id ∧ id ∈ K
  closed : ∀ id ∈ K, ∀ r ∈ t.rules id, ∀ op ∈ r.ops, ∀ id' ∈ op.state?, id' ∈ K
  settles : ∀ id ∈ K, ∀ r ∈ t.rules id, r.advances = true ∨ ∃ id' ∈ r.enters?, t.Settled id'

instance (id : StateId) : Decidable (t.Settled id) :=
  inferInstanceAs (Decidable (∀ r ∈ t.rules id, _))

instance : Decidable (t.Brisk K) :=
  decidable_of_iff ((∃ id, t.stateId rootState = .ok id ∧ id ∈ K) ∧
      (∀ id ∈ K, ∀ r ∈ t.rules id, ∀ op ∈ r.ops, ∀ id' ∈ op.state?, id' ∈ K) ∧
      ∀ id ∈ K, ∀ r ∈ t.rules id, r.advances = true ∨ ∃ id' ∈ r.enters?, t.Settled id')
    ⟨fun ⟨h₁, h₂, h₃⟩ => ⟨h₁, h₂, h₃⟩, fun h => ⟨h.root, h.closed, h.settles⟩⟩

end Table

/-- The run is in some of the states `K`, and in a settled one after a match of nothing. -/
structure RunState.Brisk (t : Table) (K : List StateId) (s : RunState) : Prop where
  ne_nil : s.stack ≠ []
  known : ∀ id ∈ s.stack, id ∈ K
  dated : s.Dated
  settled : s.current?.isSome → ∀ id ∈ s.stack.head?, t.Settled id

namespace RunContext

/-- The step finds a match of nothing that changes the stack. -/
def Slips (ctx : RunContext) (s : RunState) : Prop :=
  ∃ x ∈ ctx.selected? (ctx.refill s), x.2.whole.isEmpty = true ∧
    applyOps x.1.ops (ctx.refill s).stack ≠ (ctx.refill s).stack

instance (ctx : RunContext) (s : RunState) : Decidable (ctx.Slips s) :=
  inferInstanceAs (Decidable (∃ x ∈ ctx.selected? (ctx.refill s), _ ∧ _))

/-- How often a run slips at an offset. -/
def slipsAt (ctx : RunContext) (fuel : Nat) (s : RunState) (pos : Nat) : Nat :=
  (ctx.visited fuel s).countP fun r => r.place.pos = pos ∧ ctx.Slips r

end RunContext

/-! ## Rules -/

namespace Rule

variable {r : Rule} {place : Cursor} {m : Regex.Match}

theorem advances_sound (h : r.advances = true) (hm : r.matchAt? place = some m) :
    m.whole.isEmpty = false := by
  obtain ⟨p, hp, hneeds⟩ := (Option.any_eq_true _ _).mp h
  rw [matchAt?, hp] at hm
  exact matchAt?_advances hneeds hm

/-- The state to which a rule leads is on top afterwards. -/
theorem head?_of_enters {id : StateId} (h : id ∈ r.enters?) (stack : List StateId) :
    (applyOps r.ops stack).head? = some id := by
  obtain ⟨op, hop, hid⟩ := Option.bind_eq_some_iff.mp h
  obtain ⟨front, hops⟩ := List.getLast?_eq_some_iff.mp hop
  rw [hops, applyOps, List.foldl_append]
  cases op with
  | push id' => exact hid
  | goto id' => exact hid
  | pushCurrent => cases hid
  | pop count => cases hid

end Rule

namespace RunState.Brisk

variable {t : Table} {K : List StateId} {s : RunState} {stack : List StateId}

/-- A run is brisk where it begins. -/
theorem begin (ctx : RunContext) (text : Text) (hne : ctx.initial ≠ [])
    (hall : ∀ id ∈ ctx.initial, id ∈ K) : (ctx.begin text).Brisk t K :=
  ⟨hne, hall, nofun, nofun⟩

/-- A run is brisk where it has moved. -/
theorem moved (h : s.Brisk t K) {place : Cursor} (hlt : s.place.pos < place.pos)
    (hstack : stack ≠ [] ∧ ∀ id ∈ stack, id ∈ K) :
    ({ s with place, stack } : RunState).Brisk t K where
  ne_nil := hstack.1
  known := hstack.2
  dated k hk := Nat.le_trans (h.dated k hk) (Nat.le_of_lt hlt)
  settled hsome := by
    rw [h.dated.current?_eq_none hlt] at hsome
    cases hsome

theorem takeChar (h : s.Brisk t K) (kind : Kind) (hr : s.place.rest ≠ [])
    (hstack : stack ≠ [] ∧ ∀ id ∈ stack, id ∈ K) :
    (RunContext.takeChar kind { s with stack }).2.Brisk t K := by
  unfold RunContext.takeChar
  cases hrest : s.place.rest with
  | nil => exact absurd hrest hr
  | cons c rest => exact h.moved ((passes_next hrest).lt (List.cons_ne_nil _ _)) hstack

end RunState.Brisk

/-! ## Slips -/

namespace RunContext

variable {ctx : RunContext} {K : List StateId} {s : RunState} {rule : Rule} {m : Regex.Match}

theorem slips_iff (hs : s.stack ≠ []) : ctx.Slips s ↔ ∃ rule m, ctx.Selects s rule m ∧
    m.whole.isEmpty = true ∧ applyOps rule.ops s.stack ≠ s.stack := by
  unfold Slips
  rw [refill_eq hs]
  constructor
  · rintro ⟨⟨rule, m⟩, hsel, he, hne⟩
    exact ⟨rule, m, selects_iff.mpr hsel, he, hne⟩
  · rintro ⟨rule, m, hsel, he, hne⟩
    exact ⟨(rule, m), selects_iff.mp hsel, he, hne⟩

theorem GivesUp.slips (h : ctx.GivesUp s) : ctx.Slips s := by
  obtain ⟨x, hx, he, hne, -⟩ := h
  exact ⟨x, hx, he, hne⟩

theorem takeChar_lt (kind : Kind) (hr : s.place.rest ≠ []) :
    s.place.pos < (takeChar kind s).2.place.pos := by
  unfold takeChar
  cases hrest : s.place.rest with
  | nil => exact absurd hrest hr
  | cons c rest => exact (passes_next hrest).lt (List.cons_ne_nil _ _)

/-- A step that does not slip moves. -/
theorem lt_of_not_slips (hs : s.stack ≠ []) (hr : s.place.rest ≠ []) (h : ¬ ctx.Slips s) :
    s.place.pos < (ctx.step s).2.place.pos := by
  rw [slips_iff hs] at h
  have hout := step_outcome ctx s
  rw [refill_eq hs] at hout
  generalize ctx.step s = out at hout
  cases hout with
  | lost => exact takeChar_lt _ hr
  | reset => exact takeChar_lt (s := { s with stack := ctx.resetStack }) _ hr
  | consumed _ _ hlt => exact hlt
  | idle => exact takeChar_lt _ hr
  | counted hsel he hne => exact absurd ⟨_, _, hsel, he, hne⟩ h
  | abandoned hsel he hne => exact absurd ⟨_, _, hsel, he, hne⟩ h

theorem slipsAt_cons (hr : s.place.rest ≠ []) (fuel pos : Nat) :
    ctx.slipsAt (fuel + 1) s pos = ctx.slipsAt fuel (ctx.step s).2 pos
      + if s.place.pos = pos ∧ ctx.Slips s then 1 else 0 := by
  rw [slipsAt, visited_cons hr, List.countP_cons]
  simp only [decide_eq_true_eq]
  rfl

theorem slipsAt_le_stepsAt (fuel pos : Nat) : ctx.slipsAt fuel s pos ≤ ctx.stepsAt fuel s pos := by
  refine List.countP_mono_left fun r _ hslip => ?_
  exact decide_eq_true (of_decide_eq_true hslip).1

theorem slipsAt_eq_zero {fuel pos : Nat} (h : pos < s.place.pos) : ctx.slipsAt fuel s pos = 0 :=
  Nat.le_zero.mp (Nat.le_trans (ctx.slipsAt_le_stepsAt fuel pos) (Nat.le_of_eq (stepsAt_eq_zero h)))

end RunContext

/-! ## Brisk tables -/

section

variable {ctx : RunContext} {K : List StateId} {s : RunState} {rule : Rule} {m : Regex.Match}

/-- The rule that applies belongs to one of the states. -/
theorem RunState.Brisk.mem (h : s.Brisk ctx.table K) (hsel : ctx.Selects s rule m) :
    ∃ id ∈ K, rule ∈ ctx.table.rules id ∧ rule.matchAt? s.place = some m := by
  obtain ⟨top, htop, hrule⟩ := hsel.mem
  exact ⟨top, h.known top (List.mem_of_mem_head? htop), hrule⟩

namespace Table.Brisk

/-- What matches nothing has not slipped here before and leads to a settled state. -/
theorem settles_of_empty (hb : ctx.table.Brisk K) (h : s.Brisk ctx.table K)
    (hsel : ctx.Selects s rule m) (he : m.whole.isEmpty = true) :
    s.current? = none ∧ ∃ id ∈ rule.enters?, ctx.table.Settled id := by
  obtain ⟨top, htop, hrule, hmatch⟩ := hsel.mem
  have hstuck : ¬ rule.advances = true := fun hadvances => by
    rw [Rule.advances_sound hadvances hmatch] at he
    cases he
  refine ⟨?_, (hb.settles top (h.known top (List.mem_of_mem_head? htop)) rule hrule).resolve_left
    hstuck⟩
  rw [← Option.not_isSome_iff_eq_none]
  exact fun hsome => hstuck (h.settled hsome top htop rule hrule)

/-- The stack that a rule leaves is one of the states of the table. -/
theorem applyOps (hb : ctx.table.Brisk K) (h : s.Brisk ctx.table K) (hsel : ctx.Selects s rule m) :
    RunContext.applyOps rule.ops s.stack ≠ [] ∧
      ∀ id ∈ RunContext.applyOps rule.ops s.stack, id ∈ K := by
  obtain ⟨id, hid, hrule, -⟩ := h.mem hsel
  exact applyOps_all h.ne_nil h.known (hb.closed id hid rule hrule)

theorem resetStack (hb : ctx.table.Brisk K) :
    ctx.resetStack ≠ [] ∧ ∀ id ∈ ctx.resetStack, id ∈ K := by
  obtain ⟨id, hid, hmem⟩ := hb.root
  unfold RunContext.resetStack
  rw [hid]
  exact ⟨List.cons_ne_nil _ _, List.forall_mem_singleton.mpr hmem⟩

theorem lengthen_steps (hb : ctx.table.Brisk K) (h : s.Brisk ctx.table K)
    (hsel : ctx.Selects s rule m) (he : m.whole.isEmpty = true) (before : List StateId) :
    lengthen before s = ⟨s.place.pos, 1, before⟩ := by
  rw [lengthen_eq, (hb.settles_of_empty h hsel he).1]

/-- No step gives up a match of nothing, unless none is allowed. -/
theorem not_givesUp (hb : ctx.table.Brisk K) (hlimit : 1 ≤ ctx.config.maxEmptySteps)
    (h : s.Brisk ctx.table K) : ¬ ctx.GivesUp s := by
  unfold GivesUp
  rw [refill_eq h.ne_nil]
  rintro ⟨⟨rule, m⟩, hsel, he, -, hlt⟩
  rw [hb.lengthen_steps h (selects_iff.mpr hsel) he] at hlt
  exact absurd hlt (Nat.not_lt_of_le hlimit)

/-- Where the run is after a match of nothing, no rule matches nothing again. -/
theorem counted (hb : ctx.table.Brisk K) (h : s.Brisk ctx.table K) (hsel : ctx.Selects s rule m)
    (he : m.whole.isEmpty = true) :
    ({ s with stack := RunContext.applyOps rule.ops s.stack,
              streak := some (lengthen s.stack s) } : RunState).Brisk ctx.table K where
  ne_nil := (hb.applyOps h hsel).1
  known := (hb.applyOps h hsel).2
  dated k hk := by
    cases hk
    rw [lengthen_pos]
  settled _ id hid := by
    obtain ⟨-, id', hid', hsettled⟩ := hb.settles_of_empty h hsel he
    rw [Option.mem_def, Rule.head?_of_enters hid'] at hid
    cases hid
    exact hsettled

/-- A run with a brisk table stays in its states. -/
theorem step (hb : ctx.table.Brisk K) (hlimit : 1 ≤ ctx.config.maxEmptySteps)
    (h : s.Brisk ctx.table K) (hr : s.place.rest ≠ []) : (ctx.step s).2.Brisk ctx.table K := by
  have hout := step_outcome ctx s
  rw [refill_eq h.ne_nil] at hout
  have hforce : (ctx.forceChar s).2.Brisk ctx.table K := h.takeChar _ hr ⟨h.ne_nil, h.known⟩
  generalize ctx.step s = out at hout
  cases hout with
  | lost => exact hforce
  | reset => exact h.takeChar _ hr hb.resetStack
  | consumed hsel _ hlt => exact h.moved hlt (hb.applyOps h hsel)
  | idle => exact hforce
  | counted hsel he => exact hb.counted h hsel he
  | abandoned hsel he _ hk =>
    rw [hb.lengthen_steps h hsel he] at hk
    exact absurd hk (Nat.not_lt_of_le hlimit)

/-- The states of a run are brisk if its first one is. -/
theorem visited (hb : ctx.table.Brisk K) (hlimit : 1 ≤ ctx.config.maxEmptySteps)
    (h : s.Brisk ctx.table K) {fuel : Nat} : ∀ r ∈ ctx.visited fuel s, r.Brisk ctx.table K :=
  fun r hr => (forall_visited (fun _ h hr => hb.step hlimit h hr) h r hr).1

/-- After a slip the run is at the same place, and its streak counts there. -/
theorem current?_of_slips (hb : ctx.table.Brisk K) (hlimit : 1 ≤ ctx.config.maxEmptySteps)
    (h : s.Brisk ctx.table K) (hslip : ctx.Slips s) :
    (ctx.step s).2.place = s.place ∧ (ctx.step s).2.current?.isSome := by
  obtain ⟨rule, m, hsel, he, hne⟩ := (slips_iff h.ne_nil).mp hslip
  have hstep : (ctx.step s).2 = { s with stack := RunContext.applyOps rule.ops s.stack,
                                         streak := some (lengthen s.stack s) } := by
    rw [hsel.step_eq, applyRule, if_pos he]
    unfold afterEmpty
    have hlengthen : lengthen s.stack { s with stack := RunContext.applyOps rule.ops s.stack }
        = lengthen s.stack s := rfl
    rw [if_neg hne, hlengthen, hb.lengthen_steps h hsel he, if_neg (Nat.not_lt_of_le hlimit)]
  rw [hstep]
  refine ⟨rfl, ?_⟩
  rw [RunState.current?, Option.filter_some, if_pos (decide_eq_true (lengthen_pos s.stack))]
  rfl

/-- A run with a brisk table slips at most once at a place, and not where it has just done
so: it stays where it is and goes on from there. -/
theorem slipsAt_le (hb : ctx.table.Brisk K) (hlimit : 1 ≤ ctx.config.maxEmptySteps)
    (h : s.Brisk ctx.table K) (fuel : Nat) : (∀ pos, ctx.slipsAt fuel s pos ≤ 1) ∧
      (s.current?.isSome → ctx.slipsAt fuel s s.place.pos = 0) := by
  induction fuel generalizing s with
  | zero => exact ⟨fun _ => Nat.zero_le _, fun _ => rfl⟩
  | succ fuel ih =>
    by_cases hr : s.place.rest = []
    · have hnone : ∀ pos, ctx.slipsAt (fuel + 1) s pos = 0 := fun pos => by
        rw [RunContext.slipsAt, visited_nil hr]
        rfl
      exact ⟨fun pos => hnone pos ▸ Nat.zero_le _, fun _ => hnone _⟩
    obtain ⟨hmost, hhere⟩ := ih (hb.step hlimit h hr)
    have hcons : ∀ pos, ctx.slipsAt (fuel + 1) s pos = _ := slipsAt_cons hr fuel
    by_cases hslip : ctx.Slips s
    · obtain ⟨hplace, hsome⟩ := hb.current?_of_slips hlimit h hslip
      rw [hplace] at hhere
      refine ⟨fun pos => ?_, fun hcurrent => ?_⟩
      · have hpos := hmost pos
        by_cases hp : s.place.pos = pos
        · rw [hcons, if_pos ⟨hp, hslip⟩, ← hp, hhere hsome]
        · rwa [hcons, if_neg fun hand => hp hand.1]
      · obtain ⟨rule, m, hsel, he, -⟩ := (slips_iff h.ne_nil).mp hslip
        rw [(hb.settles_of_empty h hsel he).1] at hcurrent
        cases hcurrent
    · have hsame : ∀ pos, ctx.slipsAt (fuel + 1) s pos = ctx.slipsAt fuel (ctx.step s).2 pos :=
        fun pos => by rw [hcons, if_neg fun hand => hslip hand.2, Nat.add_zero]
      refine ⟨fun pos => hsame pos ▸ hmost pos, fun _ => ?_⟩
      rw [hsame]
      exact slipsAt_eq_zero (lt_of_not_slips h.ne_nil hr hslip)

end Table.Brisk

end

end TableLexer
