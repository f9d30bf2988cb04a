import TableLexer.Proofs.Run.Delegation
import TableLexer.Proofs.Run.Lockstep

/-!
# Runs have no hidden memory

Besides its place and its stack a run keeps a streak of empty steps, the stack from before
them and the stack it has started with. Nothing of this can be seen where a run has just
arrived at a place: a streak of an earlier place does not count there, and the first stack
only matters to a table that resets runs and has no root state. So runs that have arrived at
one place with one stack are in lockstep from there on, whatever has led them there.

Results:
1. `lengthen_eq`: a step sees of the streak only what counts at its place.
2. `step_forgets`: so it goes from states that look alike to states that look alike.
3. `step_initial`: the stack at the start matters only to some tables.
4. `InnerRun.Arrives.current?_eq_none`: where a run arrives, no streak counts.
5. `run_memoryless`: so runs forget how they have come to a place.
-/

namespace TableLexer

open Cursor RunContext

/-! ## Definitions -/

namespace RunState

/-- The streak that counts at the place of the state, which one of an earlier place does
not. -/
def current? (s : RunState) : Option Streak := s.streak.filter fun k => k.pos = s.place.pos

/-- The streak is not of a later place. -/
def Dated (s : RunState) : Prop := ∀ k ∈ s.streak, k.pos ≤ s.place.pos

/-- The states agree in all that a step goes by. -/
structure Alike (s s' : RunState) : Prop where
  place : s'.place = s.place
  stack : s'.stack = s.stack
  current : s'.current? = s.current?

end RunState

/-- The run comes to the state by a step that has moved, or it starts there. Its limits may
have been changed on the way. -/
inductive InnerRun.Arrives (library : Library) (r : InnerRun) : RunState → Prop
  | start (config : LexConfig) : Arrives library r ((r.context library config).begin r.text)
  | moved {config : LexConfig} {s : RunState} (h : Reached library r config r s)
      (hr : s.place.rest ≠ [])
      (hlt : s.place.pos < ((r.context library config).step s).2.place.pos) :
      Arrives library r ((r.context library config).step s).2

/-- The steps give the same tokens and lead to states that look alike. -/
def RunContext.SameStep (out out' : List Token × RunState) : Prop :=
  out'.1 = out.1 ∧ out.2.Alike out'.2

/-! ## States that look alike -/

namespace RunState

variable {s s' : RunState}

theorem Alike.refl (s : RunState) : s.Alike s := ⟨rfl, rfl, rfl⟩

/-- At a later place no streak counts. -/
theorem Dated.current?_eq_none (h : s.Dated) {place : Cursor} (hlt : s.place.pos < place.pos)
    {stack : List StateId} : ({ s with place, stack } : RunState).current? = none := by
  refine Option.filter_eq_none_iff.mpr fun k hk => ?_
  have hle : k.pos ≤ s.place.pos := h k hk
  rw [decide_eq_true_eq]
  exact Nat.ne_of_lt (Nat.lt_of_le_of_lt hle hlt)

/-- States that look alike do so at a later place as well, for no streak is of a place beyond the
one where they are. -/
theorem Alike.advance (h : s.Alike s') (hs : s.Dated) (hs' : s'.Dated) {place : Cursor}
    (hle : s.place.pos ≤ place.pos) (stack : List StateId) :
    ({ s with place, stack } : RunState).Alike { s' with place, stack } := by
  refine ⟨rfl, rfl, ?_⟩
  rcases Nat.eq_or_lt_of_le hle with heq | hlt
  · have hcurrent := h.current
    rw [current?, current?, h.place, heq] at hcurrent
    exact hcurrent
  · rw [hs'.current?_eq_none (h.place ▸ hlt), hs.current?_eq_none hlt]

end RunState

namespace RunContext

variable {ctx : RunContext} {s s' : RunState} {kind : Kind} {rule : Rule} {m : Regex.Match}

theorem lengthen_eq (before : List StateId) (s : RunState) : lengthen before s =
    match s.current? with
    | some streak => { streak with steps := streak.steps + 1 }
    | none => ⟨s.place.pos, 1, before⟩ := by
  unfold lengthen RunState.current?
  cases s.streak with
  | none => rfl
  | some streak =>
    rw [Option.filter_some]
    by_cases hp : streak.pos = s.place.pos
    · simp only [hp, decide_true, if_true]
    · simp only [hp, decide_false, if_false, Bool.false_eq_true]

/-! ## Steps -/

theorem step_dated (hs : s.Dated) (hr : s.place.rest ≠ []) : (ctx.step s).2.Dated := by
  intro k hk
  rcases ctx.step_moves_or_counts hr with ⟨t, hm⟩ | hc
  · rcases hm.streak with hsame | hnone
    · rw [hsame] at hk
      exact Nat.le_trans (hs k hk) hm.passes.le
    · rw [hnone] at hk
      cases hk
  · obtain ⟨before, hb, -⟩ := hc.streak
    rw [hb] at hk
    cases hk
    rw [lengthen_pos, hc.place]

theorem takeChar_alike (h : s.Alike s') (hs : s.Dated) (hs' : s'.Dated) (stack : List StateId) :
    SameStep (takeChar kind { s with stack }) (takeChar kind { s' with stack }) := by
  unfold takeChar
  rw [h.place]
  cases hrest : s.place.rest with
  | nil => exact ⟨rfl, h.place ▸ h.advance hs hs' (Nat.le_refl _) stack⟩
  | cons c rest => exact ⟨rfl, h.advance hs hs' (passes_next hrest).le stack⟩

theorem afterEmpty_alike (ctx : RunContext) (h : s.Alike s') (hs : s.Dated) (hs' : s'.Dated)
    (before stack : List StateId) :
    SameStep (ctx.afterEmpty before { s with stack }) (ctx.afterEmpty before { s' with stack }) := by
  have hlengthen : lengthen before { s' with stack } = lengthen before { s with stack } := by
    have hcurrent : ({ s' with stack } : RunState).current?
        = ({ s with stack } : RunState).current? := h.current
    rw [lengthen_eq, lengthen_eq, hcurrent, h.place]
  unfold afterEmpty forceChar
  dsimp only
  rw [hlengthen]
  split
  · exact takeChar_alike h hs hs' stack
  · rw [h.place]
    split
    · exact ⟨rfl, .refl _⟩
    · exact ⟨rfl, .refl _⟩

theorem applyRule_forgets (h : s.Alike s') (hs : s.Dated) (hs' : s'.Dated) :
    SameStep (ctx.applyRule rule m s) (ctx.applyRule rule m s') := by
  have hempty := afterEmpty_alike ctx h hs hs' s.stack (applyOps rule.ops s.stack)
  unfold applyRule
  rw [h.stack]
  rw [h.place] at hempty ⊢
  split
  · exact ⟨congrArg (ctx.tokensOf rule.action m s.place ++ ·) hempty.1, hempty.2⟩
  · exact ⟨rfl, h.advance hs hs' (takeTo_passes _ _).le _⟩

/-- A step goes from states that look alike to states that look alike. -/
theorem step_forgets (ctx : RunContext) (h : s.Alike s') (hs : s.Dated) (hs' : s'.Dated)
    (hstack : s.stack ≠ []) :
    SameStep (ctx.step s) (ctx.step s') := by
  have hchar : ∀ kind stack,
      SameStep (takeChar kind { s with stack }) (takeChar kind { s' with stack }) :=
    fun _ stack => takeChar_alike h hs hs' stack
  have hforced : SameStep (ctx.forceChar s) (ctx.forceChar s') := by
    have hstack' : s' = { s' with stack := s.stack } := by rw [← h.stack]
    rw [hstack']
    exact hchar ctx.config.fallback s.stack
  unfold step
  rw [refill_eq hstack, refill_eq (h.stack ▸ hstack)]
  dsimp only
  rw [h.stack, h.place]
  cases htop : s.stack with
  | nil => exact absurd htop hstack
  | cons top below =>
    dsimp only
    split
    · exact applyRule_forgets h hs hs'
    · unfold noMatch
      rw [h.place]
      split
      · exact h.place ▸ hchar .text ctx.resetStack
      · exact hforced

/-! ## The stack at the start -/

/-- The stack that a run has started with does not matter where there is a stack and the
run does not come back to it at a line feed. -/
theorem step_initial (ctx : RunContext) {initial : List StateId} (hstack : s.stack ≠ [])
    (hreset : ctx.table.resetOnNewline = true →
      { ctx with initial }.resetStack = ctx.resetStack) :
    { ctx with initial }.step s = ctx.step s := by
  have hnoMatch : { ctx with initial }.noMatch s = ctx.noMatch s := by
    unfold noMatch
    split
    · next hc => rw [hreset hc.1]
    · rfl
  unfold step
  rw [refill_eq hstack, refill_eq hstack]
  dsimp only
  rw [hnoMatch]
  rfl

theorem resetStack_initial {initial : List StateId}
    (h : ¬ Succeeds (ctx.table.stateId rootState) → initial = ctx.initial) :
    { ctx with initial }.resetStack = ctx.resetStack := by
  unfold resetStack
  cases hroot : ctx.table.stateId rootState with
  | ok root => rfl
  | error e => exact h fun ⟨_, hid⟩ => nomatch hroot.symm.trans hid

end RunContext

/-! ## Where runs arrive -/

section

variable {library : Library} {top r : InnerRun} {config : LexConfig} {s s' : RunState}

theorem Reached.dated (h : Reached library top config r s) : s.Dated := by
  induction h with
  | start => exact nofun
  | configure _ _ ih => exact ih
  | step _ hr ih => exact step_dated ih hr
  | nest => exact nofun

theorem InnerRun.Arrives.reached (h : r.Arrives library s) (config : LexConfig) :
    Reached library r config r s := by
  cases h with
  | start => exact .start config
  | moved h hr => exact (h.step hr).configure config

/-- Where a run arrives, no streak counts. -/
theorem InnerRun.Arrives.current?_eq_none (h : r.Arrives library s) : s.current? = none := by
  cases h with
  | start => rfl
  | @moved config s h hr hlt =>
    refine Option.filter_eq_none_iff.mpr fun streak hstreak => ?_
    rw [decide_eq_true_eq]
    rcases (r.context library config).step_moves_or_counts hr with ⟨t, hm⟩ | hc
    · rcases hm.streak with hsame | hnone
      · rw [hsame] at hstreak
        have hle : streak.pos ≤ s.place.pos := h.dated streak hstreak
        omega
      · rw [hnone] at hstreak
        cases hstreak
    · rw [hc.place] at hlt
      exact absurd hlt (Nat.lt_irrefl _)

end

/-! ## Runs -/

namespace Run

variable {library : Library} {table : Table} {states states' : List String} {text : Text}
  {config : LexConfig} {r r' : Run} {s s' : RunState}

/-- A run that is asked for steps arrives where one of them has moved. -/
theorem arrives_after (h : (Run.start library table states text).map (·.withConfig config) = .ok r)
    {n : Nat} (hlt : (r.context.after n r.state).place.pos
      < (r.context.after (n + 1) r.state).place.pos) :
    (r.outermost text).Arrives library (r.context.after (n + 1) r.state) := by
  obtain ⟨hctx, hstate⟩ := start_context h
  rw [after_add] at hlt ⊢
  rw [hstate, hctx] at hlt ⊢
  have hstart : Reached library (r.outermost text) config (r.outermost text) _ := .start config
  have hreached := hstart.after n
  by_cases hr : (((r.outermost text).context library config).after n
      (((r.outermost text).context library config).begin text)).place.rest = []
  · rw [after_nil hr] at hlt
    exact absurd hlt (Nat.lt_irrefl _)
  · rw [after_succ hr] at hlt ⊢
    exact .moved hreached hr hlt

/-- Two runs over one text with a table that has been built, whatever states they have
started in: where they arrive at one place with one stack, nothing that comes after tells
them apart. How they have come there does not matter, nor do the limits on the way. The
stacks they have started with must be the same one only if the table resets runs and has
no root state to do so. -/
theorem run_memoryless (hlib : ∀ t ∈ library, t.BuiltOn library) (ht : table.BuiltOn library)
    (h : (Run.start library table states text).map (·.withConfig config) = .ok r)
    (h' : (Run.start library table states' text).map (·.withConfig config) = .ok r')
    (hinitial : table.resetOnNewline = true → ¬ Succeeds (table.stateId rootState) →
      r'.initial = r.initial)
    (hs : (r.outermost text).Arrives library s) (hs' : (r'.outermost text).Arrives library s')
    (hpos : s'.place.pos = s.place.pos) (hstack : s'.stack = s.stack) (queue : List Token) :
    { r with state := s, queue }.LooksLike { r' with state := s', queue } := by
  have hroot := start_rooted ht h
  obtain ⟨ids, -, rfl⟩ := start_eq_ok_iff.mp h
  obtain ⟨ids', -, rfl⟩ := start_eq_ok_iff.mp h'
  have hreached := hs.reached config
  have hreached' := hs'.reached config
  have hplace : s'.place = s.place := by
    obtain ⟨t, ht⟩ := hreached.passes
    obtain ⟨t', ht'⟩ := hreached'.passes
    exact (ht'.eq_of_pos ht hpos).2
  have halike : s.Alike s' :=
    ⟨hplace, hstack, hs'.current?_eq_none.trans hs.current?_eq_none.symm⟩
  let ctx := contextAt library config 0 table ids.reverse
  let ctx' := contextAt library config 0 table ids'.reverse
  have hsteps : ∀ s : RunState, s.stack ≠ [] → ctx'.step s = ctx.step s := fun s hs =>
    step_initial ctx hs fun hreset => resetStack_initial (hinitial hreset)
  refine Lockstep.looksLike ⟨rfl, (?_ : ctx.Lockstep ctx' s s')⟩ rfl
  refine lockstep_of_keeps (R := fun s s' => Reached library _ config _ s ∧ s'.Dated ∧ s.Alike s')
    (fun s s' hR => ⟨hR.2.2.place, hR.2.2.stack⟩) ?_ ⟨hreached, hreached'.dated, halike⟩
  rintro s s' ⟨hreached, hdated', halike⟩ hr
  have hne : s.stack ≠ [] := (reached_on hlib hroot hreached).2.stack.ne_nil
  obtain ⟨htokens, hsame⟩ := step_forgets ctx halike hreached.dated hdated' hne
  have hstep' := hsteps s' (halike.stack ▸ hne)
  have hdated : (ctx'.step s').2.Dated := step_dated hdated' (halike.place ▸ hr)
  exact ⟨hstep' ▸ htokens, hreached.step hr, hdated, hstep' ▸ hsame⟩

/-- Letters, with a state that gives way to the root state before it lexes any. -/
def detouring : Grammar :=
  (((Grammar.new "detouring").state rootState
    [.rule ⟨some (.regex "[a-z]".toList), .kind .name, []⟩]).state "detour"
    [.rule ⟨none, .nothing, [.goto rootState]⟩]).withResetOnNewline true

theorem run_memoryless_detouring :
    ∃ table r r', detouring.build [] = .ok table ∧
      (Run.start [] table [] "ab!".toList).map (·.withConfig ⟨.text, 2, 3⟩) = .ok r ∧
      (Run.start [] table ["detour"] "ab!".toList).map (·.withConfig ⟨.text, 2, 3⟩) = .ok r' ∧
      (r'.context.after 2 r'.state).streak ≠ (r.context.after 1 r.state).streak ∧
      { r with state := r.context.after 1 r.state, queue := [] }.LooksLike
        { r' with state := r'.context.after 2 r'.state, queue := [] } := by
  obtain ⟨table, htable, r, hr, r', hr', hroot, hstreak, hpos, hstack, hlt, hlt'⟩ : ∃ table,
      detouring.build [] = .ok table ∧
      ∃ r, (Run.start [] table [] "ab!".toList).map (·.withConfig ⟨.text, 2, 3⟩) = .ok r ∧
      ∃ r', (Run.start [] table ["detour"] "ab!".toList).map (·.withConfig ⟨.text, 2, 3⟩) = .ok r' ∧
      Succeeds (table.stateId rootState) ∧
      (r'.context.after 2 r'.state).streak ≠ (r.context.after 1 r.state).streak ∧
      (r'.context.after 2 r'.state).place.pos = (r.context.after 1 r.state).place.pos ∧
      (r'.context.after 2 r'.state).stack = (r.context.after 1 r.state).stack ∧
      (r.context.after 0 r.state).place.pos < (r.context.after 1 r.state).place.pos ∧
      (r'.context.after 1 r'.state).place.pos < (r'.context.after 2 r'.state).place.pos :=
    by decide +kernel
  have hlib : ∀ t ∈ ([] : Library), t.BuiltOn [] := List.forall_mem_nil _
  exact ⟨table, r, r', htable, hr, hr', hstreak, run_memoryless hlib ⟨detouring, 0, htable⟩ hr hr'
    (fun _ hno => absurd hroot hno) (arrives_after hr hlt) (arrives_after hr' hlt') hpos hstack []⟩

end Run

end TableLexer
