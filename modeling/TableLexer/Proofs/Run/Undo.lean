import TableLexer.Proofs.Run.Memory

/-!
# Streaks of empty steps are undone as a whole

Where a run has arrived at a place, rules may match nothing and change the stack, one after
the other. As many of them as the limit allows keep what they have done, and the next step
goes on in the text with the stack that they have made. One more undoes them all: the
character there goes out with the fallback kind, and the stack is the one with which the run
has arrived.

What carries this is that the streak, made longer by the next empty step, always holds the
stack of the arrival, although it is only recorded after the first of them (`Holds`).

Results:
1. `Restacks.step_counted`, `Restacks.step_abandoned`: what an empty step does within the
   limit and beyond it.
2. `RestacksTo.kept`: empty steps within the limit keep the place and all their changes.
3. `Holds.settles`: so each arrival has one of the two ends.
4. `streak_undone`: what follows for runs.
-/

namespace TableLexer

open Cursor RunContext

/-! ## Definitions -/

namespace RunContext

variable (ctx : RunContext)

/-- The rule that applies matches nothing and changes the stack. -/
def Restacks (s : RunState) (rule : Rule) : Prop :=
  ∃ m, ctx.Selects s rule m ∧ m.whole.isEmpty = true ∧ applyOps rule.ops s.stack ≠ s.stack

/-- The steps from `s` to the other state apply the rules, which all match nothing and change
the stack. -/
inductive RestacksTo (s : RunState) : List Rule → RunState → Prop
  | refl : RestacksTo s [] s
  | step {rules : List Rule} {rule : Rule} {s' : RunState} (h : RestacksTo s rules s')
      (hrule : ctx.Restacks s' rule) : RestacksTo s (rules ++ [rule]) (ctx.step s').2

/-- The step goes on in the text from the stack it finds, which nothing but the rule that has
matched text changes, unless a line feed resets the run. -/
inductive GoesOn (s : RunState) : Prop
  | matched {rule : Rule} {m : Regex.Match} (h : ctx.Selects s rule m)
      (he : m.whole.isEmpty = false) (hs : (ctx.step s).2.stack = applyOps rule.ops s.stack)
  | forced (h : ctx.step s = ctx.forceChar s)
  | reset (h : ctx.Resets s)
      (hs : ctx.step s = takeChar .text { s with stack := ctx.resetStack })

/-- What becomes of the empty steps at the place where a run has arrived in the state `s`. -/
inductive Settles (s : RunState) : Prop
  /-- They are within the limit. They have emitted nothing and have changed the stack one
  after the other, and the next step goes on with that. -/
  | kept {rules : List Rule} {s' : RunState} (h : ctx.RestacksTo s rules s')
      (hle : rules.length ≤ ctx.config.maxEmptySteps)
      (hplace : s'.place = s.place) (hstack : s'.stack = applyOps (rules.flatMap Rule.ops) s.stack)
      (hsilent : ctx.exhaust rules.length s = [])
      (hlast : ∀ rule, ¬ ctx.Restacks s' rule) (hgoes : ctx.GoesOn s')
      (hlt : s.place.pos < (ctx.step s').2.place.pos)
  /-- There is one more. All of them together have emitted one character, and the stack is
  the one of the arrival. -/
  | undone {rules : List Rule} {s' : RunState} (h : ctx.RestacksTo s rules s')
      (hlength : rules.length = ctx.config.maxEmptySteps + 1)
      {c : Char} (hc : s.place.rest.head? = some c)
      (htokens : ctx.exhaust rules.length s = [⟨s.place.pos, ctx.config.fallback, [c]⟩])
      (hplace : s'.place = s.place.next) (hstack : s'.stack = s.stack)

/-- The streak, made longer by the next empty step, has so many steps and holds the stack of
the state `s`, which is at the same place. -/
structure Holds (s : RunState) (steps : Nat) (s' : RunState) : Prop where
  place : s'.place = s.place
  streak : lengthen s'.stack s' = ⟨s.place.pos, steps, s.stack⟩

variable {ctx} {s s' : RunState} {rule : Rule} {rules : List Rule} {steps : Nat}

/-! ## Empty steps -/

theorem Restacks.step_eq (h : ctx.Restacks s rule) :
    ctx.step s =
      if ctx.config.maxEmptySteps < (lengthen s.stack s).steps then
        ctx.forceChar ⟨s.place, (lengthen s.stack s).stack, none⟩
      else ([], ⟨s.place, applyOps rule.ops s.stack, some (lengthen s.stack s)⟩) := by
  obtain ⟨m, hsel, he, hs⟩ := h
  obtain ⟨d, hm⟩ := hsel.inside
  rw [hsel.step_eq, applyRule, if_pos he, tokensOf_eq_nil hm he, afterEmpty, if_neg hs]
  rfl

theorem Restacks.step_counted (h : ctx.Restacks s rule)
    (hk : (lengthen s.stack s).steps ≤ ctx.config.maxEmptySteps) :
    ctx.step s = ([], ⟨s.place, applyOps rule.ops s.stack, some (lengthen s.stack s)⟩) := by
  rw [h.step_eq, if_neg (Nat.not_lt_of_le hk)]

theorem Restacks.step_abandoned (h : ctx.Restacks s rule)
    (hk : ctx.config.maxEmptySteps < (lengthen s.stack s).steps) :
    ctx.step s = ctx.forceChar ⟨s.place, (lengthen s.stack s).stack, none⟩ := by
  rw [h.step_eq, if_pos hk]

/-- Where no streak counts, the next empty step records the stack that is there. -/
theorem holds_of_current? (h : s.current? = none) : Holds s 1 s :=
  ⟨rfl, by rw [lengthen_eq, h]⟩

/-- An empty step within the limit makes the streak longer and holds on to its stack. -/
theorem Holds.counted (h : Holds s steps s') (hrule : ctx.Restacks s' rule)
    (hk : steps ≤ ctx.config.maxEmptySteps) : Holds s (steps + 1) (ctx.step s').2 := by
  have hstreak := h.streak
  have hstep := hrule.step_counted (by rwa [hstreak])
  rw [hstreak] at hstep
  rw [hstep]
  refine ⟨h.place, ?_⟩
  unfold lengthen
  exact if_pos (congrArg Cursor.pos h.place.symm)

/-! ## Streaks -/

theorem exhaust_add (m n : Nat) (s : RunState) :
    ctx.exhaust (m + n) s = ctx.exhaust m s ++ ctx.exhaust n (ctx.after m s) := by
  rw [exhaust_eq_flatMap, exhaust_eq_flatMap, exhaust_eq_flatMap, visited_add,
    List.flatMap_append]

theorem exhaust_one (hr : s.place.rest ≠ []) : ctx.exhaust 1 s = (ctx.step s).1 := by
  rw [exhaust_succ hr, exhaust, List.append_nil]

theorem after_step (hr : s'.place.rest ≠ []) {n : Nat} (h : s' = ctx.after n s) :
    (ctx.step s').2 = ctx.after (n + 1) s := by
  rw [after_add, ← h, after_succ hr, after]

theorem applyOps_flatMap_snoc (rules : List Rule) (rule : Rule) (stack : List StateId) :
    applyOps ((rules ++ [rule]).flatMap Rule.ops) stack
      = applyOps rule.ops (applyOps (rules.flatMap Rule.ops) stack) := by
  simp [applyOps]

/-- What empty steps within the limit lead to. -/
structure Kept (ctx : RunContext) (s : RunState) (rules : List Rule) (s' : RunState) : Prop where
  holds : Holds s (rules.length + 1) s'
  stack : s'.stack = applyOps (rules.flatMap Rule.ops) s.stack
  after : s' = ctx.after rules.length s
  silent : ctx.exhaust rules.length s = []

/-- Empty steps within the limit keep the place and all their changes. -/
theorem RestacksTo.kept (h : ctx.RestacksTo s rules s') (hs : Holds s 1 s)
    (hr : s.place.rest ≠ []) (hle : rules.length ≤ ctx.config.maxEmptySteps) :
    ctx.Kept s rules s' := by
  induction h with
  | refl => exact ⟨hs, rfl, rfl, rfl⟩
  | @step rules rule s' _ hrule ih =>
    rw [List.length_append, List.length_singleton] at hle
    obtain ⟨hholds, hstack, hafter, hsilent⟩ := ih (by omega)
    have hr' : s'.place.rest ≠ [] := hholds.place ▸ hr
    have hstep := hrule.step_counted (by rw [hholds.streak]; exact hle)
    refine ⟨?_, ?_, ?_, ?_⟩
    · rw [List.length_append]
      exact hholds.counted hrule hle
    · rw [applyOps_flatMap_snoc, ← hstack, hstep]
    · rw [List.length_append]
      exact after_step hr' hafter
    · rw [List.length_append, List.length_singleton, exhaust_add, hsilent, ← hafter,
        exhaust_one hr', hstep]
      rfl

/-- A run makes empty steps up to any number, unless it stops making them before. -/
theorem exists_restacksTo (ctx : RunContext) (s : RunState) (n : Nat) :
    ∃ rules s', ctx.RestacksTo s rules s' ∧ rules.length ≤ n ∧
      ((∀ rule, ¬ ctx.Restacks s' rule) ∨ rules.length = n) := by
  induction n with
  | zero => exact ⟨[], s, .refl, Nat.le_refl 0, .inr rfl⟩
  | succ n ih =>
    obtain ⟨rules, s', h, hle, hend⟩ := ih
    by_cases hno : ∀ rule, ¬ ctx.Restacks s' rule
    · exact ⟨rules, s', h, Nat.le_succ_of_le hle, .inl hno⟩
    · obtain ⟨rule, hrule⟩ := not_forall_not.mp hno
      have hlength := hend.resolve_left hno
      refine ⟨rules ++ [rule], _, h.step hrule, ?_, .inr ?_⟩
      · rw [List.length_append, List.length_singleton]
        omega
      · rw [List.length_append, List.length_singleton, hlength]

/-! ## Ends of streaks -/

/-- A step that is not an empty one goes on in the text. -/
theorem step_goesOn (hs : s.stack ≠ []) (hr : s.place.rest ≠ [])
    (hno : ∀ rule, ¬ ctx.Restacks s rule) :
    ctx.GoesOn s ∧ s.place.pos < (ctx.step s).2.place.pos := by
  have hchar : ∀ kind (s : RunState), s.place.rest ≠ [] →
      s.place.pos < (takeChar kind s).2.place.pos := fun kind s hr =>
    (takeChar_moves ctx kind hr).elim fun _ hm => hm.passes.lt hm.ne_nil
  have hout := step_outcome ctx s
  rw [refill_eq hs] at hout
  generalize hstep : ctx.step s = out at hout
  cases hout with
  | lost => exact ⟨.forced hstep, hchar _ s hr⟩
  | reset _ _ hc => exact ⟨.reset hc hstep, hchar _ { s with stack := ctx.resetStack } hr⟩
  | consumed hsel hm hlt =>
    exact ⟨.matched hsel (hm.isEmpty_eq_false hlt) (by rw [hstep]), hlt⟩
  | idle => exact ⟨.forced hstep, hchar _ s hr⟩
  | counted hsel he hs => exact absurd ⟨_, hsel, he, hs⟩ (hno _)
  | abandoned hsel he hs => exact absurd ⟨_, hsel, he, hs⟩ (hno _)

/-- Changes of the stack never empty it. -/
theorem applyOps_ne_nil {stack : List StateId} (h : stack ≠ []) (ops : List StackOp) :
    applyOps ops stack ≠ [] :=
  (applyOps_all (P := fun _ => True) h (fun _ _ => trivial) fun _ _ _ _ => trivial).1

/-- Where no streak counts, the empty steps have one of the two ends. -/
theorem Holds.settles (h : Holds s 1 s) (hr : s.place.rest ≠ []) (hstack : s.stack ≠ []) :
    ctx.Settles s := by
  obtain ⟨rules, s', hto, hle, hend⟩ := exists_restacksTo ctx s ctx.config.maxEmptySteps
  obtain ⟨hholds, hchanged, hafter, hsilent⟩ := hto.kept h hr hle
  have hr' : s'.place.rest ≠ [] := hholds.place ▸ hr
  by_cases hno : ∀ rule, ¬ ctx.Restacks s' rule
  · obtain ⟨hgoes, hlt⟩ := step_goesOn (hchanged ▸ applyOps_ne_nil hstack _) hr' hno
    rw [hholds.place] at hlt
    exact .kept hto hle hholds.place hchanged hsilent hno hgoes hlt
  · obtain ⟨rule, hrule⟩ := not_forall_not.mp hno
    have hlength := hend.resolve_left hno
    have hstep := hrule.step_abandoned (by rw [hholds.streak, hlength]; exact Nat.lt_succ_self _)
    obtain ⟨c, rest, hrest⟩ := List.exists_cons_of_ne_nil hr
    rw [hholds.streak, hholds.place, forceChar, takeChar] at hstep
    simp only [hrest] at hstep
    refine .undone (hto.step hrule) ?_ (c := c) (by rw [hrest]; rfl) ?_ (by rw [hstep])
      (by rw [hstep])
    · rw [List.length_append, List.length_singleton, hlength]
    · rw [List.length_append, List.length_singleton, exhaust_add, hsilent, ← hafter,
        exhaust_one hr', hstep]
      rfl

end RunContext

/-! ## Arrivals -/

section

variable {library : Library} {top r : InnerRun} {config : LexConfig} {s : RunState}

/-- What a run inside of another one reaches, it reaches by itself. -/
theorem Reached.alone (h : Reached library top config r s) : Reached library r config r s := by
  induction h with
  | start config => exact .start config
  | configure config' _ ih => exact ih.configure config'
  | step _ hr ih => exact ih.step hr
  | nest => exact .start _

/-- Wherever a run is, it has arrived. -/
theorem Reached.exists_arrives (h : Reached library top config r s) :
    ∃ s', r.Arrives library s' ∧ s'.place = s.place := by
  induction h with
  | start config => exact ⟨_, .start config, rfl⟩
  | configure _ _ ih => exact ih
  | @step config r s h hr ih =>
    rcases (r.context library config).step_moves_or_counts hr with ⟨t, hm⟩ | hc
    · exact ⟨_, .moved h.alone hr (hm.passes.lt hm.ne_nil), rfl⟩
    · obtain ⟨s', hs', hplace⟩ := ih
      exact ⟨s', hs', hplace.trans hc.place.symm⟩
  | @nest config r s request => exact ⟨_, .start config, rfl⟩

end

/-! ## Runs -/

namespace Run

variable {library : Library} {table : Table} {states : List String} {text : Text}
  {config : LexConfig} {r : Run}

/-- A run with a table that has been built, or a run inside of it: wherever it is, it has
arrived there by a step in the text or at the start, and whatever has come before, the empty
steps there either are within the limit and keep all that they have done to the stack, or are
undone as a whole, for one character of the fallback kind. -/
theorem streak_undone (hlib : ∀ t ∈ library, t.BuiltOn library) (ht : table.BuiltOn library)
    (h : (Run.start library table states text).map (·.withConfig config) = .ok r)
    {limits : LexConfig} {inner : InnerRun} {reached : RunState}
    (hs : Reached library (r.outermost text) limits inner reached) :
    (∃ s, inner.Arrives library s ∧ s.place = reached.place) ∧
    ∀ s, inner.Arrives library s → s.place.rest ≠ [] →
      ∀ limits, (inner.context library limits).Settles s := by
  obtain ⟨hrooted, -⟩ := reached_on hlib (start_rooted ht h) hs
  refine ⟨hs.exists_arrives, fun s harrives hr limits => ?_⟩
  obtain ⟨-, hon⟩ := reached_on hlib hrooted (harrives.reached limits)
  exact (holds_of_current? harrives.current?_eq_none).settles hr hon.stack.ne_nil

theorem streak_undone_pushing :
    ∃ table r, pushing.build [] = .ok table ∧
      (Run.start [] table [] "aébc".toList).map (·.withConfig ⟨.text, 1, 2⟩) = .ok r ∧
      (r.context.after 4 r.state).stack = (r.context.after 1 r.state).stack ∧
      r.context.Settles (r.context.after 1 r.state) := by
  obtain ⟨table, htable, r, hr, hrest, hback, hlt⟩ : ∃ table, pushing.build [] = .ok table ∧
      ∃ r, (Run.start [] table [] "aébc".toList).map (·.withConfig ⟨.text, 1, 2⟩) = .ok r ∧
      (r.context.after 1 r.state).place.rest ≠ [] ∧
      (r.context.after 4 r.state).stack = (r.context.after 1 r.state).stack ∧
      (r.context.after 0 r.state).place.pos < (r.context.after 1 r.state).place.pos :=
    by decide +kernel
  have hlib : ∀ t ∈ ([] : Library), t.BuiltOn [] := List.forall_mem_nil _
  obtain ⟨hctx, -⟩ := start_context hr
  obtain ⟨-, hsettles⟩ := streak_undone hlib ⟨pushing, 0, htable⟩ hr (.start ⟨.text, 1, 2⟩)
  refine ⟨table, r, htable, hr, hback, ?_⟩
  have hone := hsettles _ (arrives_after hr hlt) hrest ⟨.text, 1, 2⟩
  rwa [← hctx] at hone

end Run

end TableLexer
