import TableLexer.Proofs.Run.Nesting

/-!
# Runs in lockstep

Two runs are in lockstep if from their states on they go through the same places with the
same stacks and give the same tokens, step by step. What else their states hold, and how
many steps their limits allow, may differ. Such runs cannot be told apart by what they show
when they are asked for tokens.

Results:
1. `lockstep_of_keeps`, `lockstep_of_steps`: states of a relation that steps keep are in
   lockstep, so runs are whose steps are the same ones in all states of one of them.
2. `RunContext.Lockstep.exhaust_eq`: runs in lockstep have the same tokens.
3. `Run.Lockstep.pull`: they stay in lockstep while tokens are asked for.
4. `Run.Lockstep.looksLike`: so they show the same.
-/

namespace TableLexer

/-! ## Definitions -/

/-- From the states `s` and `s'` on, the runs go through the same places with the same
stacks and give the same tokens. -/
structure RunContext.Lockstep (ctx ctx' : RunContext) (s s' : RunState) : Prop where
  place : ∀ n, (ctx'.after n s').place = (ctx.after n s).place
  stack : ∀ n, (ctx'.after n s').stack = (ctx.after n s).stack
  tokens : ∀ n, (ctx.after n s).place.rest ≠ [] →
    (ctx'.step (ctx'.after n s')).1 = (ctx.step (ctx.after n s)).1

/-- The runs have the same tokens in their queues and go on in lockstep. -/
structure Run.Lockstep (r r' : Run) : Prop where
  queue : r'.queue = r.queue
  states : r.context.Lockstep r'.context r.state r'.state

/-- Nothing that the runs show tells them apart: neither their tokens, nor where they are
and what is on their stacks after a step or when some tokens have been asked for. -/
structure Run.LooksLike (r r' : Run) : Prop where
  steps : r.context.Lockstep r'.context r.state r'.state
  rest : r'.rest = r.rest
  given : ∀ n, (r'.pull n).1 = (r.pull n).1
  position : ∀ n, (r'.pull n).2.position = (r.pull n).2.position
  stack : ∀ n, (r'.pull n).2.state.stack = (r.pull n).2.state.stack
  stackNames : ∀ n, (r'.pull n).2.stackNames = (r.pull n).2.stackNames

/-! ## Steps -/

namespace RunContext

variable {ctx ctx' : RunContext} {s s' : RunState} {fuel fuel' : Nat}

theorem Lockstep.place_eq (h : ctx.Lockstep ctx' s s') : s'.place = s.place := h.place 0

theorem Lockstep.step (h : ctx.Lockstep ctx' s s') (hr : s.place.rest ≠ []) :
    ctx.Lockstep ctx' (ctx.step s).2 (ctx'.step s').2 := by
  have hr' : s'.place.rest ≠ [] := h.place_eq ▸ hr
  refine ⟨fun n => ?_, fun n => ?_, fun n => ?_⟩
  · rw [← after_succ hr, ← after_succ hr']
    exact h.place (n + 1)
  · rw [← after_succ hr, ← after_succ hr']
    exact h.stack (n + 1)
  · rw [← after_succ hr, ← after_succ hr']
    exact h.tokens (n + 1)

theorem Lockstep.symm (h : ctx.Lockstep ctx' s s') : ctx'.Lockstep ctx s' s where
  place n := (h.place n).symm
  stack n := (h.stack n).symm
  tokens n hr := (h.tokens n (h.place n ▸ hr)).symm

theorem Lockstep.trans {ctx'' : RunContext} {s'' : RunState} (h : ctx.Lockstep ctx' s s')
    (h' : ctx'.Lockstep ctx'' s' s'') : ctx.Lockstep ctx'' s s'' where
  place n := (h'.place n).trans (h.place n)
  stack n := (h'.stack n).trans (h.stack n)
  tokens n hr := (h'.tokens n ((h.place n).symm ▸ hr)).trans (h.tokens n hr)

/-- States of a relation that steps keep, and that agree in what they show, are in
lockstep. -/
theorem lockstep_of_keeps {R : RunState → RunState → Prop}
    (shows : ∀ s s', R s s' → s'.place = s.place ∧ s'.stack = s.stack)
    (keeps : ∀ s s', R s s' → s.place.rest ≠ [] →
      (ctx'.step s').1 = (ctx.step s).1 ∧ R (ctx.step s).2 (ctx'.step s').2)
    (h : R s s') : ctx.Lockstep ctx' s s' := by
  have hall : ∀ n s s', R s s' → R (ctx.after n s) (ctx'.after n s') := by
    intro n
    induction n with
    | zero => exact fun _ _ h => h
    | succ n ih =>
      intro s s' h
      have hplace := (shows s s' h).1
      by_cases hr : s.place.rest = []
      · rw [after_nil hr, after_nil (hplace ▸ hr)]
        exact h
      · rw [after_succ hr, after_succ (hplace ▸ hr)]
        exact ih _ _ (keeps s s' h hr).2
  exact ⟨fun n => (shows _ _ (hall n s s' h)).1, fun n => (shows _ _ (hall n s s' h)).2,
    fun n hr => (keeps _ _ (hall n s s' h) hr).1⟩

theorem after_mem_visited {n : Nat} (hfuel : ctx.potential s ≤ fuel)
    (hr : (ctx.after n s).place.rest ≠ []) : ctx.after n s ∈ ctx.visited fuel s := by
  have hfirst := visited_prefix (n + 1) hfuel
  refine hfirst.subset ?_
  rw [visited_add, visited_cons hr]
  exact List.mem_append_right _ List.mem_cons_self

/-- Steps that are the same ones in all states of a run make up runs in lockstep. -/
theorem lockstep_of_steps (hfuel : ctx.potential s ≤ fuel)
    (h : ∀ s' ∈ ctx.visited fuel s, ctx'.step s' = ctx.step s') : ctx.Lockstep ctx' s s := by
  refine lockstep_of_keeps (R := fun s₁ s₂ => s₂ = s₁ ∧ ∃ n, s₁ = ctx.after n s) ?_ ?_
    ⟨rfl, 0, rfl⟩
  · rintro s₁ _ ⟨rfl, -⟩
    exact ⟨rfl, rfl⟩
  · rintro _ _ ⟨rfl, n, rfl⟩ hr
    rw [h _ (after_mem_visited hfuel hr)]
    refine ⟨rfl, rfl, n + 1, ?_⟩
    rw [after_add, after_succ hr]
    rfl

theorem Lockstep.exhaust (h : ctx.Lockstep ctx' s s') (fuel : Nat) :
    ctx'.exhaust fuel s' = ctx.exhaust fuel s := by
  induction fuel generalizing s s' with
  | zero => rfl
  | succ fuel ih =>
    by_cases hr : s.place.rest = []
    · rw [exhaust_nil hr, exhaust_nil (h.place_eq ▸ hr)]
    · have htokens : (ctx'.step s').1 = (ctx.step s).1 := h.tokens 0 hr
      rw [exhaust_succ hr, exhaust_succ (h.place_eq ▸ hr), htokens, ih (h.step hr)]

/-- Runs in lockstep have the same tokens, whatever fuel each of them has got, if it is
enough. -/
theorem Lockstep.exhaust_eq (h : ctx.Lockstep ctx' s s') (hfuel : ctx.potential s ≤ fuel)
    (hfuel' : ctx'.potential s' ≤ fuel') : ctx'.exhaust fuel' s' = ctx.exhaust fuel s :=
  calc ctx'.exhaust fuel' s'
      = ctx'.exhaust (max fuel fuel') s' :=
        RunContext.exhaust_eq hfuel' (Nat.le_trans hfuel' (Nat.le_max_right _ _))
    _ = ctx.exhaust (max fuel fuel') s := h.exhaust _
    _ = ctx.exhaust fuel s :=
        RunContext.exhaust_eq (Nat.le_trans hfuel (Nat.le_max_left _ _)) hfuel

end RunContext

/-! ## Runs that are asked for tokens -/

namespace Run

variable {r r' : Run}

namespace Lockstep

theorem abreast : Abreast (· = ·) Run.Lockstep where
  queue h := by
    rw [h.queue]
    exact List.forall₂_same.mpr fun _ _ => rfl
  ended h := by rw [h.states.place_eq]
  stepped h hr := ⟨h.states.tokens 0 hr, h.states.step hr⟩
  given h ht := by
    rw [List.forall₂_eq_eq_eq] at ht
    exact ⟨ht.symm, h.states⟩

theorem pull (h : r.Lockstep r') (n : Nat) :
    (r'.pull n).1 = (r.pull n).1 ∧ (r.pull n).2.Lockstep (r'.pull n).2 := by
  obtain ⟨htokens, hpull⟩ := abreast.pull h n
  rw [List.forall₂_eq_eq_eq] at htokens
  exact ⟨htokens.symm, hpull⟩

theorem rest (h : r.Lockstep r') : r'.rest = r.rest := by
  have htokens := abreast.rest h
  rw [List.forall₂_eq_eq_eq] at htokens
  exact htokens.symm

/-- Runs in lockstep show the same if states have the same names in their tables. -/
theorem looksLike (h : r.Lockstep r') (hnames : r'.table.stateName? = r.table.stateName?) :
    r.LooksLike r' := by
  have hstack : ∀ n, (r'.pull n).2.state.stack = (r.pull n).2.state.stack :=
    fun n => (h.pull n).2.states.stack 0
  refine ⟨h.states, h.rest, fun n => (h.pull n).1, fun n => ?_, hstack, fun n => ?_⟩
  · exact congrArg Cursor.pos (h.pull n).2.states.place_eq
  · obtain ⟨_, _, hctx⟩ := pull_after n r
    obtain ⟨_, _, hctx'⟩ := pull_after n r'
    have htable : (r.pull n).2.table = r.table := congrArg RunContext.table hctx
    have htable' : (r'.pull n).2.table = r'.table := congrArg RunContext.table hctx'
    rw [Run.stackNames, Run.stackNames, hstack, htable, htable', hnames]

end Lockstep

end Run

end TableLexer
