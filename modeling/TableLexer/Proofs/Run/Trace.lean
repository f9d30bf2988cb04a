import TableLexer.Proofs.Run.Step

/-!
# Runs come to an end

A run is a row of steps up to the end of its text. Each step either consumes text or
uses up one of the empty steps that are allowed at its place, so a run is over after
no more steps than its potential at the start, and the tokens of its steps tile the
text.

Results:
1. `step_potential`: a step lowers the potential.
2. `visited_length`, `stepsAt_le`: how many steps a run takes in all, and how many at
   one place.
3. `exhaust_tile`: the tokens of a run to its end tile the text before it.
4. `exhaust_eq_flatMap`, `exhaust_eq`: the tokens of a run are those of its steps, and
   more fuel than the potential changes nothing.
5. `after_congr`, `visited_congr`, `exhaust_congr`: what a run does depends only on what
   its steps do.
-/

namespace TableLexer

open Cursor

namespace RunContext

variable (ctx : RunContext)

/-! ## Definitions -/

/-- The state in which a run over a text begins. -/
def begin (text : Text) : RunState := ⟨Cursor.ofText text, ctx.initial, none⟩

/-- The states in which a run takes its next steps, `fuel` of them at most. -/
def visited : (fuel : Nat) → RunState → List RunState
  | 0, _ => []
  | fuel + 1, s => if s.place.rest.isEmpty then [] else s :: visited fuel (ctx.step s).2

/-- The state after so many steps, or at the end of the text. -/
def after : (steps : Nat) → RunState → RunState
  | 0, s => s
  | steps + 1, s => if s.place.rest.isEmpty then s else after steps (ctx.step s).2

/-- How many steps may still be taken before one consumes text. -/
def budget (s : RunState) : Nat :=
  match s.streak with
  | some streak =>
      if streak.pos = s.place.pos then ctx.config.maxEmptySteps - streak.steps + 1
      else ctx.patience
  | none => ctx.patience

/-- How many steps may still be taken before the text ends. -/
def potential (s : RunState) : Nat :=
  match s.place.rest with
  | [] => 0
  | _ :: rest => ctx.patience * rest.length + ctx.budget s

variable {ctx} {s s' : RunState} {fuel fuel' : Nat}

/-! ## The potential -/

theorem budget_pos : 0 < ctx.budget s := by
  unfold budget patience
  split
  · split <;> omega
  · omega

theorem budget_le : ctx.budget s ≤ ctx.patience := by
  unfold budget patience
  split
  · split <;> omega
  · omega

theorem potential_eq_zero_iff : ctx.potential s = 0 ↔ s.place.rest = [] := by
  unfold potential
  cases s.place.rest with
  | nil => simp
  | cons c rest =>
    have hpos : 0 < ctx.budget s := budget_pos
    simp only [reduceCtorEq, iff_false]
    omega

theorem potential_le : ctx.potential s ≤ ctx.patience * s.place.rest.length := by
  unfold potential
  cases s.place.rest with
  | nil => exact Nat.zero_le _
  | cons c rest =>
    have hle : ctx.budget s ≤ ctx.patience := budget_le
    simp only [List.length_cons, Nat.mul_add, Nat.mul_one]
    omega

/-- The fuel of a run is enough. -/
theorem potential_le_enough : ctx.potential s ≤ ctx.enough s.place.rest.length := by
  exact Nat.le_trans potential_le (Nat.mul_le_mul_left _ (Nat.le_succ _))

theorem lengthen_pos (before : List StateId) : (lengthen before s).pos = s.place.pos := by
  unfold lengthen
  split
  · split
    · assumption
    · rfl
  · rfl

/-- One more empty step uses up one of the budget. -/
theorem budget_lengthen {before : List StateId}
    (hk : (lengthen before s).steps ≤ ctx.config.maxEmptySteps) :
    ctx.budget s = ctx.config.maxEmptySteps - (lengthen before s).steps + 2 := by
  have hfirst : 1 ≤ ctx.config.maxEmptySteps →
      ctx.patience = ctx.config.maxEmptySteps - 1 + 2 := by
    unfold patience
    omega
  cases hs : s.streak with
  | none =>
    simp only [lengthen, hs] at hk
    simp only [budget, lengthen, hs]
    exact hfirst hk
  | some streak =>
    by_cases hp : streak.pos = s.place.pos
    · simp only [lengthen, hs, if_pos hp] at hk
      simp only [budget, lengthen, hs, if_pos hp]
      omega
    · simp only [lengthen, hs, if_neg hp] at hk
      simp only [budget, lengthen, hs, if_neg hp]
      exact hfirst hk

theorem Counts.budget {tokens : List Token} (h : ctx.Counts s tokens s') :
    ctx.budget s' + 1 = ctx.budget s := by
  obtain ⟨before, hs, hk⟩ := h.streak
  have hpos : (lengthen before s).pos = s'.place.pos := by rw [lengthen_pos, h.place]
  have hs' : ctx.budget s' = ctx.config.maxEmptySteps - (lengthen before s).steps + 1 := by
    rw [RunContext.budget, hs]
    exact if_pos hpos
  rw [hs', budget_lengthen hk]

theorem Moves.potential {t : Text} {tokens : List Token} (h : ctx.Moves s t tokens s') :
    ctx.potential s' < ctx.potential s := by
  have hrest := h.passes.rest
  have hle : ctx.potential s' ≤ ctx.patience * s'.place.rest.length := potential_le
  have hpos : 0 < ctx.budget s := budget_pos
  cases t with
  | nil => exact absurd rfl h.ne_nil
  | cons c t =>
    unfold RunContext.potential at hle ⊢
    rw [hrest]
    have hlen : ctx.patience * s'.place.rest.length
        ≤ ctx.patience * (t ++ s'.place.rest).length := by
      refine Nat.mul_le_mul_left _ ?_
      rw [List.length_append]
      omega
    simp only [List.cons_append] at hle ⊢
    omega

theorem Counts.potential {tokens : List Token} (h : ctx.Counts s tokens s')
    (hr : s.place.rest ≠ []) : ctx.potential s' < ctx.potential s := by
  have hb := h.budget
  unfold RunContext.potential
  rw [h.place]
  cases hrest : s.place.rest with
  | nil => exact absurd hrest hr
  | cons c rest =>
    dsimp only
    omega

/-- Every step lowers the potential. -/
theorem step_potential (hr : s.place.rest ≠ []) :
    ctx.potential (ctx.step s).2 < ctx.potential s := by
  rcases ctx.step_moves_or_counts hr with ⟨t, h⟩ | h
  · exact h.potential
  · exact h.potential hr

/-! ## Numbers of steps -/

theorem visited_nil (hr : s.place.rest = []) : ctx.visited fuel s = [] := by
  cases fuel with
  | zero => rfl
  | succ fuel => simp [visited, hr]

theorem visited_cons (hr : s.place.rest ≠ []) :
    ctx.visited (fuel + 1) s = s :: ctx.visited fuel (ctx.step s).2 := by
  simp [visited, hr]

/-- A run takes no more steps than its potential. -/
theorem visited_length : (ctx.visited fuel s).length ≤ ctx.potential s := by
  induction fuel generalizing s with
  | zero => exact Nat.zero_le _
  | succ fuel ih =>
    by_cases hr : s.place.rest = []
    · rw [visited_nil hr]
      exact Nat.zero_le _
    · rw [visited_cons hr, List.length_cons]
      have hrest : (ctx.visited fuel (ctx.step s).2).length ≤ _ := ih
      have hlt : ctx.potential (ctx.step s).2 < ctx.potential s := step_potential hr
      omega

/-- A run never goes back. -/
theorem le_of_mem_visited {r : RunState} (h : r ∈ ctx.visited fuel s) :
    s.place.pos ≤ r.place.pos := by
  induction fuel generalizing s with
  | zero => cases h
  | succ fuel ih =>
    by_cases hr : s.place.rest = []
    · rw [visited_nil hr] at h
      cases h
    · rw [visited_cons hr] at h
      rcases List.mem_cons.mp h with rfl | h
      · exact Nat.le_refl _
      · refine Nat.le_trans ?_ (ih h)
        rcases ctx.step_moves_or_counts hr with ⟨t, hm⟩ | hc
        · exact hm.passes.le
        · exact Nat.le_of_eq (congrArg Cursor.pos hc.place.symm)

/-- What steps keep holds of all states of a run. -/
theorem forall_visited {P : RunState → Prop}
    (keeps : ∀ s, P s → s.place.rest ≠ [] → P (ctx.step s).2) (h : P s) :
    ∀ r ∈ ctx.visited fuel s, P r ∧ r.place.rest ≠ [] := by
  induction fuel generalizing s with
  | zero => exact List.forall_mem_nil _
  | succ fuel ih =>
    by_cases hr : s.place.rest = []
    · rw [visited_nil hr]
      exact List.forall_mem_nil _
    · rw [visited_cons hr]
      exact List.forall_mem_cons.mpr ⟨⟨h, hr⟩, ih (keeps s h hr)⟩

/-- The number of steps that a run takes at an offset. -/
def stepsAt (ctx : RunContext) (fuel : Nat) (s : RunState) (pos : Nat) : Nat :=
  (ctx.visited fuel s).countP (·.place.pos = pos)

theorem stepsAt_eq_zero {pos : Nat} (h : pos < s.place.pos) : ctx.stepsAt fuel s pos = 0 := by
  refine List.countP_eq_zero.mpr fun r hr => ?_
  have hle : s.place.pos ≤ r.place.pos := le_of_mem_visited hr
  rw [decide_eq_true_eq]
  omega

/-- A step that consumes text leaves the place for good, and the others are budgeted. -/
theorem stepsAt_here : ctx.stepsAt fuel s s.place.pos ≤ ctx.budget s := by
  induction fuel generalizing s with
  | zero => exact Nat.zero_le _
  | succ fuel ih =>
    by_cases hr : s.place.rest = []
    · rw [stepsAt, visited_nil hr]
      exact Nat.zero_le _
    · have hcons : ctx.stepsAt (fuel + 1) s s.place.pos
          = ctx.stepsAt fuel (ctx.step s).2 s.place.pos + 1 := by
        rw [stepsAt, visited_cons hr]
        exact List.countP_cons_of_pos (decide_eq_true rfl)
      rw [hcons]
      rcases ctx.step_moves_or_counts hr with ⟨t, h⟩ | h
      · rw [stepsAt_eq_zero (h.passes.lt h.ne_nil)]
        exact budget_pos
      · have hrest : ctx.stepsAt fuel (ctx.step s).2 (ctx.step s).2.place.pos
            ≤ ctx.budget (ctx.step s).2 := ih
        have hbudget : ctx.budget (ctx.step s).2 + 1 = ctx.budget s := h.budget
        rw [h.place] at hrest
        omega

/-- A run takes at most `patience` steps at one place. -/
theorem stepsAt_le (pos : Nat) : ctx.stepsAt fuel s pos ≤ ctx.patience := by
  induction fuel generalizing s with
  | zero => exact Nat.zero_le _
  | succ fuel ih =>
    by_cases hp : s.place.pos = pos
    · rw [← hp]
      exact Nat.le_trans stepsAt_here budget_le
    · by_cases hr : s.place.rest = []
      · rw [stepsAt, visited_nil hr]
        exact Nat.zero_le _
      · rw [stepsAt, visited_cons hr, List.countP_cons_of_neg (by simpa using hp)]
        exact ih

theorem after_nil (hr : s.place.rest = []) (n : Nat) : ctx.after n s = s := by
  cases n with
  | zero => rfl
  | succ n => simp [after, hr]

theorem after_succ (hr : s.place.rest ≠ []) (n : Nat) :
    ctx.after (n + 1) s = ctx.after n (ctx.step s).2 := by
  simp [after, hr]

/-- After as many steps as its potential, a run is at the end of its text. -/
theorem after_potential (h : ctx.potential s ≤ fuel) : (ctx.after fuel s).place.rest = [] := by
  induction fuel generalizing s with
  | zero => exact potential_eq_zero_iff.mp (Nat.le_zero.mp h)
  | succ fuel ih =>
    by_cases hr : s.place.rest = []
    · rw [after_nil hr, hr]
    · rw [after_succ hr]
      have hlt : ctx.potential (ctx.step s).2 < ctx.potential s := step_potential hr
      exact ih (by omega)

theorem visited_add (m n : Nat) (s : RunState) :
    ctx.visited (m + n) s = ctx.visited m s ++ ctx.visited n (ctx.after m s) := by
  induction m generalizing s with
  | zero =>
    rw [Nat.zero_add]
    rfl
  | succ m ih =>
    by_cases hr : s.place.rest = []
    · rw [after_nil hr, visited_nil hr, visited_nil hr, visited_nil hr]
      rfl
    · rw [Nat.succ_add, visited_cons hr, visited_cons hr, after_succ hr, ih]
      rfl

theorem after_add (m n : Nat) (s : RunState) :
    ctx.after (m + n) s = ctx.after n (ctx.after m s) := by
  induction m generalizing s with
  | zero => rw [Nat.zero_add, after]
  | succ m ih =>
    by_cases hr : s.place.rest = []
    · rw [after_nil hr, after_nil hr, after_nil hr]
    · rw [Nat.succ_add, after_succ hr, after_succ hr, ih]

theorem after_length_visited : ctx.after (ctx.visited fuel s).length s = ctx.after fuel s := by
  induction fuel generalizing s with
  | zero => rfl
  | succ fuel ih =>
    by_cases hr : s.place.rest = []
    · rw [after_nil hr, after_nil hr]
    · rw [visited_cons hr, List.length_cons, after_succ hr, after_succ hr, ih]

/-- Whatever the number of steps, they are among those up to the end of the text, where those beyond
the fuel would start. -/
theorem visited_prefix (n : Nat) (h : ctx.potential s ≤ fuel) :
    ctx.visited n s <+: ctx.visited fuel s := by
  rcases Nat.le_total n fuel with hle | hle
  · obtain ⟨m, rfl⟩ := Nat.exists_eq_add_of_le hle
    rw [visited_add]
    exact List.prefix_append _ _
  · obtain ⟨m, rfl⟩ := Nat.exists_eq_add_of_le hle
    have hsame : ctx.visited (fuel + m) s = ctx.visited fuel s := by
      rw [visited_add, visited_nil (after_potential h), List.append_nil]
    exact hsame ▸ List.prefix_rfl

/-! ## Runs that take the same steps -/

section

variable {ctx' : RunContext}

/-- Steps to the same states make up runs through the same states. -/
theorem after_congr (h : ∀ s, (ctx'.step s).2 = (ctx.step s).2) (n : Nat) (s : RunState) :
    ctx'.after n s = ctx.after n s := by
  induction n generalizing s with
  | zero => rfl
  | succ n ih =>
    by_cases hr : s.place.rest = []
    · rw [after_nil hr, after_nil hr]
    · rw [after_succ hr, after_succ hr, h, ih]

theorem visited_congr (h : ∀ s, (ctx'.step s).2 = (ctx.step s).2) (fuel : Nat) (s : RunState) :
    ctx'.visited fuel s = ctx.visited fuel s := by
  induction fuel generalizing s with
  | zero => rfl
  | succ fuel ih =>
    by_cases hr : s.place.rest = []
    · rw [visited_nil hr, visited_nil hr]
    · rw [visited_cons hr, visited_cons hr, h, ih]

end

/-! ## Tokens -/

theorem exhaust_nil (hr : s.place.rest = []) : ctx.exhaust fuel s = [] := by
  cases fuel with
  | zero => rfl
  | succ fuel => simp [exhaust, hr]

theorem exhaust_succ (hr : s.place.rest ≠ []) :
    ctx.exhaust (fuel + 1) s = (ctx.step s).1 ++ ctx.exhaust fuel (ctx.step s).2 := by
  simp [exhaust, hr]

/-- The tokens of a run are those of its steps. -/
theorem exhaust_eq_flatMap :
    ctx.exhaust fuel s = (ctx.visited fuel s).flatMap fun r => (ctx.step r).1 := by
  induction fuel generalizing s with
  | zero => rfl
  | succ fuel ih =>
    by_cases hr : s.place.rest = []
    · rw [exhaust_nil hr, visited_nil hr]
      rfl
    · rw [exhaust_succ hr, visited_cons hr, List.flatMap_cons, ih]

theorem exhaust_congr {ctx' : RunContext} (h : ∀ s, ctx'.step s = ctx.step s) (fuel : Nat)
    (s : RunState) : ctx'.exhaust fuel s = ctx.exhaust fuel s := by
  rw [exhaust_eq_flatMap, exhaust_eq_flatMap,
    visited_congr (fun s => congrArg Prod.snd (h s)), funext fun s => congrArg Prod.fst (h s)]

theorem exhaust_eq (h : ctx.potential s ≤ fuel) (h' : ctx.potential s ≤ fuel') :
    ctx.exhaust fuel s = ctx.exhaust fuel' s := by
  induction fuel generalizing s fuel' with
  | zero =>
    have hr := potential_eq_zero_iff.mp (Nat.le_zero.mp h)
    rw [exhaust_nil hr, exhaust_nil hr]
  | succ fuel ih =>
    by_cases hr : s.place.rest = []
    · rw [exhaust_nil hr, exhaust_nil hr]
    · have hlt : ctx.potential (ctx.step s).2 < ctx.potential s := step_potential hr
      cases fuel' with
      | zero => omega
      | succ fuel' =>
        have hrest : ctx.exhaust fuel (ctx.step s).2 = ctx.exhaust fuel' (ctx.step s).2 :=
          ih (by omega) (by omega)
        rw [exhaust_succ hr, exhaust_succ hr, hrest]

/-- The tokens of a run tile the text before it. -/
theorem exhaust_tile (hrelex : ctx.RelexTiles) (h : ctx.potential s ≤ fuel) :
    Token.Tile s.place.pos s.place.rest (ctx.exhaust fuel s) := by
  induction fuel generalizing s with
  | zero =>
    have hr := potential_eq_zero_iff.mp (Nat.le_zero.mp h)
    rw [exhaust_nil hr, hr]
    exact Tiles.nil
  | succ fuel ih =>
    by_cases hr : s.place.rest = []
    · rw [exhaust_nil hr, hr]
      exact Tiles.nil
    · have hlt : ctx.potential (ctx.step s).2 < ctx.potential s := step_potential hr
      have hrest := ih (s := (ctx.step s).2) (by omega)
      rw [exhaust_succ hr]
      rcases ctx.step_moves_or_counts hr with ⟨t, hm⟩ | hc
      · rw [hm.passes.rest]
        refine (hm.tile hrelex).append ?_
        rwa [← hm.passes.pos]
      · rw [hc.tokens, List.nil_append]
        rwa [hc.place] at hrest

theorem tokensOfText_tile (hrelex : ctx.RelexTiles) (t : Text) :
    Token.Tile 0 t (ctx.tokensOfText t) :=
  exhaust_tile (s := ctx.begin t) hrelex potential_le_enough

end RunContext

end TableLexer
