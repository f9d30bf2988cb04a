import TableLexer.Proofs.Run.Lockstep

/-!
# Limits that are not met

The limits of a run count only where they are met: where text is to be lexed again on the
last level, and where one more match of nothing would be too many. A run that meets them
nowhere, neither itself nor in a run inside of it, is the same one with higher limits.

Results:
1. `step_raised`: a step that gives nothing up is the same one with more patience.
2. `below_of_started`: the runs below a run that another one starts are below that one.
3. `InnerRun.Unlimited.step`, `InnerRun.Unlimited.lockstep`: so runs that meet no limit take
   the same steps.
4. `run_unlimited`: and higher limits are not seen.
-/

namespace TableLexer

open RunContext

/-! ## Definitions -/

/-- The step gives up matches of nothing: it would be one more than the limit allows. -/
def RunContext.GivesUp (ctx : RunContext) (s : RunState) : Prop :=
  ∃ x ∈ ctx.selected? (ctx.refill s), x.2.whole.isEmpty = true ∧
    applyOps x.1.ops (ctx.refill s).stack ≠ (ctx.refill s).stack ∧
    ctx.config.maxEmptySteps < (lengthen (ctx.refill s).stack (ctx.refill s)).steps

instance (ctx : RunContext) (s : RunState) : Decidable (ctx.GivesUp s) :=
  inferInstanceAs (Decidable (∃ x ∈ ctx.selected? (ctx.refill s), _ ∧ _ ∧ _))

/-- The run meets no limit: no step gives anything up, and on the last level none asks for
text to be lexed again. -/
structure InnerRun.Unhindered (library : Library) (config : LexConfig) (r : InnerRun) : Prop where
  keeps : ∀ s ∈ r.states library config, ¬ (r.context library config).GivesUp s
  nests : config.maxDepth ≤ r.depth →
    ∀ s ∈ r.states library config, (r.context library config).delegations s = []

/-- Neither the run nor a run inside of it meets a limit. -/
def InnerRun.Unlimited (library : Library) (config : LexConfig) (top : InnerRun) : Prop :=
  ∀ level, ∀ r ∈ top.below library config level, r.Unhindered library config

/-! ## Steps -/

namespace RunContext

variable {ctx : RunContext} {s : RunState} {depth patience : Nat}

theorem afterEmpty_raised {before : List StateId} (hle : ctx.config.maxEmptySteps ≤ patience)
    (h : s.stack ≠ before → (lengthen before s).steps ≤ ctx.config.maxEmptySteps) :
    { ctx with config := ⟨ctx.config.fallback, depth, patience⟩ }.afterEmpty before s
      = ctx.afterEmpty before s := by
  unfold afterEmpty
  split
  · rfl
  · next hne =>
    have hk := h hne
    have hk' := Nat.le_trans hk hle
    rw [if_neg (Nat.not_lt_of_le hk), if_neg (Nat.not_lt_of_le hk')]

/-- A step that gives nothing up is the same one with more patience. -/
theorem step_raised (ctx : RunContext) (hle : ctx.config.maxEmptySteps ≤ patience)
    (h : ¬ ctx.GivesUp s) :
    { ctx with config := ⟨ctx.config.fallback, depth, patience⟩ }.step s = ctx.step s := by
  unfold GivesUp selected? at h
  have hrefill : { ctx with config := ⟨ctx.config.fallback, depth, patience⟩ }.refill s
      = ctx.refill s := rfl
  unfold step
  rw [hrefill]
  generalize ctx.refill s = s at h
  dsimp only at h ⊢
  cases hstack : s.stack with
  | nil => rfl
  | cons top below =>
    rw [hstack] at h
    dsimp only at h ⊢
    cases hfirst : firstMatch? s.place (ctx.table.rules top) with
    | none => rfl
    | some x =>
      obtain ⟨rule, m⟩ := x
      dsimp only
      unfold applyRule
      split
      · next he =>
        have hempty : { ctx with config := ⟨ctx.config.fallback, depth, patience⟩ }.afterEmpty
            s.stack { s with stack := applyOps rule.ops s.stack }
              = ctx.afterEmpty s.stack { s with stack := applyOps rule.ops s.stack } := by
          refine afterEmpty_raised hle fun hne => Nat.le_of_not_lt fun hlt => h ?_
          rw [hstack] at hne hlt
          exact ⟨(rule, m), hfirst, he, hne, hlt⟩
        dsimp only
        rw [hempty]
        rfl
      · rfl

end RunContext

/-! ## Runs on all levels -/

namespace InnerRun

variable {library : Library} {config : LexConfig} {r inner : InnerRun} {level depth patience : Nat}

/-- The runs below a run that another one starts are below that one. -/
theorem below_of_started (h : inner ∈ r.started library config) {r' : InnerRun}
    (hr : r' ∈ inner.below library config level) : r' ∈ r.below library config (level + 1) := by
  induction level generalizing r' with
  | zero =>
    rw [List.mem_singleton.mp hr]
    exact List.mem_flatMap.mpr ⟨r, List.mem_singleton_self r, h⟩
  | succ level ih =>
    obtain ⟨r₁, h₁, hstart⟩ := List.mem_flatMap.mp hr
    exact List.mem_flatMap.mpr ⟨r₁, ih h₁, hstart⟩

theorem Unlimited.started (h : r.Unlimited library config)
    (hinner : inner ∈ r.started library config) : inner.Unlimited library config :=
  fun level _ hr => h (level + 1) _ (below_of_started hinner hr)

theorem Unlimited.unhindered (h : r.Unlimited library config) : r.Unhindered library config :=
  h 0 r (List.mem_singleton_self r)

/-- A run that meets no limit takes the same steps with higher limits: the runs that it starts are
nested deeper and meet none either. -/
theorem Unlimited.step (h : r.Unlimited library config) (hdepth : config.maxDepth ≤ depth)
    (hle : config.maxEmptySteps ≤ patience) : ∀ s ∈ r.states library config,
    (r.context library ⟨config.fallback, depth, patience⟩).step s
      = (r.context library config).step s := by
  induction hn : config.maxDepth - r.depth using Nat.strong_induction_on generalizing r with
  | _ n ih =>
  intro s hs
  let config' : LexConfig := ⟨config.fallback, depth, patience⟩
  have hrelex : ∀ d t, (d, t) ∈ (r.context library config).delegations s →
      relex library config' r.depth r.table d t = (r.context library config).relex d t := by
    intro d t hd
    have hlt : ¬ config.maxDepth ≤ r.depth := fun hle => by
      rw [h.unhindered.nests hle s hs] at hd
      cases hd
    have hlt' : ¬ config'.maxDepth ≤ r.depth := fun hle =>
      hlt (Nat.le_trans hdepth hle)
    have heq : (r.context library config).relex d t
        = relex library config r.depth r.table d t := rfl
    rw [heq, relex_eq, relex_eq, if_neg hlt, if_neg hlt']
    have hstarted : r.delegate library (d, t) ∈ r.started library config := by
      rw [InnerRun.started, if_neg hlt]
      exact List.mem_map_of_mem (List.mem_flatMap.mpr ⟨s, hs, hd⟩)
    have hsteps := ih (config.maxDepth - (r.depth + 1)) (by omega) (h.started hstarted) rfl
    exact (lockstep_of_steps potential_le_enough hsteps).exhaust_eq
      potential_le_enough potential_le_enough
  have hraised : (r.context library config').step s
      = { r.context library config with relex := relex library config' r.depth r.table }.step s :=
    step_raised { r.context library config with relex := relex library config' r.depth r.table }
      hle (h.unhindered.keeps s hs)
  rw [hraised]
  exact step_congr hrelex

/-- It is in lockstep with the run with higher limits. -/
theorem Unlimited.lockstep {config' : LexConfig} (h : r.Unlimited library config)
    (hfallback : config'.fallback = config.fallback) (hdepth : config.maxDepth ≤ config'.maxDepth)
    (hpatience : config.maxEmptySteps ≤ config'.maxEmptySteps) :
    (r.context library config).Lockstep (r.context library config')
      ((r.context library config).begin r.text) ((r.context library config').begin r.text) := by
  have hsteps := h.step hdepth hpatience
  rw [← hfallback] at hsteps
  exact lockstep_of_steps potential_le_enough hsteps

end InnerRun

/-! ## Runs -/

namespace Run

variable {library : Library} {table : Table} {states : List String} {text : Text}
  {config config' : LexConfig} {r : Run}

/-- A run over a text in any states of any table: if neither it nor a run inside of it, on
whatever level, meets one of its limits, nothing tells it from the run with limits that
are as high or higher. -/
theorem run_unlimited
    (h : (Run.start library table states text).map (·.withConfig config) = .ok r)
    (hfree : (r.outermost text).Unlimited library config)
    (hfallback : config'.fallback = config.fallback) (hdepth : config.maxDepth ≤ config'.maxDepth)
    (hpatience : config.maxEmptySteps ≤ config'.maxEmptySteps) :
    r.LooksLike (r.withConfig config') := by
  obtain ⟨ids, -, rfl⟩ := start_eq_ok_iff.mp h
  exact Lockstep.looksLike ⟨rfl, hfree.lockstep hfallback hdepth hpatience⟩ rfl

/-- Letters, and brackets between which a run of its own lexes them. It comes to its root
state by a step without text. -/
def enclosing : Grammar :=
  ((Grammar.new "enclosing").state rootState
    [.rule ⟨some (.regex "(<)([a-z]*)(>)".toList), .groups [.kind .operator,
        .delegate ((DelegateSpec.root .this).inState "enclosed"), .kind .operator], []⟩,
    .rule ⟨some (.regex "[a-z]".toList), .kind .name, []⟩]).state "enclosed"
    [.rule ⟨none, .nothing, [.goto rootState]⟩]

theorem run_unlimited_enclosing :
    ∃ table r, enclosing.build [] = .ok table ∧
      (Run.start [] table [] "a<b>".toList).map (·.withConfig ⟨.text, 1, 1⟩) = .ok r ∧
      r.LooksLike (r.withConfig ⟨.text, 7, 9⟩) := by
  obtain ⟨table, htable, r, hr, hlevels⟩ : ∃ table, enclosing.build [] = .ok table ∧
      ∃ r, (Run.start [] table [] "a<b>".toList).map (·.withConfig ⟨.text, 1, 1⟩) = .ok r ∧
      ∀ level ∈ [0, 1], ∀ inner ∈ (r.outermost "a<b>".toList).below [] ⟨.text, 1, 1⟩ level,
        (∀ s ∈ inner.states [] ⟨.text, 1, 1⟩, ¬ (inner.context [] ⟨.text, 1, 1⟩).GivesUp s) ∧
        (1 ≤ inner.depth → ∀ s ∈ inner.states [] ⟨.text, 1, 1⟩,
          (inner.context [] ⟨.text, 1, 1⟩).delegations s = []) :=
    by decide +kernel
  have hfree : (r.outermost "a<b>".toList).Unlimited [] ⟨.text, 1, 1⟩ := by
    intro level inner hinner
    have hlevel : level ∈ [0, 1] := by
      obtain ⟨hdepth, hle⟩ := InnerRun.below_depth hinner (Nat.zero_le _)
      have hle' : level ≤ 1 := by
        rw [hdepth, outermost, Nat.zero_add] at hle
        exact hle
      interval_cases level <;> decide
    obtain ⟨hkeeps, hnests⟩ := hlevels level hlevel inner hinner
    exact ⟨hkeeps, hnests⟩
  exact ⟨table, r, htable, hr,
    run_unlimited hr hfree rfl (by decide : 1 ≤ 7) (by decide : 1 ≤ 9)⟩

end Run

end TableLexer
