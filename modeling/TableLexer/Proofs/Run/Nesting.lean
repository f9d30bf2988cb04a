import Mathlib
import TableLexer.Proofs.Run.Stream

/-!
# How many steps runs take

A step of a run may start runs over parts of the text it matches, and these may start
others. All of them come to an end: a run takes a bounded number of steps at each
place, the runs that one run starts are over disjoint parts of its text, and they
nest on a bounded number of levels. So do the rules what they want, the number of all
steps is at most linear in the length of the text.

Results:
1. `step_congr`: a step depends on nested runs only through the delegations listed.
2. `delegations_le`, `started_chars`: a step asks for runs over no more text than it
   consumes, so a run starts runs over no more text than its own.
3. `relex_below`: where a step asks for a run, there is one among those on the next
   level, unless the last level is reached.
4. `pulledStates_eq_visited`: the steps made for the tokens asked for are those of the
   run.
5. `steps_bounded`: the bounds on the steps of all runs.
-/

namespace TableLexer

open Cursor

/-! ## Delegations of a step -/

/-- The run that a portion asks for. -/
def Portion.relexed? (p : Portion) : Option (Delegate × Text) :=
  match p.label with
  | .kind _ => none
  | .relexed d => some (d, p.text)

namespace RunContext

variable {ctx : RunContext} {s : RunState} {rule : Rule} {m : Regex.Match}

/-- The rule that a step applies, with its match. -/
def selected? (ctx : RunContext) (s : RunState) : Option (Rule × Regex.Match) :=
  match s.stack with
  | [] => none
  | top :: _ => firstMatch? s.place (ctx.table.rules top)

theorem selects_iff : ctx.Selects s rule m ↔ ctx.selected? s = some (rule, m) := by
  unfold Selects selected?
  cases hs : s.stack with
  | nil => simp
  | cons top below => simp

/-- The runs that a step asks for whose stack has been refilled, in order: how each one
is started and its text. -/
def requested (ctx : RunContext) (s : RunState) : List (Delegate × Text) :=
  match ctx.selected? s with
  | none => []
  | some (rule, m) => (ctx.portions rule.action m s.place).filterMap Portion.relexed?

/-- The runs that a step asks for. -/
def delegations (ctx : RunContext) (s : RunState) : List (Delegate × Text) :=
  ctx.requested (ctx.refill s)

theorem tokensOf_congr {relex : Delegate → Text → List Token} {action : Action} {c : Cursor}
    (h : ∀ d t, (d, t) ∈ (ctx.portions action m c).filterMap Portion.relexed? →
      relex d t = ctx.relex d t) :
    { ctx with relex }.tokensOf action m c = ctx.tokensOf action m c := by
  have hsame : ∀ p ∈ ctx.portions action m c, { ctx with relex }.render p = ctx.render p := by
    intro p hp
    obtain ⟨pos, label, t⟩ := p
    cases label with
    | kind kind => rfl
    | relexed d =>
      have hd : relex d t = ctx.relex d t := h d t (List.mem_filterMap.mpr ⟨_, hp, rfl⟩)
      exact congrArg (List.map (Token.shift pos)) hd
  rw [tokensOf, tokensOf, List.flatMap_def, List.flatMap_def]
  exact congrArg List.flatten (List.map_congr_left hsame)

/-- Steps depend on how text is lexed again only where they ask for it. -/
theorem step_congr {relex : Delegate → Text → List Token}
    (h : ∀ d t, (d, t) ∈ ctx.delegations s → relex d t = ctx.relex d t) :
    { ctx with relex }.step s = ctx.step s := by
  have hrefill : { ctx with relex }.refill s = ctx.refill s := rfl
  unfold delegations requested selected? at h
  unfold step
  rw [hrefill]
  generalize ctx.refill s = s at h
  dsimp only at h ⊢
  cases hstack : s.stack with
  | nil => rfl
  | cons top below =>
    rw [hstack] at h
    dsimp only at h ⊢
    cases hfirst : firstMatch? s.place (ctx.table.rules top) with
    | none => rfl
    | some selected =>
      rw [hfirst] at h
      simp only [applyRule, tokensOf_congr h]
      rfl

/-! ## Lengths -/

/-- The number of characters of which runs are asked for. -/
def charsOf (requests : List (Delegate × Text)) : Nat :=
  (requests.map fun request => request.2.length).sum

theorem charsOf_portions_le {start : Nat} {t : Text} {l : List Portion}
    (h : Portion.Tile start t l) : charsOf (l.filterMap Portion.relexed?) ≤ t.length := by
  induction l generalizing start t with
  | nil => exact Nat.zero_le _
  | cons p l ih =>
    obtain ⟨-, -, u, rfl, hrest⟩ := h
    have hle := ih hrest
    rw [List.length_append]
    cases hp : p.relexed? with
    | none =>
      rw [List.filterMap_cons_none hp]
      omega
    | some request =>
      have htext : request.2 = p.text := by
        unfold Portion.relexed? at hp
        split at hp
        · cases hp
        · cases hp
          rfl
      rw [List.filterMap_cons_some hp, charsOf, List.map_cons, List.sum_cons, htext]
      exact Nat.add_le_add_left hle _

theorem requested_eq_nil (h : ∀ rule m, ¬ ctx.Selects s rule m) : ctx.requested s = [] := by
  unfold requested
  cases hsel : ctx.selected? s with
  | none => rfl
  | some selected => exact absurd (selects_iff.mpr hsel) (h _ _)

theorem requested_of_selects (h : ctx.Selects s rule m) :
    ctx.requested s = (ctx.portions rule.action m s.place).filterMap Portion.relexed? := by
  rw [requested, selects_iff.mp h]

theorem requested_of_empty (h : ctx.Selects s rule m) (he : m.whole.isEmpty = true) :
    ctx.requested s = [] := by
  obtain ⟨d, hm⟩ := h.inside
  rw [requested_of_selects h, portions_eq_nil hm he]
  rfl

theorem takeChar_rest (kind : Kind) (s : RunState) :
    (takeChar kind s).2.place.rest.length ≤ s.place.rest.length := by
  unfold takeChar
  split
  · exact Nat.le_refl _
  · next c rest hrest =>
    have hnext : s.place.rest = [c] ++ s.place.next.rest := (passes_next hrest).rest
    rw [hnext, List.length_append]
    exact Nat.le_add_left _ _

/-- Only a match that is consumed asks for runs, and they lie within it. -/
theorem Outcome.requested_le {out : List Token × RunState} (h : ctx.Outcome s out) :
    charsOf (ctx.requested s) + out.2.place.rest.length ≤ s.place.rest.length := by
  have hnone : ctx.requested s = [] → out.2.place.rest.length ≤ s.place.rest.length →
      charsOf (ctx.requested s) + out.2.place.rest.length ≤ s.place.rest.length := by
    intro hnil hle
    rw [hnil, charsOf, List.map_nil, List.sum_nil, Nat.zero_add]
    exact hle
  cases h with
  | lost h => exact hnone (requested_eq_nil h) (takeChar_rest _ _)
  | reset h => exact hnone (requested_eq_nil h) (takeChar_rest _ _)
  | consumed h hm hlt =>
    obtain ⟨t, ht⟩ := hm.passes
    rw [requested_of_selects h, ht.rest, List.length_append]
    exact Nat.add_le_add_right (charsOf_portions_le (portions_tile hm ht)) _
  | idle h he => exact hnone (requested_of_empty h he) (takeChar_rest _ _)
  | counted h he => exact hnone (requested_of_empty h he) (Nat.le_refl _)
  | abandoned h he => exact hnone (requested_of_empty h he) (takeChar_rest _ _)

/-- A step asks for runs over no more characters than it consumes. -/
theorem delegations_le (ctx : RunContext) (s : RunState) :
    charsOf (ctx.delegations s) + (ctx.step s).2.place.rest.length ≤ s.place.rest.length := by
  have hstep := (step_outcome ctx s).requested_le
  rwa [refill_place] at hstep

theorem visited_delegations_le {fuel : Nat} :
    charsOf ((ctx.visited fuel s).flatMap ctx.delegations) ≤ s.place.rest.length := by
  induction fuel generalizing s with
  | zero => exact Nat.zero_le _
  | succ fuel ih =>
    by_cases hr : s.place.rest = []
    · rw [visited_nil hr]
      exact Nat.zero_le _
    · have hrest : charsOf ((ctx.visited fuel (ctx.step s).2).flatMap ctx.delegations)
          ≤ (ctx.step s).2.place.rest.length := ih
      have hstep := delegations_le ctx s
      rw [visited_cons hr, List.flatMap_cons, charsOf, List.map_append, List.sum_append]
      exact Nat.le_trans (Nat.add_le_add_left hrest _) hstep

end RunContext

/-! ## Runs inside runs -/

section

variable (library : Library) (config : LexConfig)

/-- What a run works with that is nested on `depth` levels. -/
def contextAt (depth : Nat) (table : Table) (initial : List StateId) : RunContext :=
  ⟨table, config, initial, relex library config depth table⟩

/-- A run over a text on a level of nesting. -/
structure InnerRun where
  depth : Nat
  table : Table
  initial : List StateId
  text : Text

namespace InnerRun

def context (r : InnerRun) : RunContext := contextAt library config r.depth r.table r.initial

/-- The states in which the run takes its steps. -/
def states (r : InnerRun) : List RunState :=
  (r.context library config).visited ((r.context library config).enough r.text.length)
    ((r.context library config).begin r.text)

/-- The run that a delegate starts. -/
def delegate (r : InnerRun) (request : Delegate × Text) : InnerRun :=
  ⟨r.depth + 1, library.target r.table request.1.target, request.1.stack.reverse, request.2⟩

/-- The runs that the run starts, step by step. On the last level there are none. -/
def started (r : InnerRun) : List InnerRun :=
  if config.maxDepth ≤ r.depth then []
  else
    ((r.states library config).flatMap (r.context library config).delegations).map
      (r.delegate library)

/-- The runs on a level below a run. -/
def below (r : InnerRun) : (level : Nat) → List InnerRun
  | 0 => [r]
  | level + 1 => (below r level).flatMap (started library config)

end InnerRun

end

variable {library : Library} {config : LexConfig}

/-- Text that is lexed again becomes one token on the last level and the tokens of the
run that is started on the other ones. -/
theorem relex_eq (library : Library) (config : LexConfig) (r : InnerRun) (d : Delegate) (t : Text) :
    relex library config r.depth r.table d t =
      if config.maxDepth ≤ r.depth then [⟨0, config.fallback, t⟩]
      else ((r.delegate library (d, t)).context library config).tokensOfText t := by
  rw [relex]
  rfl

namespace InnerRun

open RunContext

variable {r : InnerRun} {level : Nat}

theorem started_depth {r' : InnerRun} (h : r' ∈ r.started library config) :
    r'.depth = r.depth + 1 ∧ r'.depth ≤ config.maxDepth := by
  unfold started at h
  split at h
  · cases h
  · next hlt =>
    obtain ⟨request, -, rfl⟩ := List.mem_map.mp h
    exact ⟨rfl, Nat.lt_of_not_le hlt⟩

/-- No run is nested on more levels than the limit. -/
theorem below_depth {r' : InnerRun} (h : r' ∈ r.below library config level)
    (hr : r.depth ≤ config.maxDepth) :
    r'.depth = r.depth + level ∧ r'.depth ≤ config.maxDepth := by
  induction level generalizing r' with
  | zero =>
    rw [List.mem_singleton.mp h]
    exact ⟨rfl, hr⟩
  | succ level ih =>
    obtain ⟨r₁, h₁, hstart⟩ := List.mem_flatMap.mp h
    have hdepth := started_depth hstart
    have hih := ih h₁
    omega

/-- The characters of the texts of runs. -/
def chars (runs : List InnerRun) : Nat := (runs.map (·.text.length)).sum

/-- A run starts runs over no more characters than its text has. -/
theorem started_chars : chars (r.started library config) ≤ r.text.length := by
  unfold started
  split
  · exact Nat.zero_le _
  · rw [chars, List.map_map]
    exact visited_delegations_le

theorem flatMap_started_chars (runs : List InnerRun) :
    chars (runs.flatMap (started library config)) ≤ chars runs := by
  induction runs with
  | nil => exact Nat.le_refl _
  | cons r runs ih =>
    rw [List.flatMap_cons, chars, List.map_append, List.sum_append]
    exact Nat.add_le_add started_chars ih

/-- The runs on one level are over no more characters than the text has. -/
theorem below_chars : chars (r.below library config level) ≤ r.text.length := by
  induction level with
  | zero => simp [below, chars]
  | succ level ih => exact Nat.le_trans (flatMap_started_chars _) ih

/-- The number of steps of a run. -/
def steps (library : Library) (config : LexConfig) (r : InnerRun) : Nat :=
  (r.states library config).length

theorem steps_le : r.steps library config ≤ (config.maxEmptySteps + 1) * r.text.length :=
  Nat.le_trans visited_length potential_le

theorem sum_steps_le (runs : List InnerRun) :
    (runs.map (steps library config)).sum ≤ (config.maxEmptySteps + 1) * chars runs := by
  induction runs with
  | nil => exact Nat.zero_le _
  | cons r runs ih =>
    have hr : r.steps library config ≤ (config.maxEmptySteps + 1) * r.text.length := steps_le
    rw [chars, List.map_cons, List.map_cons, List.sum_cons, List.sum_cons, Nat.mul_add]
    exact Nat.add_le_add hr ih

/-- The steps of a run and of the runs on so many levels below it. -/
def totalSteps (library : Library) (config : LexConfig) (r : InnerRun) (levels : Nat) : Nat :=
  ((List.range (levels + 1)).map fun level =>
    ((r.below library config level).map (steps library config)).sum).sum

/-- The steps of a run and of those below it, level by level: on each of them the runs share the
characters of the text. -/
theorem totalSteps_le (levels : Nat) :
    r.totalSteps library config levels
      ≤ (levels + 1) * ((config.maxEmptySteps + 1) * r.text.length) := by
  have hlevel : ∀ level, ((r.below library config level).map (steps library config)).sum
      ≤ (config.maxEmptySteps + 1) * r.text.length := fun level =>
    Nat.le_trans (sum_steps_le _) (Nat.mul_le_mul_left _ below_chars)
  unfold totalSteps
  induction levels with
  | zero => simpa using hlevel 0
  | succ levels ih =>
    rw [List.range_succ, List.map_append, List.sum_append, Nat.succ_mul]
    refine Nat.add_le_add ih ?_
    simpa using hlevel (levels + 1)

/-- A run ends with its last step. -/
theorem ends (library : Library) (config : LexConfig) (r : InnerRun) :
    ((r.context library config).after (r.steps library config)
      ((r.context library config).begin r.text)).place.rest = [] := by
  rw [steps, states, after_length_visited]
  exact after_potential potential_le_enough

/-- What becomes of the text for which a step of a run on a level asks: one token on the
last level, and on the other ones the tokens of a run on the next. -/
theorem relex_below {top : InnerRun} (h : r ∈ top.below library config level)
    {s : RunState} (hs : s ∈ r.states library config) {request : Delegate × Text}
    (hr : request ∈ (r.context library config).delegations s) :
    (config.maxDepth ≤ r.depth ∧
      (r.context library config).relex request.1 request.2
        = [⟨0, config.fallback, request.2⟩]) ∨
    ∃ inner ∈ top.below library config (level + 1),
      (r.context library config).relex request.1 request.2
        = (inner.context library config).tokensOfText inner.text := by
  have heq := relex_eq library config r request.1 request.2
  by_cases hd : config.maxDepth ≤ r.depth
  · rw [if_pos hd] at heq
    exact .inl ⟨hd, heq⟩
  · rw [if_neg hd] at heq
    refine .inr ⟨r.delegate library request, List.mem_flatMap.mpr ⟨r, h, ?_⟩, heq⟩
    rw [started, if_neg hd]
    exact List.mem_map_of_mem (List.mem_flatMap.mpr ⟨s, hs, hr⟩)

/-- The bounds on a run on a level below the run `top`. -/
structure Bounded (library : Library) (config : LexConfig) (top : InnerRun) (level : Nat)
    (r : InnerRun) : Prop where
  depth : r.depth = level
  within : level ≤ config.maxDepth
  ends : ((r.context library config).after (r.steps library config)
    ((r.context library config).begin r.text)).place.rest = []
  steps : r.steps library config ≤ (config.maxEmptySteps + 1) * r.text.length
  stepsAt : ∀ pos, (r.states library config).countP (·.place.pos = pos)
    ≤ config.maxEmptySteps + 1
  /-- Where a step asks for a run, there is one on the next level, unless this is the
  last. -/
  asks : ∀ s ∈ r.states library config,
    ∀ request ∈ (r.context library config).delegations s,
      (level = config.maxDepth ∧
        (r.context library config).relex request.1 request.2
          = [⟨0, config.fallback, request.2⟩]) ∨
      ∃ inner ∈ top.below library config (level + 1),
        (r.context library config).relex request.1 request.2
          = (inner.context library config).tokensOfText inner.text

theorem below_bounded {top : InnerRun} (htop : top.depth = 0)
    (h : r ∈ top.below library config level) : Bounded library config top level r := by
  obtain ⟨hdepth, hle⟩ := below_depth h (htop ▸ Nat.zero_le _)
  have hlevel : r.depth = level := by rw [hdepth, htop, Nat.zero_add]
  refine ⟨hlevel, hlevel ▸ hle, r.ends library config, steps_le,
    fun pos => stepsAt_le pos, fun s hs request hr => ?_⟩
  rcases relex_below h hs hr with ⟨hlast, heq⟩ | hinner
  · exact .inl ⟨Nat.le_antisymm (hlevel ▸ hle) (hlevel ▸ hlast), heq⟩
  · exact .inr hinner

end InnerRun

/-! ## Steps for the tokens asked for -/

namespace Run

variable {r : Run} {n : Nat}

/-- The states in which steps are taken while a run advances. -/
def taken : (fuel : Nat) → Run → List RunState
  | 0, _ => []
  | fuel + 1, r =>
      if !r.queue.isEmpty || r.state.place.rest.isEmpty then []
      else r.state :: taken fuel r.stepped

/-- The states in which steps are taken while so many tokens are asked for. -/
def pulledStates : Nat → Run → List RunState
  | 0, _ => []
  | n + 1, r => r.taken r.context.patience ++ pulledStates n r.next.2

theorem taken_eq_visited (fuel : Nat) (r : Run) :
    ∃ k, r.taken fuel = r.context.visited k r.state ∧
      (r.advance fuel).state = r.context.after k r.state := by
  induction fuel generalizing r with
  | zero => exact ⟨0, rfl, rfl⟩
  | succ fuel ih =>
    rcases r.settled_or with hs | ⟨hq, hr⟩
    · refine ⟨0, ?_, ?_⟩
      · rw [taken, if_pos]
        · rfl
        · rcases hs with hs | hs
          · simp [hs]
          · simp [hs]
      · rw [advance_of_settled hs]
        rfl
    · obtain ⟨k, hk, hafter⟩ := ih r.stepped
      have hctx : r.stepped.context = r.context := rfl
      have hstate : r.stepped.state = (r.context.step r.state).2 := rfl
      rw [hctx, hstate] at hk hafter
      refine ⟨k + 1, ?_, ?_⟩
      · rw [RunContext.visited_cons hr, ← hk, taken, if_neg]
        simp [hq, hr]
      · rw [RunContext.after_succ hr, ← hafter, advance_succ hq hr]

theorem next_context (r : Run) : r.next.2.context = r.context := by
  have hctx : (r.advance r.context.patience).context = r.context :=
    advance_keeps (P := fun ahead => ahead.context = r.context) (fun _ _ _ h => h) rfl
  unfold next
  generalize r.advance r.context.patience = ahead at hctx
  cases hq : ahead.queue with
  | nil =>
    simp only [hq]
    exact hctx
  | cons token queue =>
    simp only [hq]
    exact hctx

theorem next_state (r : Run) : r.next.2.state = (r.advance r.context.patience).state := by
  unfold next
  generalize r.advance r.context.patience = ahead
  cases hq : ahead.queue with
  | nil => simp only [hq]
  | cons token queue => simp only [hq]

/-- The steps for the tokens asked for are steps of the run, from its state on. -/
theorem pulledStates_eq_visited (n : Nat) (r : Run) :
    ∃ k, r.pulledStates n = r.context.visited k r.state := by
  induction n generalizing r with
  | zero => exact ⟨0, rfl⟩
  | succ n ih =>
    obtain ⟨k, hk, hafter⟩ := taken_eq_visited r.context.patience r
    obtain ⟨j, hj⟩ := ih r.next.2
    refine ⟨k + j, ?_⟩
    rw [RunContext.visited_add, pulledStates, hk, hj, next_context, next_state, hafter]

/-- A run of which tokens have been asked for is the same one after some steps. -/
theorem pull_after (n : Nat) (r : Run) : ∃ k,
    (r.pull n).2.state = r.context.after k r.state ∧ (r.pull n).2.context = r.context := by
  induction n generalizing r with
  | zero => exact ⟨0, rfl, rfl⟩
  | succ n ih =>
    obtain ⟨k, -, hafter⟩ := taken_eq_visited r.context.patience r
    have hstate : r.next.2.state = r.context.after k r.state := (next_state r).trans hafter
    have hctx : r.next.2.context = r.context := next_context r
    rw [pull]
    generalize r.next = out at hstate hctx
    obtain ⟨token, r'⟩ := out
    cases token with
    | none => exact ⟨k, hstate, hctx⟩
    | some token =>
      obtain ⟨j, hj, hctx'⟩ := ih r'
      refine ⟨k + j, ?_, hctx'.trans hctx⟩
      rw [RunContext.after_add, ← hstate, ← hctx]
      exact hj

/-- After all tokens have been asked for, none comes and the text is at its end. -/
theorem pull_ends (h : r.rest.length ≤ n) :
    (r.pull n).2.next.1 = none ∧ (r.pull n).2.state.place.rest = [] := by
  have hrest : (r.pull n).2.rest = [] := by
    rw [(pull_spec n r).2]
    exact List.drop_eq_nil_of_le h
  refine ⟨?_, ended_of_rest hrest⟩
  rw [(next_spec _).1, hrest]
  rfl

/-- The run as one on the outermost level. -/
def outermost (r : Run) (text : Text) : InnerRun := ⟨0, r.table, r.initial, text⟩

variable {library : Library} {table : Table} {states : List String} {text : Text}
  {config : LexConfig}

theorem start_context (h : (Run.start library table states text).map (·.withConfig config) = .ok r) :
    r.context = (r.outermost text).context library config ∧
      r.state = r.context.begin text := by
  obtain ⟨ids, -, rfl⟩ := start_eq_ok_iff.mp h
  exact ⟨rfl, rfl⟩

/-- The steps for the tokens asked for are the first ones of the run. -/
theorem pulledStates_prefix
    (h : (Run.start library table states text).map (·.withConfig config) = .ok r) (n : Nat) :
    r.pulledStates n <+: (r.outermost text).states library config := by
  obtain ⟨hctx, hstate⟩ := start_context h
  obtain ⟨k, hk⟩ := pulledStates_eq_visited n r
  rw [hk, hstate, hctx]
  exact RunContext.visited_prefix k RunContext.potential_le_enough

/-- A run over a text in any states of any table, whatever the limits are: its tokens
come to an end, its steps are among those of the run on the outermost level, and the
runs on all levels are bounded. All of them together take at most `maxEmptySteps + 1`
steps for each character of the text and each level. -/
theorem steps_bounded
    (h : (Run.start library table states text).map (·.withConfig config) = .ok r) :
    (∀ n, text.length ≤ n →
      (r.pull n).2.next.1 = none ∧ (r.pull n).2.state.place.rest = []) ∧
    (∀ n, r.pulledStates n <+: (r.outermost text).states library config) ∧
    (∀ level, ∀ inner ∈ (r.outermost text).below library config level,
      InnerRun.Bounded library config (r.outermost text) level inner) ∧
    (r.outermost text).totalSteps library config config.maxDepth
      ≤ (config.maxDepth + 1) * ((config.maxEmptySteps + 1) * text.length) := by
  refine ⟨fun n hn => ?_, pulledStates_prefix h, fun level inner hmem => ?_, ?_⟩
  · have hwhole : Token.Tile 0 text r.rest := (reads_start h).whole
    exact pull_ends (Nat.le_trans hwhole.length_le hn)
  · exact InnerRun.below_bounded rfl hmem
  · exact InnerRun.totalSteps_le config.maxDepth

theorem steps_bounded_pushing :
    ∃ table r, pushing.build [] = .ok table ∧
      (Run.start [] table [] "aéb".toList).map (·.withConfig ⟨.text, 1, 2⟩) = .ok r ∧
      (r.outermost "aéb".toList).totalSteps [] ⟨.text, 1, 2⟩ 1 ≤ 18 := by
  obtain ⟨table, ht, r, hr⟩ : ∃ table, pushing.build [] = .ok table ∧
      ∃ r, (Run.start [] table [] "aéb".toList).map (·.withConfig ⟨.text, 1, 2⟩) = .ok r :=
    by decide +kernel
  obtain ⟨-, -, -, htotal⟩ := steps_bounded hr
  exact ⟨table, r, ht, hr, htotal⟩

end Run

end TableLexer
