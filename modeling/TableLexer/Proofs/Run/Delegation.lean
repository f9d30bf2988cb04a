import TableLexer.Proofs.Run.Confined

/-!
# Runs inside a run stand by themselves

A run over matched text is the run over that text alone: it does not see the text
around, the stack, the place or the streak of the run that asks for it, and that run
sees nothing of it but its tokens. All that a level of nesting costs is one of the
levels that are left.

Results:
1. `relex_within`: how text is lexed again depends only on the levels that are left.
2. `InnerRun.Rooted.standsAs`, `InnerRun.StandsAs.mirrors`: a run on any level can be
   started by itself, and then it does the same.
3. `portions_delegate`: the portions of a match that is lexed again as a whole.
4. `run_compositional`: what the runs that a rule asks for contribute to its tokens.
-/

namespace TableLexer

open Cursor RunContext

/-! ## Limits -/

namespace LexConfig

/-- What the limits leave to a run on `depth` levels, as limits of a run on none. -/
def within (config : LexConfig) (depth : Nat) : LexConfig :=
  { config with maxDepth := config.maxDepth - depth }

theorem maxDepth_within (config : LexConfig) (depth : Nat) :
    (config.within depth).maxDepth = config.maxDepth - depth := rfl

end LexConfig

namespace RunContext

variable (ctx : RunContext) (depth : Nat)

/-- A step meets the limit on levels only where text is lexed again. -/
theorem step_within (s : RunState) :
    { ctx with config := ctx.config.within depth }.step s = ctx.step s := rfl

end RunContext

/-- How text is lexed again depends only on the levels that are left. -/
theorem relex_within (library : Library) (config : LexConfig) (k depth : Nat) (current : Table)
    (d : Delegate) (t : Text) :
    relex library (config.within k) depth current d t
      = relex library config (k + depth) current d t := by
  induction hn : config.maxDepth - (k + depth) generalizing depth current d t with
  | zero =>
    have hle : (config.within k).maxDepth ≤ depth := by
      rw [LexConfig.maxDepth_within]
      omega
    rw [relex, if_pos hle, relex, if_pos (by omega)]
    rfl
  | succ n ih =>
    have hlt : ¬ (config.within k).maxDepth ≤ depth := by
      rw [LexConfig.maxDepth_within]
      omega
    have hinner : relex library (config.within k) (depth + 1)
        = relex library config (k + depth + 1) := by
      funext table d' t'
      exact ih (depth + 1) table d' t' (by omega)
    rw [relex, if_neg hlt, relex, if_neg (by omega), hinner]
    exact exhaust_congr (step_within ⟨_, config, _, _⟩ k) _ _

theorem contextAt_within (library : Library) (config : LexConfig) (depth : Nat) (table : Table)
    (initial : List StateId) :
    contextAt library (config.within depth) 0 table initial
      = { contextAt library config depth table initial with config := config.within depth } := by
  have hrelex : relex library (config.within depth) 0 table
      = relex library config depth table := by
    funext d t
    exact relex_within library config depth 0 table d t
  rw [contextAt, hrelex]
  rfl

/-! ## Runs started by themselves -/

section

variable (library : Library) (limits : LexConfig) (r : InnerRun)

/-- The run `alone` is started from outside, with the table, the text and the states of
the run `r` and with what the limits leave to it. -/
def InnerRun.StandsAs (alone : Run) : Prop :=
  ∃ names, (Run.start library r.table names r.text).map
      (·.withConfig (limits.within r.depth)) = .ok alone ∧
    alone.initial = r.initial

/-- The run `alone` does what the run `r` does on its level, step by step. -/
structure InnerRun.Mirrors (alone : Run) : Prop where
  start : alone.state = (r.context library limits).begin r.text
  step : ∀ s, alone.context.step s = (r.context library limits).step s
  after : ∀ n, alone.context.after n alone.state
    = (r.context library limits).after n ((r.context library limits).begin r.text)
  tokens : alone.rest = (r.context library limits).tokensOfText r.text

end

section

variable {library : Library} {limits : LexConfig} {r : InnerRun}

theorem InnerRun.StandsAs.mirrors {alone : Run} (h : r.StandsAs library limits alone) :
    r.Mirrors library limits alone := by
  obtain ⟨names, hrun, hinitial⟩ := h
  obtain ⟨ids, -, heq⟩ := Run.start_eq_ok_iff.mp hrun
  have hids : ids.reverse = r.initial := by
    rw [← hinitial, heq]
  rw [hids] at heq
  have hctx : alone.context
      = { r.context library limits with config := limits.within r.depth } := by
    rw [heq]
    exact contextAt_within library limits r.depth r.table r.initial
  have hstart : alone.state = (r.context library limits).begin r.text := by
    rw [heq]
    rfl
  have hstep : ∀ s, alone.context.step s = (r.context library limits).step s := by
    rw [hctx]
    exact step_within (r.context library limits) r.depth
  refine ⟨hstart, hstep, fun n => ?_, ?_⟩
  · rw [hstart]
    exact after_congr (fun s => congrArg Prod.snd (hstep s)) n _
  · rw [Run.rest, exhaust_congr hstep, hstart, heq]
    rfl

/-- A run on any level can be started by itself, with whatever the limits leave to it. -/
theorem InnerRun.Rooted.standsAs (h : r.Rooted library) (limits : LexConfig) :
    ∃ alone, r.StandsAs library limits alone := by
  obtain ⟨names, hne, hnames⟩ := h.initial
  refine ⟨_, names, Run.start_eq_ok_iff.mpr ⟨r.initial.reverse, ?_, rfl⟩,
    List.reverse_reverse _⟩
  rwa [if_neg (by simpa using hne)]

end

/-! ## What a match has lexed again -/

namespace RunContext

variable {ctx : RunContext} {s : RunState} {rule : Rule} {m : Regex.Match} {c d : Cursor}
  {t : Text}

/-- The whole match is the only portion where it is lexed again as a whole. -/
theorem portions_delegate (request : Delegate) (hm : m.Inside c d) (ht : c.Passes t d)
    (hne : t ≠ []) : ctx.portions (.delegate request) m c = [⟨c.pos, .relexed request, t⟩] := by
  have hlt : c.pos < d.pos := ht.lt hne
  have hstart : (Emission.start c).fillTo ctx.config.fallback c.pos = Emission.start c :=
    if_neg (Nat.lt_irrefl _)
  have hemit : ctx.emitAction (.delegate request) m c = ⟨d, [⟨c.pos, .relexed request, t⟩]⟩ := by
    simp only [emitAction, Emission.emit, hm.start, hm.stop]
    rw [if_neg (by rw [Emission.start, Nat.max_self]; omega), hstart]
    simp only [Emission.start, ht.takeTo]
  rw [portions, hemit, hm.stop, Emission.fillTo, if_neg (Nat.lt_irrefl _)]
  rfl

/-- What a portion asks for, the step asks for. -/
theorem Selects.mem_delegations (h : ctx.Selects s rule m) {p : Portion}
    (hp : p ∈ ctx.portions rule.action m s.place) {request : Delegate}
    (hl : p.label = .relexed request) : (request, p.text) ∈ ctx.delegations s := by
  rw [delegations, h.refill, requested_of_selects h]
  refine List.mem_filterMap.mpr ⟨p, hp, ?_⟩
  rw [Portion.relexed?, hl]

end RunContext

/-! ## Where runs are -/

/-- The run in the state is at a place of its text. -/
theorem Reached.passes {library : Library} {top r : InnerRun} {limits : LexConfig} {s : RunState}
    (h : Reached library top limits r s) : ∃ t, (ofText r.text).Passes t s.place := by
  induction h with
  | start => exact ⟨[], .refl _⟩
  | configure _ _ ih => exact ih
  | @step limits r s _ hr ih =>
    obtain ⟨t, ht⟩ := ih
    rcases (r.context library limits).step_moves_or_counts hr with ⟨u, hm⟩ | hc
    · exact ⟨t ++ u, ht.trans hm.passes⟩
    · exact ⟨t, hc.place ▸ ht⟩
  | nest => exact ⟨[], .refl _⟩

/-- No run is on more levels than the limit. -/
theorem Reached.depth_le {library : Library} {top r : InnerRun} {limits : LexConfig}
    {s : RunState} (htop : top.depth = 0) (h : Reached library top limits r s) :
    r.depth ≤ limits.maxDepth := by
  induction h with
  | start => exact htop ▸ Nat.zero_le _
  | configure => exact htop ▸ Nat.zero_le _
  | step _ _ ih => exact ih
  | nest _ hd => exact hd

/-! ## What runs contribute -/

section

variable (library : Library) (limits : LexConfig) (r : InnerRun)

/-- The tokens are those that a delegate contributes to the run `r` where the text `t` at
the offset `start` is lexed again: one of the fallback kind on the last level, and on the
other ones the tokens of a run over `t` alone, moved to the offset. -/
structure InnerRun.Contributes (d : Delegate) (start : Nat) (t : Text) (tokens : List Token) :
    Prop where
  last : limits.maxDepth ≤ r.depth → tokens = [⟨start, limits.fallback, t⟩]
  alone : r.depth < limits.maxDepth → ∃ alone,
    (r.delegate library (d, t)).StandsAs library limits alone ∧
    (r.delegate library (d, t)).Mirrors library limits alone ∧
    tokens = alone.rest.map (Token.shift start)

/-- What the run does in the state when it applies the rule to a match with text. -/
structure InnerRun.Composes (s : RunState) (rule : Rule) (m : Regex.Match) : Prop where
  /-- Whatever the tokens are, the rule changes the stack and the match ends the step. -/
  state : ∃ place, r.text.at? m.whole.stop = some place ∧
    ((r.context library limits).step s).2 = ⟨place, applyOps rule.ops s.stack, s.streak⟩
  whole : ∀ d, rule.action = .delegate d → ∃ t,
    r.text.slice? m.whole.start m.whole.stop = some t ∧
    r.Contributes library limits d m.whole.start t ((r.context library limits).step s).1
  /-- Of any action, and so of one for groups as well, the tokens are those of the
  portions. -/
  tokens : ((r.context library limits).step s).1
    = ((r.context library limits).portions rule.action m s.place).flatMap
        (r.context library limits).render
  portions : ∀ p ∈ (r.context library limits).portions rule.action m s.place,
    ∀ d, p.label = .relexed d →
      r.text.slice? p.start (p.start + p.text.size) = some p.text ∧
      r.Contributes library limits d p.start p.text ((r.context library limits).render p)

end

section

variable {library : Library} {limits : LexConfig} {r : InnerRun} {s : RunState} {rule : Rule}
  {m : Regex.Match}

theorem InnerRun.contributes_render {p : Portion} {d : Delegate} (hl : p.label = .relexed d)
    (hr : (r.delegate library (d, p.text)).Rooted library) :
    r.Contributes library limits d p.start p.text ((r.context library limits).render p) := by
  have hrender : (r.context library limits).render p
      = (relex library limits r.depth r.table d p.text).map (Token.shift p.start) := by
    rw [render, hl]
    rfl
  rw [hrender, relex_eq]
  refine ⟨fun hlast => ?_, fun hlt => ?_⟩
  · rw [if_pos hlast]
    rfl
  · obtain ⟨alone, halone⟩ := hr.standsAs limits
    have hmirrors := halone.mirrors
    refine ⟨alone, halone, hmirrors, ?_⟩
    rw [if_neg (Nat.not_le_of_lt hlt), hmirrors.tokens]
    rfl

theorem InnerRun.composes (hlib : ∀ t ∈ library, t.BuiltOn library) (hroot : r.Rooted library)
    (htext : ∃ t, (ofText r.text).Passes t s.place)
    (hsel : (r.context library limits).Selects s rule m) (he : m.whole.isEmpty = false) :
    r.Composes library limits s rule m := by
  obtain ⟨u, hu⟩ := htext
  obtain ⟨place, hm⟩ := hsel.inside
  obtain ⟨t, ht⟩ := hm.passes
  have hstep := hsel.step_match hm he
  have htile : Portion.Tile s.place.pos t
      ((r.context library limits).portions rule.action m s.place) := portions_tile hm ht
  have hcontributes : ∀ p ∈ (r.context library limits).portions rule.action m s.place,
      ∀ d, p.label = .relexed d →
        r.Contributes library limits d p.start p.text ((r.context library limits).render p) :=
    fun p hp d hl => contributes_render hl (hroot.delegate hlib (hsel.mem_delegations hp hl))
  refine ⟨⟨place, ?_, by rw [hstep]⟩, fun d hd => ⟨t, ?_, ?_⟩, by rw [hstep]; rfl,
    fun p hp d hl => ⟨?_, hcontributes p hp d hl⟩⟩
  · rw [hm.stop]
    exact Text.at?_of_passes (hu.trans ht)
  · rw [hm.start, hm.stop]
    exact Text.slice?_of_passes hu ht
  · have hne : t ≠ [] := by
      rintro rfl
      rw [Extent.isEmpty, hm.start, hm.stop, ht.eq_of_nil, beq_self_eq_true] at he
      cases he
    have hportions : (r.context library limits).portions rule.action m s.place
        = [⟨s.place.pos, .relexed d, t⟩] := hd ▸ portions_delegate d hm ht hne
    have hone := hcontributes _ (hportions ▸ List.mem_singleton_self _) d rfl
    rw [hstep, tokensOf, hportions, List.flatMap_singleton, hm.start]
    exact hone
  · obtain ⟨v, e, f, hv, hstart, hf⟩ := htile.passes_of_mem ht hp
    rw [← hstart, ← hf.pos]
    exact Text.slice?_of_passes (hu.trans hv) hf

end

namespace Run

variable {library : Library} {table : Table} {states : List String} {text : Text}
  {config : LexConfig} {r : Run}

/-- A run with a table that has been built, whatever limits are set before or in between:
it and each run inside of it do on their levels what they do when they are started by
themselves with the levels that are left. Where the rule that applies has the match or
groups of it lexed again, its tokens there are those of a run over that text alone, and
stack and place after the step are those of the rule and its match. -/
theorem run_compositional (hlib : ∀ t ∈ library, t.BuiltOn library) (ht : table.BuiltOn library)
    (h : (Run.start library table states text).map (·.withConfig config) = .ok r)
    {limits : LexConfig} {inner : InnerRun} {s : RunState}
    (hs : Reached library (r.outermost text) limits inner s) :
    inner.depth ≤ limits.maxDepth ∧
    (∃ alone, inner.StandsAs library limits alone ∧ inner.Mirrors library limits alone) ∧
    ∀ rule m, (inner.context library limits).Selects s rule m → m.whole.isEmpty = false →
      inner.Composes library limits s rule m := by
  obtain ⟨hroot, -⟩ := reached_on hlib (start_rooted ht h) hs
  obtain ⟨alone, halone⟩ := hroot.standsAs limits
  exact ⟨hs.depth_le rfl, ⟨alone, halone, halone.mirrors⟩,
    fun _ _ hsel he => inner.composes hlib hroot hs.passes hsel he⟩

theorem run_compositional_bracketed :
    ∃ inner table r alone, dashed.build [] = .ok inner ∧ bracketed.build [inner] = .ok table ∧
      (Run.start [inner] table [] "x<a-b>".toList).map (·.withConfig ⟨.text, 2, 3⟩) = .ok r ∧
      ((r.outermost "x<a-b>".toList).delegate [inner]
        (⟨.table 0, [⟨0⟩, ⟨1⟩]⟩, "<a-b>".toList)).StandsAs [inner] ⟨.text, 2, 3⟩ alone ∧
      (r.context.step (r.context.step r.state).2).1 = alone.rest.map (Token.shift 1) := by
  obtain ⟨inner, hinner, table, htable, r, hr, hselected⟩ : ∃ inner,
      dashed.build [] = .ok inner ∧ ∃ table, bracketed.build [inner] = .ok table ∧ ∃ r,
      (Run.start [inner] table [] "x<a-b>".toList).map (·.withConfig ⟨.text, 2, 3⟩) = .ok r ∧
      (r.context.selected? (r.context.step r.state).2).map (fun x => (x.1.action, x.2.whole))
        = some (.delegate ⟨.table 0, [⟨0⟩, ⟨1⟩]⟩, ⟨1, 6⟩) :=
    by decide +kernel
  obtain ⟨hctx, hstate⟩ := start_context hr
  obtain ⟨⟨rule, m⟩, hsel, hx⟩ := Option.map_eq_some_iff.mp hselected
  obtain ⟨haction, hm⟩ := Prod.mk.inj hx
  rw [hctx, hstate] at hsel
  have hlib : ∀ t ∈ [inner], t.BuiltOn [inner] :=
    List.forall_mem_singleton.mpr ⟨dashed, 0, hinner⟩
  obtain ⟨-, -, hcomposes⟩ := run_compositional hlib ⟨bracketed, 1, htable⟩ hr
    ((Reached.start ⟨.text, 2, 3⟩).step (List.cons_ne_nil _ _))
  obtain ⟨t, ht, hcontributes⟩ :=
    (hcomposes rule m (selects_iff.mpr hsel) (by rw [hm]; rfl)).whole _ haction
  obtain ⟨alone, halone, -, htokens⟩ := hcontributes.alone Nat.zero_lt_two
  rw [hm] at ht htokens
  have htext : Text.slice? "x<a-b>".toList 1 6 = some "<a-b>".toList := by decide +kernel
  cases htext.symm.trans ht
  refine ⟨inner, table, r, alone, hinner, htable, hr, halone, ?_⟩
  rw [hctx, hstate]
  exact htokens

end Run

end TableLexer
