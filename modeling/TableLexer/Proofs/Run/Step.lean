import TableLexer.Proofs.Run.Portion

/-!
# What a step can do

A step of a run has one of six outcomes. Three of them force a character out, one
resets the run at a line feed, one consumes a match, and one only counts a match of
nothing. Whatever else is said of steps is read off the outcomes.

Results:
1. `firstMatch?_rel`: rules that match alike apply alike.
2. `step_outcome`: the outcome of a step is one of the six.
3. `Selects.step_match`: what a step does that applies a rule to a match with text.
4. `Outcome.moves_or_counts`: a step consumes text, which its tokens tile, or it emits
   nothing and makes the streak of empty steps longer by one, within the limit.
-/

namespace TableLexer

open Cursor

/-- What matches is the matcher, whatever its slot. -/
theorem Rule.matchAt?_congr {r r' : Rule}
    (h : r'.matcher.map Pooled.matcher = r.matcher.map Pooled.matcher) (place : Cursor) :
    r'.matchAt? place = r.matchAt? place := by
  unfold Rule.matchAt?
  cases hr : r.matcher with
  | none =>
    rw [hr] at h
    rw [Option.map_eq_none_iff.mp h]
  | some p =>
    rw [hr] at h
    obtain ⟨p', hp', hsame⟩ := Option.map_eq_some_iff.mp h
    rw [hp']
    dsimp only
    rw [hsame]

namespace RunContext

/-! ## Outcomes -/

/-- The rule is the first one of the state on top that matches, and `m` is its match. -/
def Selects (ctx : RunContext) (s : RunState) (rule : Rule) (m : Regex.Match) : Prop :=
  ∃ top below, s.stack = top :: below ∧
    firstMatch? s.place (ctx.table.rules top) = some (rule, m)

/-- The table resets runs at a line feed, and one comes next. -/
def Resets (ctx : RunContext) (s : RunState) : Prop :=
  ctx.table.resetOnNewline = true ∧ s.place.rest.head? = some '\n'

/-- What a step does that starts with the state `s`, whose stack has been refilled. -/
inductive Outcome (ctx : RunContext) (s : RunState) : List Token × RunState → Prop
  /-- There is no state, or none of its rules matches. -/
  | lost (h : ∀ rule m, ¬ ctx.Selects s rule m)
      (hc : s.stack ≠ [] → ¬ ctx.Resets s) : Outcome ctx s (ctx.forceChar s)
  /-- A line feed that no rule matches resets the stack. -/
  | reset (h : ∀ rule m, ¬ ctx.Selects s rule m) (hs : s.stack ≠ []) (hc : ctx.Resets s) :
      Outcome ctx s (takeChar .text { s with stack := ctx.resetStack })
  /-- A match is consumed. -/
  | consumed {rule : Rule} {m : Regex.Match} {d : Cursor} (h : ctx.Selects s rule m)
      (hm : m.Inside s.place d) (hlt : s.place.pos < d.pos) :
      Outcome ctx s (ctx.tokensOf rule.action m s.place,
        { s with stack := applyOps rule.ops s.stack, place := d })
  /-- A match of nothing leaves the stack as it is. -/
  | idle {rule : Rule} {m : Regex.Match} (h : ctx.Selects s rule m)
      (he : m.whole.isEmpty = true) (hs : applyOps rule.ops s.stack = s.stack) :
      Outcome ctx s (ctx.forceChar s)
  /-- A match of nothing changes the stack. -/
  | counted {rule : Rule} {m : Regex.Match} (h : ctx.Selects s rule m)
      (he : m.whole.isEmpty = true) (hs : applyOps rule.ops s.stack ≠ s.stack)
      (hk : (lengthen s.stack s).steps ≤ ctx.config.maxEmptySteps) :
      Outcome ctx s ([],
        { s with stack := applyOps rule.ops s.stack, streak := some (lengthen s.stack s) })
  /-- A match of nothing changes the stack once too often. -/
  | abandoned {rule : Rule} {m : Regex.Match} (h : ctx.Selects s rule m)
      (he : m.whole.isEmpty = true) (hs : applyOps rule.ops s.stack ≠ s.stack)
      (hk : ctx.config.maxEmptySteps < (lengthen s.stack s).steps) :
      Outcome ctx s
        (ctx.forceChar { s with stack := (lengthen s.stack s).stack, streak := none })

variable {ctx : RunContext} {s : RunState}

theorem mem_of_firstMatch? {place : Cursor} {rules : List Rule} {rule : Rule} {m : Regex.Match}
    (h : firstMatch? place rules = some (rule, m)) :
    rule ∈ rules ∧ rule.matchAt? place = some m := by
  obtain ⟨r, hr, hmatch⟩ := List.exists_of_findSome?_eq_some h
  obtain ⟨m', hm', heq⟩ := Option.map_eq_some_iff.mp hmatch
  cases heq
  exact ⟨hr, hm'⟩

/-- Where one of the rules matches, there is a first one that does. -/
theorem exists_firstMatch? {place : Cursor} {rules : List Rule} {r : Rule} (hr : r ∈ rules)
    (hmatch : (r.matchAt? place).isSome) : ∃ rule m, firstMatch? place rules = some (rule, m) := by
  have hsome : (firstMatch? place rules).isSome := by
    rw [firstMatch?, List.findSome?_isSome_iff]
    exact ⟨r, hr, by rwa [Option.isSome_map]⟩
  obtain ⟨⟨rule, m⟩, hfirst⟩ := Option.isSome_iff_exists.mp hsome
  exact ⟨rule, m, hfirst⟩

/-- Among rules that match alike, the one that applies is the one in the same position, with
the same match. -/
theorem firstMatch?_rel {P : Rule → Rule → Prop} {rules rules' : List Rule}
    {place : Cursor} (hmatch : ∀ r r', P r r' → r'.matchAt? place = r.matchAt? place)
    (h : List.Forall₂ P rules rules') :
    Option.Rel (fun x x' => P x.1 x'.1 ∧ x'.2 = x.2)
      (firstMatch? place rules) (firstMatch? place rules') := by
  induction h with
  | nil => exact .none
  | @cons r r' rules rules' hr _ ih =>
    unfold firstMatch? at ih ⊢
    rw [List.findSome?_cons, List.findSome?_cons, hmatch r r' hr]
    cases r.matchAt? place with
    | none => exact ih
    | some m => exact .some ⟨hr, rfl⟩

/-- The rule that applies is one of the state on top. -/
theorem Selects.mem {rule : Rule} {m : Regex.Match} (h : ctx.Selects s rule m) :
    ∃ top ∈ s.stack.head?, rule ∈ ctx.table.rules top ∧ rule.matchAt? s.place = some m := by
  obtain ⟨top, below, hstack, hfirst⟩ := h
  exact ⟨top, List.head?_eq_some_iff.mpr ⟨below, hstack⟩, mem_of_firstMatch? hfirst⟩

theorem Selects.inside {rule : Rule} {m : Regex.Match} (h : ctx.Selects s rule m) :
    ∃ d, m.Inside s.place d := by
  obtain ⟨_, -, -, hmatch⟩ := h.mem
  exact Rule.matchAt?_inside hmatch

/-- An empty match has no tokens of its own, so all that counts is the stack. -/
theorem applyRule_outcome {rule : Rule} {m : Regex.Match} (h : ctx.Selects s rule m) :
    ctx.Outcome s (ctx.applyRule rule m s) := by
  obtain ⟨d, hm⟩ := h.inside
  unfold applyRule
  split
  · next he =>
    simp only [tokensOf_eq_nil hm he, List.nil_append, afterEmpty]
    split
    · next hs =>
      have hsame : ({ s with stack := applyOps rule.ops s.stack } : RunState) = s := by
        rw [show applyOps rule.ops s.stack = s.stack from hs]
      rw [hsame]
      exact .idle h he hs
    · next hs =>
      split
      · next hk => exact .abandoned h he hs hk
      · next hk => exact .counted h he hs (Nat.le_of_not_lt hk)
  · next he =>
    obtain ⟨t, ht⟩ := hm.passes
    have hlt : s.place.pos < d.pos := by
      refine Nat.lt_of_le_of_ne ht.le fun heq => he ?_
      rw [Extent.isEmpty, hm.start, hm.stop, heq]
      exact beq_self_eq_true _
    rw [show (s.place.takeTo m.whole.stop).2 = d by rw [hm.stop, ht.takeTo]]
    exact .consumed h hm hlt

theorem noMatch_outcome (h : ∀ rule m, ¬ ctx.Selects s rule m) (hs : s.stack ≠ []) :
    ctx.Outcome s (ctx.noMatch s) := by
  unfold noMatch
  split
  · next hc => exact .reset h hs hc
  · next hc => exact .lost h fun _ => hc

/-- Every step has one of the outcomes. -/
theorem step_outcome (ctx : RunContext) (s : RunState) :
    ctx.Outcome (ctx.refill s) (ctx.step s) := by
  unfold step
  generalize ctx.refill s = s
  dsimp only
  split
  · next hstack =>
    refine .lost ?_ (absurd hstack)
    rintro rule m ⟨top, below, htop, -⟩
    rw [hstack] at htop
    cases htop
  · next top below hstack =>
    split
    · next hfirst => exact applyRule_outcome ⟨top, below, hstack, hfirst⟩
    · next hfirst =>
      refine noMatch_outcome ?_ (by rw [hstack]; exact List.cons_ne_nil _ _)
      rintro rule m ⟨top', below', htop, hsome⟩
      rw [hstack] at htop
      cases htop
      rw [hfirst] at hsome
      cases hsome

/-! ## Steps that apply a rule -/

section

variable {rule : Rule} {m : Regex.Match}

theorem refill_eq (h : s.stack ≠ []) : ctx.refill s = s := by
  unfold refill
  split
  · next hempty => exact absurd (List.isEmpty_iff.mp hempty) h
  · rfl

theorem Selects.refill (h : ctx.Selects s rule m) : ctx.refill s = s := by
  obtain ⟨top, below, hstack, -⟩ := h
  refine refill_eq ?_
  rw [hstack]
  exact List.cons_ne_nil _ _

theorem Selects.step_eq (h : ctx.Selects s rule m) : ctx.step s = ctx.applyRule rule m s := by
  have hrefill := h.refill
  obtain ⟨top, below, hstack, hfirst⟩ := h
  unfold step
  simp only [hrefill, hstack, hfirst]

/-- A rule that matches some text changes the stack as it says and goes to the end of the
match, whatever its tokens are. -/
theorem Selects.step_match (h : ctx.Selects s rule m) {d : Cursor} (hm : m.Inside s.place d)
    (he : m.whole.isEmpty = false) :
    ctx.step s = (ctx.tokensOf rule.action m s.place, ⟨d, applyOps rule.ops s.stack, s.streak⟩) := by
  obtain ⟨t, ht⟩ := hm.passes
  rw [h.step_eq, applyRule, if_neg (by rw [he]; exact Bool.false_ne_true), hm.stop, ht.takeTo]

end

/-! ## Progress -/

variable {s' : RunState}

/-- The step consumes the text `t`, and its tokens tile it. -/
structure Moves (ctx : RunContext) (s : RunState) (t : Text) (tokens : List Token)
    (s' : RunState) : Prop where
  ne_nil : t ≠ []
  passes : s.place.Passes t s'.place
  tile : ctx.RelexTiles → Token.Tile s.place.pos t tokens
  streak : s'.streak = s.streak ∨ s'.streak = none

/-- The step emits nothing and makes the streak longer by one. -/
structure Counts (ctx : RunContext) (s : RunState) (tokens : List Token) (s' : RunState) :
    Prop where
  tokens : tokens = []
  place : s'.place = s.place
  streak : ∃ before, s'.streak = some (lengthen before s) ∧
    (lengthen before s).steps ≤ ctx.config.maxEmptySteps

theorem takeChar_moves (ctx : RunContext) (kind : Kind) (hr : s.place.rest ≠ []) :
    ∃ t, ctx.Moves s t (takeChar kind s).1 (takeChar kind s).2 := by
  cases hrest : s.place.rest with
  | nil => exact absurd hrest hr
  | cons c rest =>
    have htake : takeChar kind s =
        ([⟨s.place.pos, kind, [c]⟩], { s with place := s.place.next }) := by
      simp [takeChar, hrest]
    rw [htake]
    exact ⟨[c], List.cons_ne_nil _ _, passes_next hrest,
      fun _ => Tiles.single (List.cons_ne_nil _ _), .inl rfl⟩

theorem refill_place (ctx : RunContext) (s : RunState) : (ctx.refill s).place = s.place := by
  unfold refill
  split <;> rfl

theorem refill_streak (ctx : RunContext) (s : RunState) :
    (ctx.refill s).streak = s.streak := by
  unfold refill
  split <;> rfl

/-- A step that is not at the end of the text consumes text or counts a match of
nothing. -/
theorem Outcome.moves_or_counts (hr : s.place.rest ≠ []) {out : List Token × RunState}
    (h : ctx.Outcome s out) : (∃ t, ctx.Moves s t out.1 out.2) ∨ ctx.Counts s out.1 out.2 := by
  cases h with
  | lost => exact .inl (takeChar_moves ctx _ hr)
  | reset =>
    obtain ⟨t, ht⟩ := takeChar_moves ctx .text hr (s := { s with stack := ctx.resetStack })
    exact .inl ⟨t, ht.ne_nil, ht.passes, ht.tile, ht.streak⟩
  | consumed _ hm hlt =>
    obtain ⟨t, ht⟩ := hm.passes
    exact .inl ⟨t, ht.ne_nil_of_lt hlt, ht, fun hrelex => tokensOf_tile hrelex hm ht, .inl rfl⟩
  | idle => exact .inl (takeChar_moves ctx _ hr)
  | counted _ _ _ hk => exact .inr ⟨rfl, rfl, s.stack, rfl, hk⟩
  | abandoned =>
    obtain ⟨t, ht⟩ := takeChar_moves ctx ctx.config.fallback hr
      (s := { s with stack := (lengthen s.stack s).stack, streak := none })
    exact .inl ⟨t, ht.ne_nil, ht.passes, ht.tile, .inr (ht.streak.elim id id)⟩

theorem step_moves_or_counts (ctx : RunContext) (hr : s.place.rest ≠ []) :
    (∃ t, ctx.Moves s t (ctx.step s).1 (ctx.step s).2) ∨
      ctx.Counts s (ctx.step s).1 (ctx.step s).2 := by
  have hplace := refill_place ctx s
  have hstreak := refill_streak ctx s
  rcases (step_outcome ctx s).moves_or_counts (by rwa [hplace]) with ⟨t, h⟩ | h
  · refine .inl ⟨t, h.ne_nil, ?_, ?_, ?_⟩
    · exact hplace ▸ h.passes
    · exact hplace ▸ h.tile
    · exact hstreak ▸ h.streak
  · obtain ⟨before, hb, hk⟩ := h.streak
    have hsame : lengthen before (ctx.refill s) = lengthen before s := by
      simp only [lengthen, hplace, hstreak]
    rw [hsame] at hb hk
    exact .inr ⟨h.tokens, h.place.trans hplace, before, hb, hk⟩

end RunContext

end TableLexer
