import TableLexer.Proofs.Regex.Refusal
import TableLexer.Proofs.Run.Nesting

/-!
# Steps of one token

A rule that emits its whole match with a kind makes a step of one token. Where all steps are
of this sort, tokens asked for and steps are the same in number, and what is known of the steps
is known of the run between any two tokens.

Results:
1. `Rule.Emits.step`: the step of such a rule.
2. `Table.EmitsMark.step`: which rule it is where a text comes next that the rules before it
   refuse.
3. `RunContext.Gives.exhaust`, `Run.pull_of_gives`: rows of such steps.
-/

namespace TableLexer

open Cursor Regex RunContext

/-! ## Definitions -/

namespace Rule

def program? (r : Rule) : Option Program := r.matcher.map (·.matcher.regex.program)

/-- The set of which the rule matches a character, if it is of that form. -/
def charSet? (r : Rule) : Option CharSet :=
  match r.program? with
  | some (.set s) => some s
  | _ => none

/-- The rule emits what the program matches as one token of the kind. -/
structure Emits (r : Rule) (kind : Kind) (program : Program) (ops : List StackOp) : Prop where
  program : r.program? = some program
  action : r.action = .kind kind
  ops : r.ops = ops

instance (r : Rule) (kind : Kind) (program : Program) (ops : List StackOp) :
    Decidable (r.Emits kind program ops) :=
  decidable_of_iff (r.program? = some program ∧ r.action = .kind kind ∧ r.ops = ops)
    ⟨fun ⟨h₁, h₂, h₃⟩ => ⟨h₁, h₂, h₃⟩, fun h => ⟨h.program, h.action, h.ops⟩⟩

end Rule

/-- In the state, a rule emits the mark where it comes next, and the rules before that one refuse
the mark. -/
def Table.EmitsMark (t : Table) (kind : Kind) (state : StateId) (mark : Text)
    (ops : List StackOp) : Prop :=
  ∃ r ∈ (t.rules state).find? (!·.refuses mark), r.Emits kind (.text mark) ops

instance (t : Table) (kind : Kind) (state : StateId) (mark : Text) (ops : List StackOp) :
    Decidable (t.EmitsMark kind state mark ops) :=
  inferInstanceAs (Decidable (∃ r ∈ (t.rules state).find? _, _))

/-- Each step from `s` to the other state emits one token, and these are the tokens. -/
inductive RunContext.Gives (ctx : RunContext) : RunState → List Token → RunState → Prop
  | refl {s : RunState} : Gives ctx s [] s
  | step {s s' s'' : RunState} {token : Token} {l : List Token} (hr : s.place.rest ≠ [])
      (hstep : ctx.step s = ([token], s')) (h : Gives ctx s' l s'') : Gives ctx s (token :: l) s''

variable {ctx : RunContext} {s s' : RunState} {rule : Rule} {m : Regex.Match} {kind : Kind}
  {program : Program} {ops : List StackOp} {l : List Token}

/-! ## Rules -/

namespace Rule

/-- A rule matches where its program does. -/
theorem isSome_matchAt? (h : rule.program? = some program) {place : Cursor}
    (hfirst : (program.first? place).isSome) : (rule.matchAt? place).isSome := by
  obtain ⟨p, hp, rfl⟩ := Option.map_eq_some_iff.mp h
  rw [matchAt?, hp]
  exact (Option.isSome_map ..).trans hfirst

/-- Its match goes by a word of the program. -/
theorem reads_of_program? (h : rule.program? = some program) {place : Cursor}
    (hm : rule.matchAt? place = some m) : ∃ w ∈ program.words, ∃ d, m.Reads place w d := by
  obtain ⟨p, hp, rfl⟩ := Option.map_eq_some_iff.mp h
  rw [matchAt?, hp] at hm
  exact Regex.matchAt?_reads hm

theorem program?_of_charSet? {set : CharSet} (h : rule.charSet? = some set) :
    rule.program? = some (.set set) := by
  unfold charSet? at h
  split at h
  · next hprogram =>
    cases h
    exact hprogram
  · cases h

/-- Where a rule that emits one token applies, this is the text of its match, if there is any. -/
theorem Emits.step (h : rule.Emits kind program ops) (hsel : ctx.Selects s rule m) :
    ∃ w ∈ program.words, ∃ d, s.place.Passes (Event.text w) d ∧
      (Event.text w ≠ [] → ctx.step s = ([⟨s.place.pos, kind, Event.text w⟩],
        ⟨d, applyOps ops s.stack, s.streak⟩)) := by
  obtain ⟨-, -, -, hm⟩ := hsel.mem
  obtain ⟨w, hw, d, hread⟩ := reads_of_program? h.program hm
  refine ⟨w, hw, d, hread.passes, fun hne => ?_⟩
  have hinside := hread.inside
  have he := hinside.isEmpty_eq_false (hread.passes.lt hne)
  rw [hsel.step_match hinside he, h.action, h.ops, tokensOf_kind hinside hread.passes hne]

/-- If the rule emits a text, that text comes next. -/
theorem Emits.step_text {t : Text} (h : rule.Emits kind (.text t) ops)
    (hsel : ctx.Selects s rule m) :
    ∃ d, s.place.Passes t d ∧ (t ≠ [] → ctx.step s = ([⟨s.place.pos, kind, t⟩],
      ⟨d, applyOps ops s.stack, s.streak⟩)) := by
  obtain ⟨w, hw, d, hpass, hstep⟩ := h.step hsel
  obtain rfl : w = t.map .char := hw
  rw [Event.text_chars] at hpass hstep
  exact ⟨d, hpass, hstep⟩

end Rule

/-- The first rule that does not refuse the lead applies if it matches. -/
theorem RunContext.firstMatch?_of_refuses {rules : List Rule} {lead : Text} {place : Cursor}
    (h : rules.find? (!·.refuses lead) = some rule) (hlead : lead <+: place.rest)
    (hm : rule.matchAt? place = some m) : firstMatch? place rules = some (rule, m) := by
  obtain ⟨-, front, back, rfl, hfront⟩ := List.find?_eq_some_iff_append.mp h
  have hnone : front.findSome? (fun rule => (rule.matchAt? place).map (rule, ·)) = none := by
    refine List.findSome?_eq_none_iff.mpr fun r hr => ?_
    rw [Rule.matchAt?_of_refuses (by simpa using hfront r hr) hlead, Option.map_none]
  rw [firstMatch?, List.findSome?_append, hnone, Option.none_or, List.findSome?_cons, hm]
  rfl

/-- A step at a mark. -/
theorem Table.EmitsMark.step {state : StateId} {mark rest : Text} {below : List StateId}
    (h : ctx.table.EmitsMark kind state mark ops) (hne : mark ≠ [])
    (hstack : s.stack = state :: below) (hrest : s.place.rest = mark ++ rest) :
    ∃ d, s.place.Passes mark d ∧ d.rest = rest ∧
      ctx.step s = ([⟨s.place.pos, kind, mark⟩], ⟨d, applyOps ops s.stack, s.streak⟩) := by
  obtain ⟨rule, hrule, hemits⟩ := h
  have hnext : mark <+: s.place.rest := ⟨rest, hrest.symm⟩
  have hmatch := Rule.isSome_matchAt? hemits.program (Program.isSome_first?_text hnext)
  obtain ⟨m, hm⟩ := Option.isSome_iff_exists.mp hmatch
  have hfirst := firstMatch?_of_refuses (Option.mem_def.mp hrule) hnext hm
  obtain ⟨d, hpass, hstep⟩ := hemits.step_text ⟨state, below, hstack, hfirst⟩
  exact ⟨d, hpass, List.append_cancel_left (hpass.rest.symm.trans hrest), hstep hne⟩

/-! ## Rows of steps -/

theorem RunContext.Gives.exhaust (h : ctx.Gives s l s') :
    ctx.exhaust l.length s = l ∧ ctx.after l.length s = s' := by
  induction h with
  | refl => exact ⟨rfl, rfl⟩
  | step hr hstep _ ih =>
    obtain ⟨htokens, hafter⟩ := ih
    rw [List.length_cons, exhaust_succ hr, after_succ hr, hstep]
    exact ⟨congrArg _ htokens, hafter⟩

namespace Run

variable {r : Run}

/-- The tokens in the queue come first. -/
theorem pull_queued (r : Run) (n : Nat) :
    r.pull (r.queue.length + n) =
      (r.queue ++ ({ r with queue := [] }.pull n).1, ({ r with queue := [] }.pull n).2) := by
  obtain ⟨library, table, config, initial, state, queue⟩ := r
  induction queue with
  | nil => simp
  | cons token queue ih =>
    have hnext : (Run.mk library table config initial state (token :: queue)).next
        = (some token, ⟨library, table, config, initial, state, queue⟩) := by
      rw [next, advance_of_settled (.inl (List.cons_ne_nil _ _))]
    rw [List.length_cons, Nat.add_right_comm, pull, hnext]
    simp only [ih]
    rfl

theorem next_of_step {token : Token} (hq : r.queue = []) (hr : r.state.place.rest ≠ [])
    (hstep : r.context.step r.state = ([token], s')) :
    r.next = (some token, { r with state := s' }) := by
  have hahead : r.advance r.context.patience = r.stepped := by
    rw [RunContext.patience, advance_succ hq hr]
    refine advance_of_settled (.inl ?_)
    rw [stepped, hstep]
    exact List.cons_ne_nil _ _
  rw [next, hahead, stepped, hstep, ← hq]

theorem pull_steps (h : r.context.Gives r.state l s') (hq : r.queue = []) :
    r.pull l.length = (l, { r with state := s' }) := by
  induction l generalizing r with
  | nil =>
    cases h
    rfl
  | cons token l ih =>
    cases h with
    | @step _ s'' _ _ _ hr hstep h =>
      have hrest : Run.pull l.length { r with state := s'' } = (l, { r with state := s' }) := ih h hq
      rw [List.length_cons, pull, next_of_step hq hr hstep]
      simp only [hrest]

/-- Where each step emits one token, so many tokens asked for are so many steps. -/
theorem pull_of_gives (h : r.context.Gives r.state l s') :
    r.pull (r.queue.length + l.length) = (r.queue ++ l, { r with state := s', queue := [] }) := by
  have hsteps : Run.pull l.length { r with queue := [] }
      = (l, { r with state := s', queue := [] }) := pull_steps h rfl
  rw [pull_queued, hsteps]

end Run

end TableLexer
