import TableLexer.Proofs.Run.Confined

/-!
# Actions do not steer runs

What a rule emits is no part of what a run goes by. Where two tables differ only in the
actions of their rules, runs over one text from the same states of both go through the
same places with the same stacks, step by step, although their tokens and the runs that
they start may have nothing in common.

Results:
1. `step_alike`: steps go to the same state.
2. `run_unsteered`: so do runs.
-/

namespace TableLexer

open RunContext

/-! ## Definitions -/

/-- The rules match the same and change the stack in the same way. -/
structure Rule.MovesAlike (r r' : Rule) : Prop where
  matcher : r'.matcher.map Pooled.matcher = r.matcher.map Pooled.matcher
  ops : r'.ops = r.ops

/-- The tables have the same states, and these have the same rules in the same order, but
for their actions. -/
structure Table.MovesAlike (t t' : Table) : Prop where
  names : t'.states.map State.name = t.states.map State.name
  defined : t'.defined = t.defined
  resetOnNewline : t'.resetOnNewline = t.resetOnNewline
  rules : ∀ id, List.Forall₂ Rule.MovesAlike (t.rules id) (t'.rules id)

/-- The runs have tables that move alike and start with the same stack and limits. -/
structure RunContext.MovesAlike (ctx ctx' : RunContext) : Prop where
  table : ctx.table.MovesAlike ctx'.table
  config : ctx'.config = ctx.config
  initial : ctx'.initial = ctx.initial

/-! ## Tables -/

section

variable {t t' : Table}

/-- The ids of states do not depend on actions. -/
theorem Table.MovesAlike.stateId (h : t.MovesAlike t') (name : String) :
    SameOk (t'.stateId name) (t.stateId name) := by
  rw [Table.stateId, Table.stateId, Table.findIdx?_name, Table.findIdx?_name, h.names, h.defined]
  cases ((t.states.map State.name).take t.defined).findIdx? (· == name) with
  | none => exact SameOk.error _ _
  | some i => exact SameOk.refl _

end

/-! ## Steps -/

namespace RunContext

variable {ctx ctx' : RunContext} {rule rule' : Rule} {m : Regex.Match} {s : RunState}

/-- Of a rule that applies only the changes of the stack count. -/
theorem applyRule_alike (hc : ctx'.config = ctx.config) (h : rule.MovesAlike rule') :
    (ctx'.applyRule rule' m s).2 = (ctx.applyRule rule m s).2 := by
  unfold applyRule afterEmpty forceChar
  rw [h.ops, hc]
  split <;> rfl

theorem resetStack_alike (h : ctx.MovesAlike ctx') : ctx'.resetStack = ctx.resetStack := by
  have hroot := h.table.stateId rootState
  unfold resetStack
  cases hs : ctx.table.stateId rootState with
  | ok root => rw [(hroot root).mpr hs]
  | error e =>
    cases hs' : ctx'.table.stateId rootState with
    | ok root => exact absurd ((hroot root).mp hs') (by rw [hs]; exact nofun)
    | error e' => exact h.initial

/-- A step goes to the same state. -/
theorem step_alike (h : ctx.MovesAlike ctx') (s : RunState) : (ctx'.step s).2 = (ctx.step s).2 := by
  have hrefill : ctx'.refill s = ctx.refill s := by
    rw [refill, refill, h.initial]
  unfold step
  rw [hrefill]
  generalize ctx.refill s = s
  dsimp only
  cases s.stack with
  | nil => rw [forceChar, forceChar, h.config]
  | cons top below =>
    dsimp only
    have hfirst := firstMatch?_rel (fun _ _ hr => Rule.matchAt?_congr hr.matcher s.place)
      (h.table.rules top)
    generalize firstMatch? s.place (ctx.table.rules top) = found at hfirst
    generalize firstMatch? s.place (ctx'.table.rules top) = found' at hfirst
    cases hfirst with
    | none =>
      dsimp only
      rw [noMatch, noMatch, h.table.resetOnNewline, resetStack_alike h, forceChar, forceChar,
        h.config]
    | @some x x' hx =>
      obtain ⟨hrule, hm⟩ := hx
      dsimp only
      rw [hm]
      exact applyRule_alike h.config hrule

end RunContext

/-! ## Runs -/

namespace Run

variable {table table' : Table}

/-- Tables that differ only in the actions of their rules, whatever these are and whatever
tables they refer to: for any text, states and limits, runs start with both or with
neither of them, and after any number of steps they are in the same state. The states in
which they take steps for the tokens they are asked for come from one list, although a
token does not take the same number of steps in both. -/
theorem run_unsteered (library library' : Library) (h : table.MovesAlike table')
    (states : List String) (text : Text) (config : LexConfig) :
    (Succeeds (Run.start library table states text) ↔
      Succeeds (Run.start library' table' states text)) ∧
    ∀ r r', (Run.start library table states text).map (·.withConfig config) = .ok r →
      (Run.start library' table' states text).map (·.withConfig config) = .ok r' →
      (∀ n, r'.context.after n r'.state = r.context.after n r.state) ∧
      (r'.outermost text).states library' config = (r.outermost text).states library config ∧
      ∀ n, r.pulledStates n <+: (r.outermost text).states library config ∧
        r'.pulledStates n <+: (r.outermost text).states library config := by
  have hids := SameOk.mapM h.stateId (if states.isEmpty then [rootState] else states)
  refine ⟨?_, fun r r' hr hr' => ?_⟩
  · rw [Run.start, Run.start, Succeeds.bind_iff, Succeeds.bind_iff]
    exact exists_congr fun ids => and_congr (hids ids).symm ⟨fun _ => .ok _, fun _ => .ok _⟩
  · have hpulled := pulledStates_prefix hr
    have hpulled' := pulledStates_prefix hr'
    obtain ⟨ids, hok, rfl⟩ := start_eq_ok_iff.mp hr
    obtain ⟨ids', hok', rfl⟩ := start_eq_ok_iff.mp hr'
    cases ((hids ids').mp hok').symm.trans hok
    have hsteps : ∀ s, ((contextAt library' config 0 table' ids.reverse).step s).2
        = ((contextAt library config 0 table ids.reverse).step s).2 :=
      step_alike ⟨h, rfl, rfl⟩
    have hstates : (InnerRun.mk 0 table' ids.reverse text).states library' config
        = (InnerRun.mk 0 table ids.reverse text).states library config :=
      visited_congr hsteps _ _
    exact ⟨fun n => after_congr hsteps n _, hstates,
      fun n => ⟨hpulled n, hstates ▸ hpulled' n⟩⟩

/-- The grammar `dashed` with other actions: names are lexed with it again, and dashes
are not classified. -/
def redashed : Grammar :=
  ((Grammar.new "redashed").state rootState
    [.rule ⟨some (.regex "[a-z]+".toList), .delegate (.root .this), [.push "dash"]⟩]).state "dash"
    [.rule ⟨some (.regex "-".toList), .nothing, [.pop 1]⟩]

theorem run_unsteered_dashed :
    ∃ table table', dashed.build [] = .ok table ∧ redashed.build [] = .ok table' ∧
      table.MovesAlike table' ∧
      ∃ r r', (Run.start [] table [] "ab-c!".toList).map (·.withConfig ⟨.text, 2, 3⟩) = .ok r ∧
        (Run.start [] table' [] "ab-c!".toList).map (·.withConfig ⟨.text, 2, 3⟩) = .ok r' ∧
        ∀ n, r'.context.after n r'.state = r.context.after n r.state := by
  obtain ⟨table, htable, table', htable', halike, r, hr, r', hr'⟩ : ∃ table,
      dashed.build [] = .ok table ∧ ∃ table', redashed.build [] = .ok table' ∧
      table.MovesAlike table' ∧
      ∃ r, (Run.start [] table [] "ab-c!".toList).map (·.withConfig ⟨.text, 2, 3⟩) = .ok r ∧
      ∃ r', (Run.start [] table' [] "ab-c!".toList).map (·.withConfig ⟨.text, 2, 3⟩) = .ok r' := by
    refine ⟨_, rfl, _, rfl, ⟨rfl, rfl, rfl, fun id => ?_⟩, _, rfl, _, rfl⟩
    match id with
    | ⟨0⟩ => exact .cons ⟨rfl, rfl⟩ .nil
    | ⟨1⟩ => exact .cons ⟨rfl, rfl⟩ .nil
    | ⟨_ + 2⟩ => exact .nil
  obtain ⟨-, hruns⟩ := run_unsteered [] [] halike [] "ab-c!".toList ⟨.text, 2, 3⟩
  exact ⟨table, table', htable, htable', halike, r, r', hr, hr', (hruns r r' hr hr').1⟩

end Run

end TableLexer
