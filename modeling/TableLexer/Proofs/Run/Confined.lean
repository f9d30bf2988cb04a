import TableLexer.Proofs.Run.Nesting
import TableLexer.Proofs.Table.Closure

/-!
# Runs keep to their table

A run starts with states of its table on the stack, and its rules push no others. So in
every state that it reaches there is a state on the stack, and the table has all that are
on it: whatever the changes of the stack are, after a reset at a line feed and after
empty steps that have been given up. A run over matched text is with the table of its
delegate and keeps to that one.

Results:
1. `applyOps_all`, `applyOps_carries`: changes of the stack keep to a kind of states, as to
   those of a table.
2. `Outcome.on`, `step_on`: so do steps.
3. `asks_portions`: the runs that a match asks for are those of its action.
4. `reached_on`: every state that is reached, on whatever level, keeps to its table.
5. `run_confined`: what follows for runs.
-/

namespace TableLexer

open RunContext

/-! ## Stacks -/

/-- There is a state on the stack, and the table has all that are on it. -/
structure Table.Carries (t : Table) (stack : List StateId) : Prop where
  ne_nil : stack ≠ []
  has : ∀ id ∈ stack, t.Has id

/-- The table carries the stack of the state and the one that its streak keeps. -/
structure RunState.On (t : Table) (s : RunState) : Prop where
  stack : t.Carries s.stack
  streak : ∀ streak ∈ s.streak, t.Carries streak.stack

section

variable {t : Table} {stack : List StateId}

/-- A change of the stack keeps what holds of all states on it, if the state to which it
refers is of the same kind. -/
theorem applyOp_all {P : StateId → Prop} {op : StackOp} (hne : stack ≠ [])
    (h : ∀ id ∈ stack, P id) (hop : ∀ id ∈ op.state?, P id) :
    applyOp stack op ≠ [] ∧ ∀ id ∈ applyOp stack op, P id := by
  cases op with
  | push id => exact ⟨List.cons_ne_nil _ _, List.forall_mem_cons.mpr ⟨hop id rfl, h⟩⟩
  | pushCurrent =>
    cases stack with
    | nil => exact absurd rfl hne
    | cons top below =>
      exact ⟨List.cons_ne_nil _ _, List.forall_mem_cons.mpr ⟨h top List.mem_cons_self, h⟩⟩
  | pop count =>
    have hpos : 0 < stack.length := List.length_pos_of_ne_nil hne
    refine ⟨fun hnil => ?_, fun id hid => h id (List.mem_of_mem_drop hid)⟩
    have hle : stack.length ≤ min count (stack.length - 1) := List.drop_eq_nil_iff.mp hnil
    omega
  | goto id =>
    exact ⟨List.cons_ne_nil _ _, List.forall_mem_cons.mpr
      ⟨hop id rfl, fun id' h' => h id' (List.mem_of_mem_tail h')⟩⟩

theorem applyOps_all {P : StateId → Prop} {ops : List StackOp} (hne : stack ≠ [])
    (h : ∀ id ∈ stack, P id) (hops : ∀ op ∈ ops, ∀ id ∈ op.state?, P id) :
    applyOps ops stack ≠ [] ∧ ∀ id ∈ applyOps ops stack, P id :=
  List.foldlRecOn (motive := fun stack => stack ≠ [] ∧ ∀ id ∈ stack, P id) ops applyOp ⟨hne, h⟩
    fun _ hs op hop => applyOp_all hs.1 hs.2 (hops op hop)

theorem applyOps_carries {ops : List StackOp} (h : t.Carries stack)
    (hops : ∀ op ∈ ops, ∀ id ∈ op.state?, t.Has id) : t.Carries (applyOps ops stack) := by
  obtain ⟨hne, hall⟩ := applyOps_all h.ne_nil h.has hops
  exact ⟨hne, hall⟩

end

/-! ## Steps -/

namespace RunContext

variable {ctx : RunContext} {library : Library} {s : RunState} {rule : Rule} {m : Regex.Match}
  {out : List Token × RunState}

theorem takeChar_on {t : Table} {kind : Kind} (h : s.On t) : (takeChar kind s).2.On t := by
  unfold takeChar
  split
  · exact h
  · exact ⟨h.stack, h.streak⟩

theorem Selects.closed (h : ctx.Selects s rule m) (ht : ctx.table.Closed library) :
    rule.Closed library ctx.table := by
  obtain ⟨id, -, hid, -⟩ := h.mem
  exact ht id rule hid

theorem resetStack_carries (hi : ctx.table.Carries ctx.initial) :
    ctx.table.Carries ctx.resetStack := by
  unfold resetStack
  split
  · next root hroot =>
    refine ⟨List.cons_ne_nil _ _, fun id hid => ?_⟩
    rw [List.mem_singleton.mp hid]
    exact Table.has_of_stateId hroot
  · exact hi

theorem lengthen_carries {t : Table} (h : s.On t) : t.Carries (lengthen s.stack s).stack := by
  unfold lengthen
  split
  · next streak hstreak =>
    split
    · exact h.streak streak hstreak
    · exact h.stack
  · exact h.stack

/-- Whatever the outcome of a step is, it keeps to the table, which carries the stack of the streak
as well. -/
theorem Outcome.on (ht : ctx.table.Closed library) (hi : ctx.table.Carries ctx.initial)
    (h : s.On ctx.table) (hout : ctx.Outcome s out) : out.2.On ctx.table := by
  have hops : ∀ {rule m}, ctx.Selects s rule m → ctx.table.Carries (applyOps rule.ops s.stack) :=
    fun hsel => applyOps_carries h.stack (hsel.closed ht).ops
  cases hout with
  | lost => exact takeChar_on h
  | reset => exact takeChar_on ⟨resetStack_carries hi, h.streak⟩
  | consumed hsel => exact ⟨hops hsel, h.streak⟩
  | idle => exact takeChar_on h
  | counted hsel =>
    refine ⟨hops hsel, fun streak hstreak => ?_⟩
    cases hstreak
    exact lengthen_carries h
  | abandoned => exact takeChar_on ⟨lengthen_carries h, nofun⟩

theorem step_on (ht : ctx.table.Closed library) (hi : ctx.table.Carries ctx.initial)
    (h : s.On ctx.table) : (ctx.step s).2.On ctx.table := by
  have hout := step_outcome ctx s
  rw [refill_eq h.stack.ne_nil] at hout
  exact hout.on ht hi h

end RunContext

/-! ## The runs that a match asks for -/

/-- All runs that the portions ask for are among those listed. -/
def Emission.Asks (among : List Delegate) (e : Emission) : Prop :=
  ∀ p ∈ e.latest, ∀ d, p.label = .relexed d → d ∈ among

section

variable {among : List Delegate} {e : Emission} {fallback : Kind}

theorem Emission.Asks.fillTo {stop : Nat} (h : e.Asks among) :
    (e.fillTo fallback stop).Asks among := by
  unfold Emission.fillTo
  split
  · intro p hp d hd
    rcases List.mem_cons.mp hp with rfl | hp
    · cases hd
    · exact h p hp d hd
  · exact h

theorem Emission.Asks.emit {label : Label} {piece : Extent} (h : e.Asks among)
    (hl : ∀ d, label = .relexed d → d ∈ among) : (e.emit fallback label piece).Asks among := by
  unfold Emission.emit
  split
  · exact h
  · intro p hp d hd
    rcases List.mem_cons.mp hp with rfl | hp
    · exact hl d hd
    · exact h.fillTo p hp d hd

end

namespace RunContext

variable {ctx : RunContext} {action : Action} {m : Regex.Match} {c : Cursor} {d : Delegate}
  {t : Text}

theorem asks_emitGroup {among : List Delegate} {e : Emission}
    {group : GroupAction × Option Extent} (h : e.Asks among)
    (hd : ∀ d, group.1.delegate? = some d → d ∈ among) : (ctx.emitGroup e group).Asks among := by
  rcases ctx.emitGroup_cases e group with heq | ⟨label, piece, -, hact, heq⟩ <;> rw [heq]
  · exact h
  · refine h.emit fun d hlabel => hd d ?_
    rw [hact d hlabel]
    rfl

theorem asks_emitGroups {among : List Delegate} {groups : List (GroupAction × Option Extent)}
    {e : Emission} (h : e.Asks among)
    (hd : ∀ group ∈ groups, ∀ d, group.1.delegate? = some d → d ∈ among) :
    (groups.foldl ctx.emitGroup e).Asks among :=
  List.foldlRecOn groups ctx.emitGroup h fun _ he group hg => asks_emitGroup he (hd group hg)

/-- The runs that a match asks for are those of its action. -/
theorem asks_portions
    (h : (d, t) ∈ (ctx.portions action m c).filterMap Portion.relexed?) :
    d ∈ action.delegates := by
  have hstart : (Emission.start c).Asks action.delegates :=
    fun p hp => absurd hp List.not_mem_nil
  have hasks : (ctx.emitAction action m c).Asks action.delegates := by
    cases action with
    | nothing => exact hstart
    | kind kind => exact hstart.emit nofun
    | delegate d =>
      refine hstart.emit fun d' hd' => ?_
      cases hd'
      exact List.mem_cons_self
    | groups list =>
      refine asks_emitGroups hstart fun group hgroup d hd => ?_
      exact List.mem_filterMap.mpr ⟨group.1, (List.of_mem_zip hgroup).1, hd⟩
  obtain ⟨p, hp, hpd⟩ := List.mem_filterMap.mp h
  unfold Portion.relexed? at hpd
  split at hpd
  · cases hpd
  · next d' hlabel =>
    cases hpd
    exact hasks.fillTo p (List.mem_reverse.mp hp) _ hlabel

end RunContext

/-! ## Runs on all levels -/

section

variable (library : Library) (top : InnerRun)

/-- The states that the run `top` reaches, and those that the runs inside of it reach,
with the limits that hold then. The limits of `top` may be changed at any time. -/
inductive Reached : LexConfig → InnerRun → RunState → Prop
  | start (config : LexConfig) :
      Reached config top ((top.context library config).begin top.text)
  | configure {config : LexConfig} {s : RunState} (config' : LexConfig)
      (h : Reached config top s) : Reached config' top s
  | step {config : LexConfig} {r : InnerRun} {s : RunState} (h : Reached config r s)
      (hr : s.place.rest ≠ []) : Reached config r ((r.context library config).step s).2
  /-- A step of a run asks for a run inside of it, the tokens of which it takes over
  (`relex_eq`). -/
  | nest {config : LexConfig} {r : InnerRun} {s : RunState} {request : Delegate × Text}
      (h : Reached config r s) (hd : r.depth < config.maxDepth)
      (hr : request ∈ (r.context library config).delegations s) :
      Reached config (r.delegate library request)
        (((r.delegate library request).context library config).begin request.2)

end

/-- The run is with a table that has been built, and starts in defined states of it. -/
structure InnerRun.Rooted (library : Library) (r : InnerRun) : Prop where
  table : r.table.BuiltOn library
  initial : r.table.Defines r.initial.reverse

/-- The run keeps to its table in the state. -/
structure InnerRun.Confined (library : Library) (config : LexConfig) (r : InnerRun)
    (s : RunState) : Prop where
  stack : r.table.Carries s.stack
  /-- A step does not have to put the first stack back. -/
  refill : (r.context library config).refill s = s
  /-- While the rule that matches changes the stack, it is never empty. -/
  ops : ∀ rule m, (r.context library config).Selects s rule m →
    ∀ done, done <+: rule.ops → applyOps done s.stack ≠ []
  /-- Actions for groups meet a match with as many groups. -/
  groups : ∀ rule m, (r.context library config).Selects s rule m →
    ∀ list, rule.action = .groups list → rule.matcher.isSome ∧ m.groups.length = list.length
  /-- All states on the stack have names. -/
  named : (s.stack.reverse.filterMap r.table.stateName?).length = s.stack.length

section

variable {library : Library} {top r : InnerRun} {config : LexConfig} {s : RunState}

theorem Table.target_builtOn {t : Table} {d : Delegate} (hlib : ∀ t ∈ library, t.BuiltOn library)
    (ht : t.BuiltOn library) (hd : d.Closed library t) :
    (library.target t d.target).BuiltOn library := by
  cases htarget : d.target with
  | this => exact ht
  | table id =>
    have hlt := hd.known id htarget
    have hget : library.target t (.table id) = library[id] := by
      rw [Library.target, Library.table, List.getD_eq_getElem?_getD,
        List.getElem?_eq_getElem hlt, Option.getD_some]
    rw [hget]
    exact hlib _ (List.getElem_mem hlt)

theorem Table.Defines.carries {t : Table} {ids : List StateId} (h : t.Defines ids.reverse) :
    t.Carries ids := by
  obtain ⟨names, hne, hnames⟩ := h
  have hall := mapM_eq_ok_iff.mp hnames
  refine ⟨fun hnil => hne ?_, fun id hid => ?_⟩
  · rw [hnil] at hall
    exact List.forall₂_nil_right_iff.mp hall
  · obtain ⟨name, -, hname⟩ := exists_of_forall₂ hall.flip (List.mem_reverse.mpr hid)
    exact Table.has_of_stateId hname

theorem InnerRun.Rooted.carries (h : r.Rooted library) : r.table.Carries r.initial :=
  h.initial.carries

/-- The run that a step asks for is with a built table as well. -/
theorem InnerRun.Rooted.delegate (hlib : ∀ t ∈ library, t.BuiltOn library)
    (h : r.Rooted library) {request : Delegate × Text}
    (hr : request ∈ (r.context library config).delegations s) :
    (r.delegate library request).Rooted library := by
  unfold delegations requested at hr
  split at hr
  · cases hr
  · next rule m hsel =>
    have hclosed := (selects_iff.mpr hsel).closed h.table.closed
    have hd := hclosed.delegates _ (asks_portions hr)
    refine ⟨Table.target_builtOn hlib h.table hd, ?_⟩
    rw [InnerRun.delegate, List.reverse_reverse]
    exact hd.stack

/-- Every state that is reached keeps to its table. -/
theorem reached_on (hlib : ∀ t ∈ library, t.BuiltOn library) (htop : top.Rooted library)
    (h : Reached library top config r s) : r.Rooted library ∧ s.On r.table := by
  induction h with
  | start => exact ⟨htop, htop.carries, nofun⟩
  | configure _ _ ih => exact ih
  | @step config r s _ _ ih =>
    obtain ⟨hrooted, hon⟩ := ih
    have hstep : ((r.context library config).step s).2.On (r.context library config).table :=
      step_on hrooted.table.closed hrooted.carries hon
    exact ⟨hrooted, hstep⟩
  | nest _ _ hr ih =>
    have hrooted := ih.1.delegate hlib hr
    exact ⟨hrooted, hrooted.carries, nofun⟩

theorem Table.Carries.named {t : Table} {stack : List StateId} (h : t.Carries stack) :
    (stack.reverse.filterMap t.stateName?).length = stack.length := by
  have hall : stack.reverse.filterMap t.stateName?
      = stack.reverse.map fun id => (t.stateName? id).getD "" := by
    refine List.filterMap_eq_map_iff_forall_eq_some.mpr fun id hid => ?_
    have hlt : id.index < t.states.length := h.has id (List.mem_reverse.mp hid)
    rw [stateName?, List.getElem?_eq_getElem hlt]
    rfl
  rw [hall, List.length_map, List.length_reverse]

theorem matchAt?_groups {regex : Regex} {c : Cursor} {m : Regex.Match}
    (h : regex.matchAt? c = some m) : m.groups.length = regex.groupCount := by
  obtain ⟨path, -, rfl⟩ := Option.map_eq_some_iff.mp h
  simp

theorem InnerRun.Rooted.confined (hr : r.Rooted library) (hs : s.On r.table) :
    r.Confined library config s := by
  have hclosed : ∀ rule m, (r.context library config).Selects s rule m →
      rule.Closed library r.table := fun _ _ hsel => hsel.closed hr.table.closed
  refine ⟨hs.stack, refill_eq hs.stack.ne_nil, fun rule m hsel done hdone => ?_,
    fun rule m hsel list hlist => ?_, hs.stack.named⟩
  · refine (applyOps_carries hs.stack fun op hop => ?_).ne_nil
    exact (hclosed rule m hsel).ops op (hdone.subset hop)
  · obtain ⟨p, hp, hcount⟩ := (hclosed rule m hsel).groups list hlist
    obtain ⟨_, -, -, hmatch⟩ := hsel.mem
    rw [Rule.matchAt?, Option.mem_def.mp hp] at hmatch
    rw [Option.mem_def.mp hp, matchAt?_groups hmatch]
    exact ⟨rfl, hcount⟩

end

/-! ## Runs that are asked for tokens -/

theorem Reached.after {library : Library} {top r : InnerRun} {config : LexConfig} {s : RunState}
    (h : Reached library top config r s) (n : Nat) :
    Reached library top config r ((r.context library config).after n s) := by
  induction n generalizing s with
  | zero => exact h
  | succ n ih =>
    by_cases hr : s.place.rest = []
    · rwa [after_nil hr]
    · rw [after_succ hr]
      exact ih (h.step hr)

namespace Run

variable {library : Library} {table : Table} {states : List String} {text : Text}
  {config : LexConfig} {r : Run}

theorem start_rooted (ht : table.BuiltOn library)
    (h : (Run.start library table states text).map (·.withConfig config) = .ok r) :
    (r.outermost text).Rooted library := by
  obtain ⟨ids, hids, rfl⟩ := start_eq_ok_iff.mp h
  refine ⟨ht, _, ?_, hids.trans (congrArg _ (List.reverse_reverse ids).symm)⟩
  split
  · exact List.cons_ne_nil _ _
  · next hstates => exact fun hnil => hstates (List.isEmpty_iff.mpr hnil)

/-- A run with a table that has been built, whatever limits are set before or in between:
in every state that it or a run inside of it reaches, the run keeps to its own table. In
particular this is so whenever tokens have been asked for, and the names of the states on
the stack are all there. -/
theorem run_confined (hlib : ∀ t ∈ library, t.BuiltOn library) (ht : table.BuiltOn library)
    (h : (Run.start library table states text).map (·.withConfig config) = .ok r) :
    (∀ limits inner s, Reached library (r.outermost text) limits inner s →
      inner.Confined library limits s) ∧
    ∀ n, Reached library (r.outermost text) config (r.outermost text) (r.pull n).2.state ∧
      (r.pull n).2.stackNames.length = (r.pull n).2.state.stack.length := by
  have hrooted := start_rooted ht h
  have hconfined : ∀ limits inner s, Reached library (r.outermost text) limits inner s →
      inner.Confined library limits s := by
    intro limits inner s hreached
    obtain ⟨hinner, hs⟩ := reached_on hlib hrooted hreached
    exact hinner.confined hs
  refine ⟨hconfined, fun n => ?_⟩
  obtain ⟨hctx, hstate⟩ := start_context h
  obtain ⟨k, hk, hctx'⟩ := pull_after n r
  have hreached : Reached library (r.outermost text) config (r.outermost text)
      (r.pull n).2.state := by
    rw [hk, hstate, hctx]
    exact (Reached.start config).after k
  have htable : (r.pull n).2.table = r.table := congrArg RunContext.table hctx'
  refine ⟨hreached, ?_⟩
  rw [stackNames, htable]
  exact (hconfined _ _ _ hreached).named

/-- Names with dashes between them. -/
def dashed : Grammar :=
  ((Grammar.new "dashed").state rootState
    [.rule ⟨some (.regex "[a-z]+".toList), .kind .name, [.push "dash"]⟩]).state "dash"
    [.rule ⟨some (.regex "-".toList), .kind .operator, [.pop 1]⟩]

/-- A grammar that lexes what stands in brackets with the table `0` and what follows a
mark with its own, after both of which it changes its stack in every way. -/
def bracketed : Grammar :=
  ((Grammar.new "bracketed").state rootState
    [.rule ⟨some (.regex "<[a-z-]*>".toList), .delegate ((DelegateSpec.root (.table 0)).inState "dash"),
      [.pushCombined ["rest", rootState], .pushCurrent]⟩,
    .splice "rest"]).state "rest"
    [.rule ⟨some (.regex "(!)([a-z<>]*)".toList), .groups [.skip, .delegate (.root .this)],
      [.pop 5, .goto "rest"]⟩]

theorem run_confined_bracketed :
    ∃ inner table r, dashed.build [] = .ok inner ∧ bracketed.build [inner] = .ok table ∧
      (Run.start [inner] table [] "<a-b>!<c>".toList).map (·.withConfig ⟨.text, 2, 3⟩) = .ok r ∧
      ∀ n, (r.outermost "<a-b>!<c>".toList).Confined [inner] ⟨.text, 2, 3⟩ (r.pull n).2.state ∧
        (r.pull n).2.stackNames.length = (r.pull n).2.state.stack.length := by
  obtain ⟨inner, hinner, table, htable, r, hr⟩ : ∃ inner, dashed.build [] = .ok inner ∧
      ∃ table, bracketed.build [inner] = .ok table ∧
      ∃ r, (Run.start [inner] table [] "<a-b>!<c>".toList).map
        (·.withConfig ⟨.text, 2, 3⟩) = .ok r :=
    by decide +kernel
  have hlib : ∀ t ∈ [inner], t.BuiltOn [inner] :=
    List.forall_mem_singleton.mpr ⟨dashed, 0, hinner⟩
  obtain ⟨hconfined, hpulled⟩ := run_confined hlib ⟨bracketed, 1, htable⟩ hr
  exact ⟨inner, table, r, hinner, htable, hr, fun n =>
    ⟨hconfined _ _ _ (hpulled n).1, (hpulled n).2⟩⟩

end Run

end TableLexer
