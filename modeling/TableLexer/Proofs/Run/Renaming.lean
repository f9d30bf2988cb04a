import TableLexer.Proofs.Run.Stream

/-!
# Renamed states and other kinds

Two tables may have the same rules under other names: what one calls a state by its id, the
other calls by another id. And two runs may call a token by different kinds where no rule
has classified it. Neither is anything that a run goes by. If the rules of the tables
correspond, runs of both go through the same places with corresponding stacks, and their
tokens have the same offsets and texts and corresponding kinds, on every level of nesting.

Results:
1. `portions_renamed`, `tokensOf_renamed`: corresponding rules emit corresponding tokens.
2. `step_renamed`: steps go from corresponding states to corresponding states.
3. `relex_renamed`: nested runs correspond.
4. `Run.Renamed.pull`, `Run.Renamed.rest`: runs that are asked for tokens go on corresponding.
5. `start_renamed`: runs that are started correspond.
6. `Table.Renamed.runsAs`: so tables whose states are renamed have the same tokens.
-/

namespace TableLexer

open RunContext

/-! ## Definitions -/

/-- Which ids stand for the same state. Each one stands for at most one other. -/
structure Renaming where
  state : StateId → StateId → Prop
  unique : Relator.BiUnique state

/-- Each id stands for itself. -/
def Renaming.same : Renaming :=
  ⟨Eq, fun _ _ _ h h' => h.trans h'.symm, fun _ _ _ h h' => h.symm.trans h'⟩

/-- Which kinds may stand in the place of which ones. Every kind may stay as it is. -/
structure Relabelling where
  kind : Kind → Kind → Prop
  refl : ∀ a, kind a a

/-- All kinds stay as they are. -/
def Relabelling.same : Relabelling := ⟨Eq, Eq.refl⟩

section

variable (R : Renaming) (L : Relabelling)

/-- Runs over matched text with the same table start with corresponding states, those with
other tables with the same ones. -/
inductive Delegate.Renamed : Delegate → Delegate → Prop
  | this {stack stack' : List StateId} (h : List.Forall₂ R.state stack stack') :
      Renamed ⟨.this, stack⟩ ⟨.this, stack'⟩
  | table (id : TableId) (stack : List StateId) : Renamed ⟨.table id, stack⟩ ⟨.table id, stack⟩

inductive GroupAction.Renamed : GroupAction → GroupAction → Prop
  | kind (kind : Kind) : Renamed (.kind kind) (.kind kind)
  | skip : Renamed .skip .skip
  | delegate {d d' : Delegate} (h : d.Renamed R d') : Renamed (.delegate d) (.delegate d')

inductive Action.Renamed : Action → Action → Prop
  | nothing : Renamed .nothing .nothing
  | kind (kind : Kind) : Renamed (.kind kind) (.kind kind)
  | groups {groups groups' : List GroupAction}
      (h : List.Forall₂ (GroupAction.Renamed R) groups groups') :
      Renamed (.groups groups) (.groups groups')
  | delegate {d d' : Delegate} (h : d.Renamed R d') : Renamed (.delegate d) (.delegate d')

inductive StackOp.Renamed : StackOp → StackOp → Prop
  | push {id id' : StateId} (h : R.state id id') : Renamed (.push id) (.push id')
  | pushCurrent : Renamed .pushCurrent .pushCurrent
  | pop (count : Nat) : Renamed (.pop count) (.pop count)
  | goto {id id' : StateId} (h : R.state id id') : Renamed (.goto id) (.goto id')

/-- The rules match the same and do the same with corresponding states. The slots of their
matchers do not count. -/
structure Rule.Renamed (r r' : Rule) : Prop where
  matcher : r'.matcher.map Pooled.matcher = r.matcher.map Pooled.matcher
  action : r.action.Renamed R r'.action
  ops : List.Forall₂ (StackOp.Renamed R) r.ops r'.ops

/-- Corresponding states of the tables have corresponding rules and the same name. -/
structure Table.Renamed (t t' : Table) : Prop where
  rules : ∀ id id', R.state id id' → List.Forall₂ (Rule.Renamed R) (t.rules id) (t'.rules id')
  stateId : ∀ name, Option.Rel R.state (t.stateId name).toOption (t'.stateId name).toOption
  stateName? : ∀ id id', R.state id id' → t'.stateName? id' = t.stateName? id
  resetOnNewline : t'.resetOnNewline = t.resetOnNewline

inductive Label.Renamed : Label → Label → Prop
  | kind {a b : Kind} (h : L.kind a b) : Renamed (.kind a) (.kind b)
  | relexed {d d' : Delegate} (h : d.Renamed R d') : Renamed (.relexed d) (.relexed d')

structure Portion.Renamed (p p' : Portion) : Prop where
  start : p'.start = p.start
  label : p.label.Renamed R L p'.label
  text : p'.text = p.text

structure Emission.Renamed (e e' : Emission) : Prop where
  place : e'.place = e.place
  latest : List.Forall₂ (Portion.Renamed R L) e.latest e'.latest

/-- The tokens differ at most in their kinds, and these correspond. -/
structure Token.Relabelled (t t' : Token) : Prop where
  start : t'.start = t.start
  kind : L.kind t.kind t'.kind
  text : t'.text = t.text

structure Streak.Renamed (s s' : Streak) : Prop where
  pos : s'.pos = s.pos
  steps : s'.steps = s.steps
  stack : List.Forall₂ R.state s.stack s'.stack

/-- The runs are at the same place with corresponding stacks. -/
structure RunState.Renamed (s s' : RunState) : Prop where
  place : s'.place = s.place
  stack : List.Forall₂ R.state s.stack s'.stack
  streak : Option.Rel (Streak.Renamed R) s.streak s'.streak

/-- The limits are the same ones, and what no rule classifies gets corresponding kinds. -/
structure LexConfig.Relabelled (c c' : LexConfig) : Prop where
  fallback : L.kind c.fallback c'.fallback
  maxDepth : c'.maxDepth = c.maxDepth
  maxEmptySteps : c'.maxEmptySteps = c.maxEmptySteps

/-- The runs have corresponding tables, stacks to start with and limits, and so have the
runs inside of them. -/
structure RunContext.Renamed (ctx ctx' : RunContext) : Prop where
  table : ctx.table.Renamed R ctx'.table
  config : ctx.config.Relabelled L ctx'.config
  initial : List.Forall₂ R.state ctx.initial ctx'.initial
  relex : ∀ d d' text, d.Renamed R d' →
    List.Forall₂ (Token.Relabelled L) (ctx.relex d text) (ctx'.relex d' text)

/-- The tokens of two steps, and the states after them, correspond. -/
structure RunContext.OutcomeRenamed (x x' : List Token × RunState) : Prop where
  tokens : List.Forall₂ (Token.Relabelled L) x.1 x'.1
  state : x.2.Renamed R x'.2

/-- The runs are in corresponding states and have corresponding tokens in their queues. -/
structure Run.Renamed (r r' : Run) : Prop where
  context : r.context.Renamed R L r'.context
  state : r.state.Renamed R r'.state
  queue : List.Forall₂ (Token.Relabelled L) r.queue r'.queue

end

variable {R : Renaming} {L : Relabelling}

/-! ## Emission -/

section

variable {fallback fallback' : Kind} {label label' : Label} {piece : Extent} {stop : Nat}
  {e e' : Emission} {p p' : Portion} {ctx ctx' : RunContext} {m : Regex.Match} {place : Cursor}

theorem Emission.Renamed.fillTo (h : e.Renamed R L e') (hf : L.kind fallback fallback') :
    (e.fillTo fallback stop).Renamed R L (e'.fillTo fallback' stop) := by
  unfold Emission.fillTo
  rw [h.place]
  split
  · exact ⟨rfl, .cons ⟨rfl, .kind hf, rfl⟩ h.latest⟩
  · exact h

theorem Emission.Renamed.emit (h : e.Renamed R L e') (hf : L.kind fallback fallback')
    (hl : label.Renamed R L label') :
    (e.emit fallback label piece).Renamed R L (e'.emit fallback' label' piece) := by
  have hfill : (e.fillTo fallback piece.start).Renamed R L (e'.fillTo fallback' piece.start) :=
    h.fillTo hf
  unfold Emission.emit
  rw [h.place]
  split
  · exact h
  · dsimp only
    rw [hfill.place]
    exact ⟨rfl, .cons ⟨rfl, hl, rfl⟩ hfill.latest⟩

theorem emitGroup_renamed (hc : ctx.config.Relabelled L ctx'.config) {g g' : GroupAction}
    (hg : g.Renamed R g') (piece : Option Extent) (h : e.Renamed R L e') :
    (ctx.emitGroup e (g, piece)).Renamed R L (ctx'.emitGroup e' (g', piece)) := by
  unfold emitGroup
  cases piece with
  | none => exact h
  | some piece =>
    cases hg with
    | kind kind => exact h.emit hc.fallback (.kind (L.refl kind))
    | skip => exact h
    | delegate hd => exact h.emit hc.fallback (.relexed hd)

theorem emitGroups_renamed (hc : ctx.config.Relabelled L ctx'.config)
    {groups groups' : List GroupAction} (hg : List.Forall₂ (GroupAction.Renamed R) groups groups')
    (pieces : List (Option Extent)) (h : e.Renamed R L e') :
    ((groups.zip pieces).foldl ctx.emitGroup e).Renamed R L
      ((groups'.zip pieces).foldl ctx'.emitGroup e') := by
  induction hg generalizing pieces e e' with
  | nil => exact h
  | cons hfirst _ ih =>
    cases pieces with
    | nil => exact h
    | cons piece pieces => exact ih pieces (emitGroup_renamed hc hfirst piece h)

theorem emitAction_renamed (hc : ctx.config.Relabelled L ctx'.config) {a a' : Action}
    (ha : a.Renamed R a') (m : Regex.Match) (place : Cursor) :
    (ctx.emitAction a m place).Renamed R L (ctx'.emitAction a' m place) := by
  have hstart : (Emission.start place).Renamed R L (Emission.start place) := ⟨rfl, .nil⟩
  cases ha with
  | nothing => exact hstart
  | kind kind => exact hstart.emit hc.fallback (.kind (L.refl kind))
  | groups hg => exact emitGroups_renamed hc hg m.groups hstart
  | delegate hd => exact hstart.emit hc.fallback (.relexed hd)

theorem portions_renamed (hc : ctx.config.Relabelled L ctx'.config) {a a' : Action}
    (ha : a.Renamed R a') (m : Regex.Match) (place : Cursor) :
    List.Forall₂ (Portion.Renamed R L) (ctx.portions a m place) (ctx'.portions a' m place) :=
  List.rel_reverse ((emitAction_renamed hc ha m place).fillTo hc.fallback).latest

theorem Token.Relabelled.shift {t t' : Token} (h : t.Relabelled L t') (base : Nat) :
    (t.shift base).Relabelled L (t'.shift base) :=
  ⟨congrArg (base + ·) h.start, h.kind, h.text⟩

theorem render_renamed (h : ctx.Renamed R L ctx') (hp : p.Renamed R L p') :
    List.Forall₂ (Token.Relabelled L) (ctx.render p) (ctx'.render p') := by
  obtain ⟨start, label, text⟩ := p
  obtain ⟨start', label', text'⟩ := p'
  obtain ⟨rfl, hlabel, rfl⟩ := hp
  cases hlabel with
  | kind hkind => exact .cons ⟨rfl, hkind, rfl⟩ .nil
  | relexed hd =>
    have hshift : Relator.LiftFun (Token.Relabelled L) (Token.Relabelled L)
      (Token.shift start') (Token.shift start') := fun _ _ ht => ht.shift start'
    exact List.rel_map hshift (h.relex _ _ _ hd)

theorem tokensOf_renamed (h : ctx.Renamed R L ctx') {a a' : Action} (ha : a.Renamed R a')
    (m : Regex.Match) (place : Cursor) :
    List.Forall₂ (Token.Relabelled L) (ctx.tokensOf a m place) (ctx'.tokensOf a' m place) :=
  List.rel_flatMap (portions_renamed h.config ha m place) fun _ _ hp => render_renamed h hp

end

/-! ## Steps -/

section

variable {stack stack' before before' : List StateId} {s s' : RunState} {kind kind' : Kind}
  {ctx ctx' : RunContext} {m : Regex.Match}

/-- Of two pairs of corresponding stacks, both are equal or neither is. -/
theorem Renaming.stack_eq_iff (h : List.Forall₂ R.state stack stack')
    (hb : List.Forall₂ R.state before before') : stack' = before' ↔ stack = before :=
  (Relator.rel_eq R.unique.forall₂ h hb).symm

theorem applyOp_renamed {op op' : StackOp} (h : List.Forall₂ R.state stack stack')
    (hop : op.Renamed R op') : List.Forall₂ R.state (applyOp stack op) (applyOp stack' op') := by
  unfold applyOp
  cases hop with
  | push hid => exact .cons hid h
  | pushCurrent =>
    cases h with
    | nil => exact .nil
    | cons htop hbelow => exact .cons htop (.cons htop hbelow)
  | pop count =>
    rw [h.length_eq]
    exact List.forall₂_drop _ h
  | goto hid =>
    refine .cons hid ?_
    cases h with
    | nil => exact .nil
    | cons _ hbelow => exact hbelow

theorem applyOps_renamed {ops ops' : List StackOp} (h : List.Forall₂ R.state stack stack')
    (hops : List.Forall₂ (StackOp.Renamed R) ops ops') :
    List.Forall₂ R.state (applyOps ops stack) (applyOps ops' stack') := by
  have hop : Relator.LiftFun (List.Forall₂ R.state)
      (Relator.LiftFun (StackOp.Renamed R) (List.Forall₂ R.state)) applyOp applyOp :=
    fun _ _ h _ _ hop => applyOp_renamed h hop
  exact List.rel_foldl hop h hops

theorem takeChar_renamed (h : s.Renamed R s') (hkind : L.kind kind kind') :
    OutcomeRenamed R L (takeChar kind s) (takeChar kind' s') := by
  unfold takeChar
  rw [h.place]
  split
  · exact ⟨.nil, h⟩
  · exact ⟨.cons ⟨rfl, hkind, rfl⟩ .nil, rfl, h.stack, h.streak⟩

theorem lengthen_renamed (h : s.Renamed R s') (hb : List.Forall₂ R.state before before') :
    (lengthen before s).Renamed R (lengthen before' s') := by
  have hstreak := h.streak
  unfold lengthen
  rw [h.place]
  generalize s.streak = streak, s'.streak = streak' at hstreak
  cases hstreak with
  | none => exact ⟨rfl, rfl, hb⟩
  | some hsome =>
    dsimp only
    rw [hsome.pos, hsome.steps]
    split
    · exact ⟨rfl, rfl, hsome.stack⟩
    · exact ⟨rfl, rfl, hb⟩

/-- Whole stacks are compared here, which is why ids have to stand for one another uniquely. -/
theorem afterEmpty_renamed (h : ctx.Renamed R L ctx') (hs : s.Renamed R s')
    (hb : List.Forall₂ R.state before before') :
    OutcomeRenamed R L (ctx.afterEmpty before s) (ctx'.afterEmpty before' s') := by
  have hlengthen := lengthen_renamed hs hb
  have hsame := Renaming.stack_eq_iff hs.stack hb
  unfold afterEmpty forceChar
  by_cases hstack : s.stack = before
  · rw [if_pos hstack, if_pos (hsame.mpr hstack)]
    exact takeChar_renamed hs h.config.fallback
  · rw [if_neg hstack, if_neg (mt hsame.mp hstack), h.config.maxEmptySteps]
    dsimp only
    rw [hlengthen.steps]
    split
    · exact takeChar_renamed ⟨hs.place, hlengthen.stack, .none⟩ h.config.fallback
    · exact ⟨.nil, hs.place, hs.stack, .some hlengthen⟩

theorem applyRule_renamed (h : ctx.Renamed R L ctx') {rule rule' : Rule}
    (hrule : rule.Renamed R rule') (m : Regex.Match) (hs : s.Renamed R s') :
    OutcomeRenamed R L (ctx.applyRule rule m s) (ctx'.applyRule rule' m s') := by
  have htokens := tokensOf_renamed h hrule.action m s.place
  have hchanged : RunState.Renamed R { s with stack := applyOps rule.ops s.stack }
      { s' with stack := applyOps rule'.ops s'.stack } :=
    ⟨hs.place, applyOps_renamed hs.stack hrule.ops, hs.streak⟩
  have hempty := afterEmpty_renamed h hchanged hs.stack
  unfold applyRule
  dsimp only
  rw [hs.place] at hempty ⊢
  split
  · exact ⟨List.rel_append htokens hempty.tokens, hempty.state⟩
  · exact ⟨htokens, rfl, hchanged.stack, hchanged.streak⟩

theorem resetStack_renamed (h : ctx.Renamed R L ctx') :
    List.Forall₂ R.state ctx.resetStack ctx'.resetStack := by
  have hroot := h.table.stateId rootState
  unfold resetStack
  cases hs : ctx.table.stateId rootState with
  | ok root =>
    cases hs' : ctx'.table.stateId rootState with
    | ok root' =>
      rw [hs, hs'] at hroot
      cases hroot with
      | some hroot => exact .cons hroot .nil
    | error e =>
      rw [hs, hs'] at hroot
      cases hroot
  | error e =>
    cases hs' : ctx'.table.stateId rootState with
    | ok root' =>
      rw [hs, hs'] at hroot
      cases hroot
    | error e' => exact h.initial

theorem noMatch_renamed (h : ctx.Renamed R L ctx') (hs : s.Renamed R s') :
    OutcomeRenamed R L (ctx.noMatch s) (ctx'.noMatch s') := by
  unfold noMatch forceChar
  rw [h.table.resetOnNewline, hs.place]
  split
  · exact takeChar_renamed ⟨rfl, resetStack_renamed h, hs.streak⟩ (L.refl _)
  · exact takeChar_renamed hs h.config.fallback

theorem refill_renamed (h : ctx.Renamed R L ctx') (hs : s.Renamed R s') :
    (ctx.refill s).Renamed R (ctx'.refill s') := by
  obtain ⟨place, stack, streak⟩ := s
  obtain ⟨place', stack', streak'⟩ := s'
  obtain ⟨hplace, hstack, hstreak⟩ := hs
  cases hstack with
  | nil => exact ⟨hplace, h.initial, hstreak⟩
  | cons htop hbelow => exact ⟨hplace, .cons htop hbelow, hstreak⟩

/-- Steps from corresponding states give corresponding tokens and go to corresponding
states. -/
theorem step_renamed (h : ctx.Renamed R L ctx') (hs : s.Renamed R s') :
    OutcomeRenamed R L (ctx.step s) (ctx'.step s') := by
  have hrefill := refill_renamed h hs
  unfold step
  generalize ctx.refill s = s, ctx'.refill s' = s' at hrefill
  have hstack := hrefill.stack
  dsimp only
  cases hs : s.stack with
  | nil =>
    rw [hs, List.forall₂_nil_left_iff] at hstack
    rw [hstack]
    exact takeChar_renamed hrefill h.config.fallback
  | cons top below =>
    rw [hs] at hstack
    obtain ⟨top', below', htop, -, hs'⟩ := List.forall₂_cons_left_iff.mp hstack
    have hfirst := firstMatch?_rel (fun _ _ hr => Rule.matchAt?_congr hr.matcher s.place)
      (h.table.rules top top' htop)
    rw [hs', hrefill.place]
    dsimp only
    generalize firstMatch? s.place (ctx.table.rules top) = found,
      firstMatch? s.place (ctx'.table.rules top') = found' at hfirst
    cases hfirst with
    | none => exact noMatch_renamed h hrefill
    | @some x x' hx =>
      obtain ⟨hrule, hm⟩ := hx
      dsimp only
      rw [hm]
      exact applyRule_renamed h hrule x.2 hrefill

theorem exhaust_renamed (h : ctx.Renamed R L ctx') (hs : s.Renamed R s') (fuel : Nat) :
    List.Forall₂ (Token.Relabelled L) (ctx.exhaust fuel s) (ctx'.exhaust fuel s') := by
  induction fuel generalizing s s' with
  | zero => exact .nil
  | succ fuel ih =>
    have hstep := step_renamed h hs
    unfold exhaust
    rw [hs.place]
    split
    · exact .nil
    · exact List.rel_append hstep.tokens (ih hstep.state)

theorem tokensOfText_renamed (h : ctx.Renamed R L ctx') (text : Text) :
    List.Forall₂ (Token.Relabelled L) (ctx.tokensOfText text) (ctx'.tokensOfText text) := by
  have hbegin : RunState.Renamed R ⟨Cursor.ofText text, ctx.initial, none⟩
      ⟨Cursor.ofText text, ctx'.initial, none⟩ := ⟨rfl, h.initial, .none⟩
  unfold tokensOfText enough patience
  rw [h.config.maxEmptySteps]
  exact exhaust_renamed h hbegin _

end

/-! ## Nested runs -/

section

variable {t t' : Table} {d d' : Delegate} {config config' : LexConfig}

theorem Delegate.Renamed.refl (d : Delegate) : d.Renamed .same d := by
  obtain ⟨target, stack⟩ := d
  cases target with
  | this => exact .this (List.forall₂_same.mpr fun _ _ => rfl)
  | table id => exact .table id stack

theorem GroupAction.Renamed.refl (a : GroupAction) : a.Renamed .same a := by
  cases a with
  | kind kind => exact .kind kind
  | skip => exact .skip
  | delegate d => exact .delegate (.refl d)

theorem Action.Renamed.refl (a : Action) : a.Renamed .same a := by
  cases a with
  | nothing => exact .nothing
  | kind kind => exact .kind kind
  | groups groups => exact .groups (List.forall₂_same.mpr fun a _ => .refl a)
  | delegate d => exact .delegate (.refl d)

theorem StackOp.Renamed.refl (op : StackOp) : op.Renamed .same op := by
  cases op with
  | push id => exact .push rfl
  | pushCurrent => exact .pushCurrent
  | pop count => exact .pop count
  | goto id => exact .goto rfl

theorem Rule.Renamed.refl (r : Rule) : r.Renamed .same r :=
  ⟨rfl, .refl r.action, List.forall₂_same.mpr fun op _ => .refl op⟩

theorem Table.Renamed.refl (t : Table) : t.Renamed .same t where
  rules := by
    rintro id _ rfl
    exact List.forall₂_same.mpr fun r _ => .refl r
  stateId name := by
    cases t.stateId name with
    | error e => exact .none
    | ok id => exact .some rfl
  stateName? := by
    rintro id _ rfl
    rfl
  resetOnNewline := rfl

/-- Nested runs correspond. Those with other tables have the same tables, in which each id stands
for itself. The induction is on the levels that are left: from one to the next the tables change,
and so does the renaming. -/
theorem relex_renamed (library : Library) (hc : config.Relabelled L config') (depth : Nat)
    (ht : t.Renamed R t') (hd : d.Renamed R d') (text : Text) :
    List.Forall₂ (Token.Relabelled L) (relex library config depth t d text)
      (relex library config' depth t' d' text) := by
  induction hn : config.maxDepth - depth generalizing R depth t t' d d' text with
  | zero =>
    have hmax := hc.maxDepth
    rw [relex, relex, if_pos (by omega), if_pos (by omega)]
    exact .cons ⟨rfl, hc.fallback, rfl⟩ .nil
  | succ n ih =>
    have hmax := hc.maxDepth
    rw [relex, relex, if_neg (by omega), if_neg (by omega)]
    cases hd with
    | this hstack =>
      refine tokensOfText_renamed (R := R) ?_ text
      exact ⟨ht, hc, List.rel_reverse hstack,
        fun _ _ text hd => ih (depth + 1) ht hd text (by omega)⟩
    | table id stack =>
      have hsame : List.Forall₂ Renaming.same.state stack.reverse stack.reverse :=
        List.forall₂_same.mpr fun _ _ => rfl
      refine tokensOfText_renamed (R := .same) ?_ text
      exact ⟨.refl _, hc, hsame, fun _ _ text hd => ih (depth + 1) (.refl _) hd text (by omega)⟩

/-- Corresponding states of the two tables make up the same names. -/
theorem Table.Renamed.stackNames (h : t.Renamed R t') {stack stack' : List StateId}
    (hs : List.Forall₂ R.state stack stack') :
    stack'.filterMap t'.stateName? = stack.filterMap t.stateName? := by
  induction hs with
  | nil => rfl
  | cons hid _ ih => rw [List.filterMap_cons, List.filterMap_cons, h.stateName? _ _ hid, ih]

end

/-! ## Runs that are asked for tokens -/

namespace Run

variable {r r' : Run}

namespace Renamed

theorem abreast : Abreast (Token.Relabelled L) (Run.Renamed R L) where
  queue h := h.queue
  ended h := by rw [h.state.place]
  stepped h _ := by
    have hstep := step_renamed h.context h.state
    exact ⟨h.context, hstep.state, hstep.tokens⟩
  given h ht := ⟨h.context, h.state, ht⟩

/-- The tokens that are asked for correspond, and so do the runs after them. -/
theorem pull (h : r.Renamed R L r') (n : Nat) :
    List.Forall₂ (Token.Relabelled L) (r.pull n).1 (r'.pull n).1 ∧
      (r.pull n).2.Renamed R L (r'.pull n).2 := abreast.pull h n

theorem rest (h : r.Renamed R L r') : List.Forall₂ (Token.Relabelled L) r.rest r'.rest :=
  abreast.rest h

theorem position (h : r.Renamed R L r') : r'.position = r.position :=
  congrArg Cursor.pos h.state.place

theorem stackNames (h : r.Renamed R L r') : r'.stackNames = r.stackNames :=
  h.context.table.stackNames (List.rel_reverse h.state.stack)

end Renamed

/-! ## Runs that are started -/

variable {library : Library} {t t' : Table} {config config' : LexConfig}

/-- The same names lead to corresponding states, or to none in both tables. -/
theorem mapM_stateId_renamed (ht : t.Renamed R t') (names : List String) :
    Option.Rel (List.Forall₂ R.state) (names.mapM t.stateId).toOption
      (names.mapM t'.stateId).toOption := by
  induction names with
  | nil => exact .some .nil
  | cons name names ih =>
    have hname := ht.stateId name
    rw [List.mapM_cons, List.mapM_cons]
    generalize t.stateId name = x, t'.stateId name = x' at hname
    generalize names.mapM t.stateId = y, names.mapM t'.stateId = y' at ih
    rcases x with _ | id <;> rcases x' with _ | id' <;> cases hname
    · exact .none
    · rcases y with _ | ids <;> rcases y' with _ | ids' <;> cases ih
      · exact .none
      · exact .some (.cons ‹_› ‹_›)

/-- Runs that are started with the same names correspond, if they start. -/
theorem start_renamed (library : Library) (ht : t.Renamed R t')
    (hc : config.Relabelled L config') (states : List String) (text : Text) :
    Option.Rel (Run.Renamed R L)
      ((Run.start library t states text).map (·.withConfig config)).toOption
      ((Run.start library t' states text).map (·.withConfig config')).toOption := by
  have hids := mapM_stateId_renamed ht (if states.isEmpty then [rootState] else states)
  unfold Run.start
  generalize (if states.isEmpty then [rootState] else states).mapM t.stateId = x,
    (if states.isEmpty then [rootState] else states).mapM t'.stateId = x' at hids
  rcases x with _ | ids <;> rcases x' with _ | ids' <;> cases hids
  · exact .none
  · have hstack := List.rel_reverse ‹List.Forall₂ R.state ids ids'›
    refine .some ⟨⟨ht, hc, hstack, ?_⟩, ⟨rfl, hstack, .none⟩, .nil⟩
    exact fun _ _ text hd => relex_renamed library hc 0 ht hd text

end Run

/-! ## What runs show -/

section

variable {library : Library} {t t' : Table}

theorem Token.eq_of_relabelled {l l' : List Token}
    (h : List.Forall₂ (Token.Relabelled .same) l l') : l' = l := by
  have heq : List.Forall₂ (· = ·) l l' := h.imp fun t t' ht => by
    obtain ⟨start, kind, text⟩ := t
    obtain ⟨rfl, rfl, rfl⟩ := ht
    rfl
  rw [List.forall₂_eq_eq_eq] at heq
  exact heq.symm

/-- The runs show the same tokens and, when some have been asked for, the same place and the
same names of states. -/
structure Run.ShowsSame (r r' : Run) : Prop where
  rest : r'.rest = r.rest
  given : ∀ n, (r'.pull n).1 = (r.pull n).1
  position : ∀ n, (r'.pull n).2.position = (r.pull n).2.position
  stackNames : ∀ n, (r'.pull n).2.stackNames = (r.pull n).2.stackNames

theorem Run.Renamed.showsSame {r r' : Run} (h : r.Renamed R .same r') : r.ShowsSame r' where
  rest := Token.eq_of_relabelled h.rest
  given n := Token.eq_of_relabelled (h.pull n).1
  position n := (h.pull n).2.position
  stackNames n := (h.pull n).2.stackNames

/-- Runs over any text start in the same states of both tables, and show the same with all
limits. -/
def Table.RunsAs (library : Library) (t t' : Table) : Prop :=
  ∀ (states : List String) (text : Text) (config : LexConfig),
    Option.Rel Run.ShowsSame
      ((Run.start library t states text).map (·.withConfig config)).toOption
      ((Run.start library t' states text).map (·.withConfig config)).toOption

theorem Table.Renamed.runsAs (h : t.Renamed R t') (library : Library) : t.RunsAs library t' := by
  intro states text config
  have hconfig : config.Relabelled .same config := ⟨rfl, rfl, rfl⟩
  have hstart := Run.start_renamed library h hconfig states text
  generalize ((Run.start library t states text).map (·.withConfig config)).toOption = x,
    ((Run.start library t' states text).map (·.withConfig config)).toOption = x' at hstart
  cases hstart with
  | none => exact .none
  | some hr => exact .some hr.showsSame

end

end TableLexer
