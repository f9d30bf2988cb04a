import TableLexer.Run.Config
import TableLexer.Run.Emission
import TableLexer.Table

/-!
# Steps of a run

A run reads a text from left to right with a stack of states. A step tries the
rules of the state on top, in order, at the present place. The first one that
matches emits its tokens, changes the stack and consumes its match. If none does,
one character is emitted with the fallback kind.

A match may consume nothing. If the stack then stays as it is, a character is
forced, and if too many such steps follow each other at one place, the stack is
put back to what it was before them and a character is forced as well. So every
run comes to the end of its text.
-/

namespace TableLexer

/-- Steps in a row that have consumed nothing: where, how many, and the stack before
the first of them. -/
structure Streak where
  pos : Nat
  steps : Nat
  stack : List StateId
  deriving DecidableEq, Repr

/-- The state of a run: the place in the text, the stack with its top first, and the
streak of empty steps if there was one. -/
structure RunState where
  place : Cursor
  stack : List StateId
  streak : Option Streak
  deriving DecidableEq, Repr, Inhabited

/-- What a run works with: its table, the limits, the stack it started with and how a
piece of text is lexed again. -/
structure RunContext where
  table : Table
  config : LexConfig
  initial : List StateId
  relex : Delegate → Text → List Token

namespace RunContext

variable (ctx : RunContext)

/-! ## Tokens of a match -/

/-- Emits a capture group, if it took part in the match. -/
def emitGroup (e : Emission) (group : GroupAction × Option Extent) : Emission :=
  match group with
  | (_, none) => e
  | (.skip, _) => e
  | (.kind kind, some piece) => e.emit ctx.config.fallback (.kind kind) piece
  | (.delegate d, some piece) => e.emit ctx.config.fallback (.relexed d) piece

/-- Emits what an action makes of a match that starts at a place. -/
def emitAction (action : Action) (found : Regex.Match) (place : Cursor) : Emission :=
  let start := Emission.start place
  match action with
  | .nothing => start
  | .kind kind => start.emit ctx.config.fallback (.kind kind) found.whole
  | .delegate d => start.emit ctx.config.fallback (.relexed d) found.whole
  | .groups actions => (actions.zip found.groups).foldl ctx.emitGroup start

/-- The portions of a match that starts at a place. -/
def portions (action : Action) (found : Regex.Match) (place : Cursor) : List Portion :=
  ((ctx.emitAction action found place).fillTo ctx.config.fallback found.whole.stop).portions

/-- The tokens of a portion. -/
def render (p : Portion) : List Token :=
  match p.label with
  | .kind kind => [⟨p.start, kind, p.text⟩]
  | .relexed d => (ctx.relex d p.text).map (Token.shift p.start)

/-- The tokens of a match that starts at a place. -/
def tokensOf (action : Action) (found : Regex.Match) (place : Cursor) : List Token :=
  (ctx.portions action found place).flatMap ctx.render

/-! ## The stack -/

/-- One change of a stack whose top comes first. -/
def applyOp (stack : List StateId) : StackOp → List StateId
  | .push id => id :: stack
  | .pushCurrent =>
      match stack with
      | top :: _ => top :: stack
      | [] => []
  | .pop count => stack.drop (min count (stack.length - 1))
  | .goto id => id :: stack.tail

def applyOps (ops : List StackOp) (stack : List StateId) : List StateId :=
  ops.foldl applyOp stack

/-! ## Steps -/

/-- Emits the next character with a kind. -/
def takeChar (kind : Kind) (s : RunState) : List Token × RunState :=
  match s.place.rest with
  | [] => ([], s)
  | c :: _ => ([⟨s.place.pos, kind, [c]⟩], { s with place := s.place.next })

/-- Emits the next character with the fallback kind. -/
def forceChar (s : RunState) : List Token × RunState := takeChar ctx.config.fallback s

/-- The streak of empty steps after one more, before which the stack was `before`. -/
def lengthen (before : List StateId) (s : RunState) : Streak :=
  match s.streak with
  | some streak =>
      if streak.pos = s.place.pos then { streak with steps := streak.steps + 1 }
      else ⟨s.place.pos, 1, before⟩
  | none => ⟨s.place.pos, 1, before⟩

/-- Goes on after a match that consumed nothing and before which the stack was
`before`. -/
def afterEmpty (before : List StateId) (s : RunState) : List Token × RunState :=
  if s.stack = before then ctx.forceChar s
  else
    let streak := lengthen before s
    if ctx.config.maxEmptySteps < streak.steps then
      ctx.forceChar { s with stack := streak.stack, streak := none }
    else ([], { s with streak := some streak })

/-- Applies a rule that has matched. -/
def applyRule (rule : Rule) (found : Regex.Match) (s : RunState) : List Token × RunState :=
  let tokens := ctx.tokensOf rule.action found s.place
  let changed := { s with stack := applyOps rule.ops s.stack }
  if found.whole.isEmpty then
    let (forced, s) := ctx.afterEmpty s.stack changed
    (tokens ++ forced, s)
  else (tokens, { changed with place := (s.place.takeTo found.whole.stop).2 })

/-- The stack to which a line feed that no rule matches brings a run back. -/
def resetStack : List StateId :=
  match ctx.table.stateId rootState with
  | .ok root => [root]
  | .error _ => ctx.initial

/-- Goes on where no rule matches. -/
def noMatch (s : RunState) : List Token × RunState :=
  if ctx.table.resetOnNewline ∧ s.place.rest.head? = some '\n' then
    takeChar .text { s with stack := ctx.resetStack }
  else ctx.forceChar s

/-- The first rule that matches at a place, with its match. -/
def firstMatch? (place : Cursor) (rules : List Rule) : Option (Rule × Regex.Match) :=
  rules.findSome? fun rule => (rule.matchAt? place).map (rule, ·)

/-- A run whose stack is empty goes back to the stack it started with. -/
def refill (s : RunState) : RunState :=
  if s.stack.isEmpty then { s with stack := ctx.initial } else s

/-- One step of a run that is not at the end of its text. -/
def step (s : RunState) : List Token × RunState :=
  let s := ctx.refill s
  match s.stack with
  | [] => ctx.forceChar s
  | top :: _ =>
      match firstMatch? s.place (ctx.table.rules top) with
      | some (rule, found) => ctx.applyRule rule found s
      | none => ctx.noMatch s

/-- The number of steps among which one consumes a character, unless the text ends. -/
def patience : Nat := ctx.config.maxEmptySteps + 1

/-- A number of steps that is enough to come to the end of a text with so many
characters left. -/
def enough (length : Nat) : Nat := ctx.patience * (length + 1)

/-- The tokens of at most `fuel` steps. -/
def exhaust : (fuel : Nat) → RunState → List Token
  | 0, _ => []
  | fuel + 1, s =>
      if s.place.rest.isEmpty then []
      else
        let (tokens, s) := ctx.step s
        tokens ++ exhaust fuel s

/-- The tokens of a run over a whole text. -/
def tokensOfText (text : Text) : List Token :=
  ctx.exhaust (ctx.enough text.length) ⟨Cursor.ofText text, ctx.initial, none⟩

end RunContext

end TableLexer
