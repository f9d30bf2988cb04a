import TableLexer.Grammar
import TableLexer.Pattern.Pool

/-!
# Tables

A table is a grammar made ready to run: each state has its full list of rules,
patterns are compiled and states are referred to by position. Synthetic states,
which combine the rules of others, follow the defined ones and cannot be looked up
by name.

Tables that refer to each other live in a *library* and do so by their position
there.
-/

namespace TableLexer

/-- The position of a state in its table, a number without an upper bound. In 32 bits it would
saturate, and a table of more than `2 ^ 32` states would have states that share an id. -/
structure StateId where
  index : Nat
  deriving DecidableEq, Repr, Inhabited

/-- A run over matched text, with the states of its table that it starts with, the
bottom first. -/
structure Delegate where
  target : Target
  stack : List StateId
  deriving DecidableEq, Repr

inductive GroupAction where
  | kind (kind : Kind)
  | skip
  | delegate (delegate : Delegate)
  deriving DecidableEq, Repr

inductive Action where
  | nothing
  | kind (kind : Kind)
  | groups (groups : List GroupAction)
  | delegate (delegate : Delegate)
  deriving DecidableEq, Repr

/-- A change of the stack. `pop` removes up to that many states but never the last
one. -/
inductive StackOp where
  | push (state : StateId)
  | pushCurrent
  | pop (count : Nat)
  | goto (state : StateId)
  deriving DecidableEq, Repr

/-- A rule with its matcher. Without one it always matches the empty text. -/
structure Rule where
  matcher : Option Pooled
  action : Action
  ops : List StackOp
  deriving DecidableEq, Repr

namespace Rule

def isDefault (r : Rule) : Bool := r.matcher.isNone

/-- What rules are compared by: text and flags of the pattern, action and changes of
the stack. -/
def key (r : Rule) : Option (Text × PatternFlags) × Action × List StackOp :=
  (r.matcher.map fun p => (p.matcher.pattern, p.matcher.flags), r.action, r.ops)

/-- Whether two rules, of one table or of two, are equal. -/
def agrees (r s : Rule) : Bool := r.key = s.key

/-- Whether two rules of one table use the same matcher. -/
def sharesMatcher (r s : Rule) : Bool :=
  match r.matcher, s.matcher with
  | some p, some q => p.slot == q.slot
  | _, _ => false

/-- The match of a rule that starts at a place. -/
def matchAt? (r : Rule) (place : Cursor) : Option Regex.Match :=
  match r.matcher with
  | some p => p.matcher.regex.matchAt? place
  | none => some ⟨⟨place.pos, place.pos⟩, []⟩

end Rule

/-- A state with its rules in the order in which they are tried. -/
structure State where
  name : String
  rules : List Rule
  deriving DecidableEq, Repr, Inhabited

/-- A table. The states beyond the first `defined` ones are synthetic. -/
structure Table where
  name : String
  flags : PatternFlags
  states : List State
  defined : Nat
  resetOnNewline : Bool
  deriving DecidableEq, Repr, Inhabited

/-- A name that is no defined state of a table. -/
structure UndefinedState where
  table : String
  name : String
  deriving DecidableEq, Repr

def UndefinedState.message (e : UndefinedState) : String :=
  s!"table `{e.table}` has no state `{e.name}`"

namespace Table

/-- The table without states. -/
def empty : Table := ⟨"", .standard, [], 0, false⟩

/-- The defined state of a name. -/
def stateId (t : Table) (name : String) : Except UndefinedState StateId :=
  match (t.states.take t.defined).findIdx? (·.name == name) with
  | some i => .ok ⟨i⟩
  | none => .error ⟨t.name, name⟩

/-- The rules of a state, none for the id of another table. -/
def rules (t : Table) (id : StateId) : List Rule :=
  match t.states[id.index]? with
  | some s => s.rules
  | none => []

/-- The rules of the state of a name. -/
def resolve (t : Table) (name : String) : Except UndefinedState (List Rule) :=
  (t.stateId name).map t.rules

def stateName? (t : Table) (id : StateId) : Option String :=
  (t.states[id.index]?).map State.name

end Table

/-- The tables that may refer to each other, by their position. -/
abbrev Library := List Table

namespace Library

/-- The table at a position; beyond the end, the one without states. -/
def table (l : Library) (id : TableId) : Table := l.getD id Table.empty

/-- The table that a delegate in a rule of the table `current` refers to. -/
def target (l : Library) (current : Table) : Target → Table
  | .this => current
  | .table id => l.table id

end Library

end TableLexer
