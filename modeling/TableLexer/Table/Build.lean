import TableLexer.Grammar.Error
import TableLexer.Pattern.WordList
import TableLexer.Table

/-!
# From grammars to tables

States are made ready in the order of their definition. An entry that stands for
the rules of another state makes that state ready first, and each state is made
ready only once. Within a state the first entry that is wrong decides the error;
within a rule it is the pattern, then the action, then the changes of the stack.

A combination of states becomes a synthetic state when it is first used. It goes by
the names of its parts joined by `+`, and combinations of the same name are one
state. Its rules are known only when all defined states are ready, so that a state
may push a combination of which it is a part.
-/

namespace TableLexer

namespace Build

/-- A synthetic state: its name and the states whose rules it has. -/
structure Combined where
  name : String
  parts : List StateId
  deriving Repr

/-- What rules share: the patterns compiled so far and the synthetic states. -/
structure Stock where
  pool : Pool
  combined : List Combined
  deriving Repr

/-- What has been done so far: the stock of the rules, and the states that are ready
with their rules, the latest first. -/
structure Progress where
  stock : Stock
  ready : List (StateId × List Rule)
  deriving Repr

/-! ## Rules

`names` are the names of the defined states, in order. -/

variable (library : Library) (names : List String)

/-- The defined state to which a name in the state `state` refers. -/
def localState (state target : String) : Except BuildError StateId :=
  if target.isEmpty then .error (.emptyStateName state)
  else
    match names.findIdx? (· == target) with
    | some i => .ok ⟨i⟩
    | none => .error (.undefinedState state target)

/-- The state of another table to which a name refers. -/
def foreignState (state : String) (table : Table) (target : String) :
    Except BuildError StateId :=
  (table.stateId target).mapError fun e => .undefinedState state (e.table ++ ":" ++ e.name)

def delegate (state : String) (d : DelegateSpec) : Except BuildError Delegate := do
  let stack ← d.stack.mapM fun target =>
    match d.target with
    | .this => localState names state target
    | .table id => foreignState state (library.table id) target
  .ok ⟨d.target, stack⟩

def groupAction (state : String) : GroupSpec → Except BuildError GroupAction
  | .kind kind => .ok (.kind kind)
  | .skip => .ok .skip
  | .delegate d => (delegate library names state d).map .delegate

/-- The action of a rule. Actions for groups have to be as many as the groups. -/
def action (state : String) (matcher : Option Pooled) : ActionSpec → Except BuildError Action
  | .nothing => .ok .nothing
  | .kind kind => .ok (.kind kind)
  | .delegate d => (delegate library names state d).map .delegate
  | .groups groups =>
      match matcher with
      | none => .error (.groupsWithoutPattern state)
      | some p =>
          let found := p.matcher.groupCount
          if found = groups.length then
            (groups.mapM (groupAction library names state)).map .groups
          else .error (.groupCountMismatch state p.matcher.pattern groups.length found)

/-- The text of a pattern. -/
def patternText : PatternSpec → Except PatternError Text
  | .regex pattern => .ok pattern
  | .words words front back => WordList.pattern words front back

/-- Compiles a pattern. -/
def pattern (state : String) (p : PatternSpec) (pool : Pool) :
    Except BuildError (Pooled × Pool) :=
  (patternText p >>= pool.compile).mapError (.pattern state)

/-- The matcher of a rule, if it has a pattern. -/
def matcher (state : String) (p : Option PatternSpec) (pool : Pool) :
    Except BuildError (Option Pooled × Pool) :=
  match p with
  | none => .ok (none, pool)
  | some p => do
      let (found, pool) ← pattern state p pool
      .ok (some found, pool)

/-- The synthetic state for a combination of states, a new one if there is none of
its name. -/
def combine (state : String) (targets : List String) (s : Stock) :
    Except BuildError (StateId × Stock) := do
  let parts ← targets.mapM (localState names state)
  let name := "+".intercalate targets
  match s.combined.findIdx? (·.name == name) with
  | some i => .ok (⟨names.length + i⟩, s)
  | none =>
      .ok (⟨names.length + s.combined.length⟩,
        { s with combined := s.combined ++ [⟨name, parts⟩] })

def stackOp (state : String) (op : StackOpSpec) (s : Stock) :
    Except BuildError (StackOp × Stock) :=
  match op with
  | .push target => do .ok (.push (← localState names state target), s)
  | .goto target => do .ok (.goto (← localState names state target), s)
  | .pushCurrent => .ok (.pushCurrent, s)
  | .pop count => .ok (.pop count, s)
  | .pushCombined targets => do
      let (id, s) ← combine names state targets s
      .ok (.push id, s)

def stackOps (state : String) : List StackOpSpec → Stock →
    Except BuildError (List StackOp × Stock)
  | [], s => .ok ([], s)
  | op :: rest, s => do
      let (op, s) ← stackOp names state op s
      let (ops, s) ← stackOps state rest s
      .ok (op :: ops, s)

def rule (state : String) (r : RuleSpec) (s : Stock) : Except BuildError (Rule × Stock) := do
  let (matcher, pool) ← matcher state r.pattern s.pool
  let action ← action library names state matcher r.action
  let (ops, s) ← stackOps names state r.ops { s with pool }
  .ok (⟨matcher, action, ops⟩, s)

/-! ## States -/

/-- The rules of the entries of a state. `splice` makes another state ready. -/
def entries (splice : StateId → Progress → Except BuildError (List Rule × Progress))
    (state : String) : List Entry → Progress → Except BuildError (List Rule × Progress)
  | [], p => .ok ([], p)
  | .splice target :: rest, p =>
      match names.findIdx? (· == target) with
      | none => .error (.undefinedSplice state target)
      | some i => do
          let (first, p) ← splice ⟨i⟩ p
          let (others, p) ← entries splice state rest p
          .ok (first ++ others, p)
  | .inherit :: rest, p => entries splice state rest p
  | .rule r :: rest, p => do
      let (first, stock) ← rule library names state r p.stock
      let (others, p) ← entries splice state rest { p with stock }
      .ok (first :: others, p)

variable (g : Grammar)

def stateName (id : StateId) : String := g.stateNames.getD id.index ""

/-- Makes a state ready, unless it is; `active` are the states that wait for it, the
outermost first. -/
def stateWith (splice : List StateId → StateId → Progress →
      Except BuildError (List Rule × Progress))
    (active : List StateId) (id : StateId) (p : Progress) :
    Except BuildError (List Rule × Progress) :=
  match p.ready.lookup id with
  | some rules => .ok (rules, p)
  | none =>
      if active.contains id then
        .error (.spliceCycle
          (((active.dropWhile (· ≠ id)) ++ [id]).map (stateName g)))
      else do
        let name := stateName g id
        let written := (g.entries? name).getD []
        let (rules, p) ← entries library g.stateNames (splice (active ++ [id])) name written p
        .ok (rules, { p with ready := (id, rules) :: p.ready })

/-- Makes a state ready. The number bounds how many states may wait for it; as each
waits only once, the number of states is enough. -/
def stateIn : Nat → List StateId → StateId → Progress →
    Except BuildError (List Rule × Progress)
  | 0, active, id, p =>
      stateWith library g
        (fun active _ _ => .error (.spliceCycle (active.map (stateName g)))) active id p
  | depth + 1, active, id, p => stateWith library g (stateIn depth) active id p

/-- Makes all states ready, in order. -/
def allStates : List StateId → Progress → Except BuildError Progress
  | [], p => .ok p
  | id :: rest, p => do
      let (_, p) ← stateIn library g g.states.length [] id p
      allStates rest p

/-- The rules of a state that is ready. -/
def readyRules (p : Progress) (id : StateId) : List Rule := (p.ready.lookup id).getD []

end Build

namespace Grammar

open Build

/-- The ids of the defined states. -/
def ids (g : Grammar) : List StateId := (List.range g.states.length).map StateId.mk

/-- The table of a grammar in which the defined states have the given rules. -/
def assemble (g : Grammar) (rules : StateId → List Rule) (combined : List Combined) : Table where
  name := g.name
  flags := g.flags
  states :=
    (g.ids.map fun id => State.mk (stateName g id) (rules id)) ++
      combined.map fun c => State.mk c.name (c.parts.flatMap rules)
  defined := g.states.length
  resetOnNewline := g.resetOnNewline

/-- Makes a grammar into a table. Its delegates may refer to the tables of the
library. -/
def build (g : Grammar) (library : Library) : Except BuildError Table := do
  let p ← allStates library g g.ids ⟨⟨.new g.flags g.fragments, []⟩, []⟩
  .ok (g.assemble (readyRules p) p.stock.combined)

end Grammar

end TableLexer
