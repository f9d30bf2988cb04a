import TableLexer.Run.Step

/-!
# Runs

A run gives its tokens one at a time. It takes steps only when it is asked for a
token and has none left, so that the place and the stack can be looked at between
two tokens, and the limits can be changed.

Text that a rule has matched may be lexed again by a run of its own. Such runs
nest; where the limit on their depth is reached, the text becomes one token of the
fallback kind.
-/

namespace TableLexer

/-- The tokens of a piece of text that a rule of the table `current` has matched, in a
run that is nested on `depth` levels. -/
def relex (library : Library) (config : LexConfig) (depth : Nat) (current : Table)
    (d : Delegate) (text : Text) : List Token :=
  if config.maxDepth ≤ depth then [⟨0, config.fallback, text⟩]
  else
    let table := library.target current d.target
    RunContext.tokensOfText
      ⟨table, config, d.stack.reverse, relex library config (depth + 1) table⟩ text
termination_by config.maxDepth - depth

/-- A run: what it was started with, how far it has come and the tokens that have
not been asked for yet. -/
structure Run where
  library : Library
  table : Table
  config : LexConfig
  initial : List StateId
  state : RunState
  queue : List Token

namespace Run

/-- Starts a run over a text with the given states, the bottom first. With none it
starts in the root state. -/
def start (library : Library) (table : Table) (states : List String) (text : Text) :
    Except UndefinedState Run := do
  let ids ← (if states.isEmpty then [rootState] else states).mapM table.stateId
  let stack := ids.reverse
  .ok ⟨library, table, .standard, stack, ⟨Cursor.ofText text, stack, none⟩, []⟩

/-- Goes on with other limits. -/
def withConfig (r : Run) (config : LexConfig) : Run := { r with config }

def context (r : Run) : RunContext :=
  ⟨r.table, r.config, r.initial, relex r.library r.config 0 r.table⟩

/-- The offset up to which the text has been consumed. -/
def position (r : Run) : Nat := r.state.place.pos

/-- The names of the states on the stack, the bottom first. -/
def stackNames (r : Run) : List String := r.state.stack.reverse.filterMap r.table.stateName?

/-- Takes at most `fuel` steps until there are tokens or the text has ended. -/
def advance : (fuel : Nat) → Run → Run
  | 0, r => r
  | fuel + 1, r =>
      if !r.queue.isEmpty || r.state.place.rest.isEmpty then r
      else
        let (tokens, state) := r.context.step r.state
        advance fuel { r with state, queue := tokens }

/-- The next token, if there is one, and the run after it. -/
def next (r : Run) : Option Token × Run :=
  let r := r.advance r.context.patience
  match r.queue with
  | token :: queue => (some token, { r with queue })
  | [] => (none, r)

/-- All tokens that are left. -/
def rest (r : Run) : List Token :=
  r.queue ++ r.context.exhaust (r.context.enough r.state.place.rest.length) r.state

end Run

/-- The tokens of several texts, each lexed from the same state. The state is looked
up before any text is. -/
def tokenizeAll (library : Library) (table : Table) (state : String) (texts : List Text) :
    Except UndefinedState (List (List Token)) := do
  let _ ← table.stateId state
  texts.mapM fun text => (Run.start library table [state] text).map Run.rest

end TableLexer
