import TableLexer.Pattern.Error

/-!
# Errors of grammars
-/

namespace TableLexer

/-- Why a grammar cannot be made into a table. Each error names the state that is
written wrong. -/
inductive BuildError where
  | pattern (state : String) (error : PatternError)
  | undefinedSplice (state target : String)
  /-- States take in each other's rules in a circle. The chain starts and ends with
  the same state. -/
  | spliceCycle (chain : List String)
  /-- A rule refers to a state that its table does not have. -/
  | undefinedState (state target : String)
  | groupCountMismatch (state : String) (pattern : Text) (expected found : Nat)
  /-- A rule without a pattern has actions for groups. -/
  | groupsWithoutPattern (state : String)
  | emptyStateName (state : String)
  deriving DecidableEq, Repr

namespace BuildError

def message : BuildError → String
  | .pattern state e =>
      let cause := e.message
      s!"state `{state}`: {cause}"
  | .undefinedSplice state target => s!"state `{state}` includes undefined state `{target}`"
  | .spliceCycle chain =>
      let chain := PatternError.chainText chain
      s!"include cycle: {chain}"
  | .undefinedState state target => s!"state `{state}` references undefined state `{target}`"
  | .groupCountMismatch state text expected found =>
      let text := String.ofList text
      s!"state `{state}`: pattern `{text}` has {found} capture groups but {expected} group actions"
  | .groupsWithoutPattern state => s!"state `{state}`: group actions need a pattern"
  | .emptyStateName state => s!"state `{state}`: transition names an empty state"

end BuildError

end TableLexer
