import TableLexer.Text

/-!
# Errors of patterns
-/

namespace TableLexer

/-- Why a pattern cannot be used. -/
inductive PatternError where
  /-- The pattern, with its fragments put in, is no regular expression. -/
  | malformed (pattern : Text)
  /-- A reference names a fragment that is not defined. -/
  | undefinedFragment (name : Text)
  /-- Fragments refer to each other in a circle. The chain ends with the name that
  closes it. -/
  | fragmentCycle (chain : List Text)
  /-- A reference is not closed. -/
  | unterminatedFragment (pattern : Text)
  /-- A reference holds something other than a name. -/
  | invalidFragmentName (name : Text)
  /-- A list of words is empty. -/
  | emptyWordList
  deriving DecidableEq, Repr

namespace PatternError

/-- Names with arrows between them. -/
def chainText (names : List String) : String := " -> ".intercalate names

def message : PatternError → String
  | .malformed pattern =>
      let pattern := String.ofList pattern
      s!"invalid pattern `{pattern}`: error parsing pattern 0"
  | .undefinedFragment name =>
      let name := String.ofList name
      s!"undefined fragment `{name}`"
  | .fragmentCycle chain =>
      let chain := chainText (chain.map String.ofList)
      s!"fragment cycle: {chain}"
  | .unterminatedFragment pattern =>
      let pattern := String.ofList pattern
      s!"unterminated fragment reference in `{pattern}`"
  | .invalidFragmentName name =>
      let name := String.ofList name
      s!"invalid fragment name `{name}`"
  | .emptyWordList => "word list is empty"

end PatternError

end TableLexer
