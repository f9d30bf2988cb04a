import TableLexer.Pattern.Error
import TableLexer.Pattern.Flags
import TableLexer.Regex
import TableLexer.Text.Quoted

/-!
# Matchers

A compiled pattern that still knows how it was written.
-/

namespace TableLexer

/-- A compiled pattern with its text, fragments put in, and its flags. -/
structure Matcher where
  pattern : Text
  flags : PatternFlags
  regex : Regex
  deriving DecidableEq, Repr, Inhabited

namespace Matcher

/-- Compiles a pattern without references. -/
def compile (pattern : Text) (flags : PatternFlags) : Except PatternError Matcher :=
  match Regex.compile flags.mode pattern with
  | some regex => .ok ⟨pattern, flags, regex⟩
  | none => .error (.malformed pattern)

def groupCount (m : Matcher) : Nat := m.regex.groupCount

/-- The match that starts at an offset of a text. There is none at an offset beyond
the end or inside a character. -/
def matchAt? (m : Matcher) (text : Text) (pos : Nat) : Option Regex.Match :=
  (text.at? pos).bind m.regex.matchAt?

/-- The printed form. -/
def describe (m : Matcher) : String :=
  let pattern := String.ofList (Text.Quoted.encode m.pattern)
  let flags := m.flags.describe
  s!"Matcher \x7b pattern: {pattern}, flags: {flags}, .. \x7d"

end Matcher

end TableLexer
