import TableLexer.Regex.Parser
import TableLexer.Regex.Program

/-!
# Regular expressions

A compiled pattern and what it matches at a place of a text. Among all matches
that start there the preferred one is taken: choices prefer what is written
first, greedy repetition prefers more and lazy repetition fewer rounds. The text
before the place is not matched, but assertions see it.
-/

namespace TableLexer

open Regex in
/-- A compiled pattern with the number of its capture groups. -/
structure Regex where
  program : Program
  groupCount : Nat
  deriving DecidableEq, Repr, Inhabited

namespace Regex

/-- What a pattern has matched: all of it, and each capture group that took part. -/
structure Match where
  whole : Extent
  groups : List (Option Extent)
  deriving DecidableEq, Repr, Inhabited

/-- Compiles a pattern. There is no limit on the size of the program, so a repetition such as
`\w{1000}` compiles, which an engine may refuse as too large. -/
def compile (m : Mode) (pattern : Text) : Option Regex :=
  (Parser.parse m pattern).map fun tree => ⟨.ofExpr tree.toExpr, tree.toExpr.groupCount⟩

/-- The preferred match that starts at a place. -/
def matchAt? (r : Regex) (place : Cursor) : Option Match :=
  (r.program.first? place).map fun path =>
    ⟨⟨place.pos, path.pos⟩, (List.range r.groupCount).map fun i => path.group? (i + 1)⟩

end Regex

end TableLexer
