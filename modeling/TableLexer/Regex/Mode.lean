import TableLexer.Text.Blank
import TableLexer.Unicode.Folding

/-!
# Modes of reading a pattern

The flags that are in force at a place of a pattern, and what they do to blanks
and to sets of characters.

In verbose mode white space in a pattern does not count, nor does a comment, which
reaches from `#` to the end of the line.
-/

namespace TableLexer.Regex

/-- The flags in force. `crlf` lets lines end in a carriage return as well,
`swapGreed` exchanges the meanings of greedy and lazy repetition, and without
`unicode` classes and assertions know ASCII only. -/
structure Mode where
  ignoreCase : Bool
  multiLine : Bool
  dotAll : Bool
  swapGreed : Bool
  crlf : Bool
  verbose : Bool
  unicode : Bool
  deriving DecidableEq, Repr

namespace Mode

/-- Drops white space and comments. The flag says whether a comment is open. -/
def dropIgnored : Bool → Text → Text
  | _, [] => []
  | true, c :: rest => dropIgnored (c ≠ '\n') rest
  | false, c :: rest =>
      if isBlank c then dropIgnored false rest
      else if c = '#' then dropIgnored true rest
      else c :: rest

/-- Drops what does not count in front of a pattern. -/
def skip (m : Mode) (rest : Text) : Text := if m.verbose then dropIgnored false rest else rest

/-- In verbose mode, the first character that is not white space; a `#` before it
counts as white space once. -/
def peekIgnored : Bool → Text → Option Char
  | _, [] => none
  | comment, c :: rest =>
      if isBlank c then peekIgnored comment rest
      else if !comment && c = '#' then peekIgnored true rest
      else some c

/-- The character that follows next. If only white space does, that is its first
character. -/
def peek (m : Mode) (rest : Text) : Option Char :=
  if m.verbose then peekIgnored false rest <|> rest.head? else rest.head?

/-- Adds the other cases of the members if case does not count. -/
def fold (m : Mode) (s : CharSet) : CharSet :=
  if !m.ignoreCase then s
  else if m.unicode then Unicode.Folding.closure s
  else Unicode.Folding.asciiClosure s

/-- Takes the other characters if `negated`. In a pattern for ASCII there are none
to take, as a match must not end inside a character. -/
def negate? (m : Mode) (negated : Bool) (s : CharSet) : Option CharSet :=
  if !negated then some s
  else if m.unicode then some s.complement
  else none

end Mode

end TableLexer.Regex
