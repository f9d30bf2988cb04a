import TableLexer.Text
import TableLexer.Unicode.Property

/-!
# Assertions

Conditions on the place at which a match stands. Each looks at the character
before the place and at the text after it, and consumes nothing.

A *line* assertion comes in two forms: lines end in a line feed, or in a carriage
return, a line feed or both together. A *word* assertion takes the word
characters of Unicode or those of ASCII.
-/

namespace TableLexer.Regex

/-- Which characters make up words. -/
inductive Alphabet where
  | unicode
  | ascii
  deriving DecidableEq, Repr

/-- The letters, digits and the underscore of ASCII. -/
def asciiWord : CharSet := .ofHex "30-39 41-5A 5F 61-7A"

namespace Alphabet

/-- Whether a character belongs to words. -/
def isWord : Alphabet → Char → Bool
  | .unicode, c => Unicode.Property.word.contains c
  | .ascii, c => asciiWord.contains c

end Alphabet

/-- A condition on a place in a text. The `half` forms look at one side only. -/
inductive Look where
  | textStart
  | textEnd
  | lineStart
  | lineEnd
  | anyLineStart
  | anyLineEnd
  | wordBoundary (a : Alphabet)
  | noWordBoundary (a : Alphabet)
  | wordStart (a : Alphabet)
  | wordEnd (a : Alphabet)
  | wordStartHalf (a : Alphabet)
  | wordEndHalf (a : Alphabet)
  deriving DecidableEq, Repr

namespace Look

/-- Whether a word character precedes the place. -/
def wordBefore (a : Alphabet) (c : Cursor) : Bool := c.before.any a.isWord

/-- Whether a word character follows the place. -/
def wordAfter (a : Alphabet) (c : Cursor) : Bool := c.rest.head?.any a.isWord

/-- Whether the condition holds at a place. -/
def holds : Look → Cursor → Bool
  | .textStart, c => c.before.isNone
  | .textEnd, c => c.rest.isEmpty
  | .lineStart, c => c.before.isNone || c.before = some '\n'
  | .lineEnd, c => c.rest.isEmpty || c.rest.head? = some '\n'
  | .anyLineStart, c =>
      c.before.isNone || c.before = some '\n' ||
        (c.before = some '\r' && c.rest.head? ≠ some '\n')
  | .anyLineEnd, c =>
      c.rest.isEmpty || c.rest.head? = some '\r' ||
        (c.rest.head? = some '\n' && c.before ≠ some '\r')
  | .wordBoundary a, c => wordBefore a c != wordAfter a c
  | .noWordBoundary a, c => wordBefore a c == wordAfter a c
  | .wordStart a, c => !wordBefore a c && wordAfter a c
  | .wordEnd a, c => wordBefore a c && !wordAfter a c
  | .wordStartHalf a, c => !wordBefore a c
  | .wordEndHalf a, c => !wordAfter a c

end Look

end TableLexer.Regex
