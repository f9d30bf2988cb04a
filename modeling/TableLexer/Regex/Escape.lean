import TableLexer.Regex.Look
import TableLexer.Regex.Mode
import TableLexer.Unicode.Query

/-!
# Escapes

What a backslash stands for in a pattern: a character, an assertion or a class of
characters. The functions read from the place after the backslash and return what
they have read with the rest of the pattern, or nothing if the pattern is wrong.
-/

namespace TableLexer.Regex

/-- What an escape stands for. A character written by exactly two digits to base 16
is a `byte`, which matters in patterns for ASCII. -/
inductive Escape where
  | char (c : Char) (byte : Bool)
  | look (l : Look)
  | set (s : CharSet)
  deriving Repr

namespace Escape

/-! ## Characters -/

/-- The characters with a meaning in patterns. -/
def isMeta (c : Char) : Bool :=
  ['\\', '.', '+', '*', '?', '(', ')', '|', '[', ']', '\x7b', '\x7d', '^', '$', '#', '&', '-',
    '~'].contains c

/-- Whether a character stands for itself after a backslash: any of ASCII that is
not a letter or a digit, but for the angle brackets. -/
def isEscapable (c : Char) : Bool :=
  isMeta c || (c.toNat < 0x80 && !c.isAlphanum && c ≠ '<' && c ≠ '>')

/-- The value of a digit to base 16. -/
def digit? (c : Char) : Option Nat :=
  if c.isDigit || ('a' ≤ c && c ≤ 'f') || ('A' ≤ c && c ≤ 'F') then some (CharSet.hexValue c)
  else none

/-- The character of a code point. -/
def char? (n : Nat) : Option Char := if n.isValidChar then some (Char.ofNat n) else none

/-- Reads a fixed number of digits to base 16. -/
def fixedHex (m : Mode) : Nat → Nat → Text → Option (Nat × Text)
  | 0, value, rest => some (value, rest)
  | _ + 1, _, [] => none
  | count + 1, value, c :: rest =>
      match digit? c with
      | some d => fixedHex m count (16 * value + d) (m.skip rest)
      | none => none

/-- Reads digits to base 16 up to a closing brace. `fuel` bounds their number and
`digits` counts them. -/
def bracedHex (m : Mode) : (fuel digits value : Nat) → Text → Option (Nat × Text)
  | 0, _, _, _ => none
  | _ + 1, _, _, [] => none
  | fuel + 1, digits, value, c :: rest =>
      if c = '\x7d' then if digits = 0 then none else some (value, m.skip rest)
      else
        match digit? c with
        | some d => bracedHex m fuel (digits + 1) (16 * value + d) (m.skip rest)
        | none => none

/-- Reads a character by its code point, after the letter that announces `width`
digits or digits in braces. -/
def readHex (m : Mode) (width : Nat) (rest : Text) : Option (Escape × Text) :=
  match m.skip rest with
  | '\x7b' :: after => do
      let (value, rest) ← bracedHex m (after.length + 1) 0 0 (m.skip after)
      let c ← char? value
      some (.char c false, rest)
  | rest => do
      let (value, rest) ← fixedHex m width 0 rest
      let c ← char? value
      some (.char c (width = 2), rest)

/-! ## Classes -/

/-- The class of a letter `d`, `s` or `w`. -/
def letterClass (m : Mode) (c : Char) : CharSet :=
  if m.unicode then
    match c with
    | 'd' => Unicode.Category.decimalNumber
    | 's' => Unicode.Property.whiteSpace
    | _ => Unicode.Property.word
  else
    match c with
    | 'd' => .ofHex "30-39"
    | 's' => .ofHex "9-D 20"
    | _ => asciiWord

/-- Collects the name of a class up to its closing brace. -/
def bracedName (m : Mode) : (fuel : Nat) → Text → Text → Option (Text × Text)
  | 0, _, _ => none
  | _ + 1, _, [] => none
  | fuel + 1, name, c :: rest =>
      if c = '\x7d' then some (name.reverse, rest)
      else bracedName m fuel (c :: name) (m.skip rest)

/-- Reads a named class after its letter: one letter, or a name in braces. -/
def readNamed (m : Mode) (negated : Bool) (rest : Text) : Option (Escape × Text) := do
  if !m.unicode then none
  let (s, rest) ←
    match m.skip rest with
    | '\x7b' :: after => do
        let (name, rest) ← bracedName m (after.length + 1) [] (m.skip after)
        let s ← Unicode.resolve? name
        some (s, rest)
    | c :: rest => do
        if c = '\\' then none
        let s ← Unicode.findClass? [c]
        some (s, m.skip rest)
    | [] => none
  let s ← m.negate? negated (m.fold s)
  some (.set s, rest)

/-! ## Assertions -/

def alphabet (m : Mode) : Alphabet := if m.unicode then .unicode else .ascii

/-- Collects the letters and dashes in front. -/
def boundaryName (m : Mode) : (fuel : Nat) → Text → Text → Text × Text
  | 0, name, rest => (name.reverse, rest)
  | _ + 1, name, [] => (name.reverse, [])
  | fuel + 1, name, c :: rest =>
      if c.isAlpha || c = '-' then boundaryName m fuel (c :: name) (m.skip rest)
      else (name.reverse, c :: rest)

/-- The assertion of a named word boundary. -/
def boundary? (a : Alphabet) (name : Text) : Option Look :=
  if name = "start".toList then some (.wordStart a)
  else if name = "end".toList then some (.wordEnd a)
  else if name = "start-half".toList then some (.wordStartHalf a)
  else if name = "end-half".toList then some (.wordEndHalf a)
  else none

/-- Reads a word boundary after its letter. A name in braces may follow; braces
that do not start with a letter or a dash are left for a repetition. -/
def readBoundary (m : Mode) (rest : Text) : Option (Escape × Text) :=
  let a := alphabet m
  match rest with
  | '\x7b' :: after =>
      match m.skip after with
      | [] => none
      | c :: name =>
          if c.isAlpha || c = '-' then
            match boundaryName m (name.length + 1) [] (c :: name) with
            | (name, '\x7d' :: rest) => (boundary? a name).map fun l => (.look l, rest)
            | _ => none
          else some (.look (.wordBoundary a), rest)
  | _ => some (.look (.wordBoundary a), rest)

/-! ## All escapes -/

/-- Reads what follows a backslash. -/
def read (m : Mode) : Text → Option (Escape × Text)
  | [] => none
  | c :: rest =>
      if isEscapable c then some (.char c false, rest)
      else
        match c with
        | 'x' => readHex m 2 rest
        | 'u' => readHex m 4 rest
        | 'U' => readHex m 8 rest
        | 'p' => readNamed m false rest
        | 'P' => readNamed m true rest
        | 'd' | 's' | 'w' => some (.set (letterClass m c), rest)
        | 'D' | 'S' | 'W' =>
            (m.negate? true (letterClass m c.toLower)).map fun s => (.set s, rest)
        | 'a' => some (.char '\x07' false, rest)
        | 'f' => some (.char '\x0c' false, rest)
        | 't' => some (.char '\t' false, rest)
        | 'n' => some (.char '\n' false, rest)
        | 'r' => some (.char '\r' false, rest)
        | 'v' => some (.char '\x0b' false, rest)
        | 'A' => some (.look .textStart, rest)
        | 'z' => some (.look .textEnd, rest)
        | 'b' => readBoundary m rest
        | 'B' => some (.look (.noWordBoundary (alphabet m)), rest)
        | '<' => some (.look (.wordStart (alphabet m)), rest)
        | '>' => some (.look (.wordEnd (alphabet m)), rest)
        | _ => none

/-- Whether a character written in this way may stand in a pattern. In a pattern
for ASCII a byte must not be part of a longer character. -/
def charAllowed (m : Mode) (c : Char) (byte : Bool) : Bool :=
  m.unicode || !byte || c.toNat < 0x80

end Escape

end TableLexer.Regex
