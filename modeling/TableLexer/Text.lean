/-!
# Texts

A text is a list of characters. A position in a text is an *offset*: the number
of bytes that the characters before it take in UTF-8. Not every number up to the
size of a text is an offset; `Text.at?` finds the characters around one that is.

* `Text.size_append`: sizes add up.
-/

namespace TableLexer

/-- A text, as its characters. -/
abbrev Text := List Char

namespace Text

/-- The number of bytes of the text in UTF-8. -/
def size : Text → Nat
  | [] => 0
  | c :: rest => c.utf8Size + size rest

/-- What follows `lead` in a text that starts with it. -/
def dropLead? : (text lead : Text) → Option Text
  | text, [] => some text
  | [], _ :: _ => none
  | c :: rest, a :: lead => if a = c then dropLead? rest lead else none

/-- Whether the text starts with `lead`. -/
def startsWith (text lead : Text) : Bool := (text.dropLead? lead).isSome

@[simp]
theorem size_nil : size [] = 0 := rfl

@[simp]
theorem size_cons (c : Char) (rest : Text) : size (c :: rest) = c.utf8Size + size rest := rfl

theorem size_append (a b : Text) : size (a ++ b) = size a + size b := by
  induction a with
  | nil => simp
  | cons c a ih => simp [ih, Nat.add_assoc]

theorem dropLead?_eq_some_iff {lead text rest : Text} :
    text.dropLead? lead = some rest ↔ text = lead ++ rest := by
  induction lead generalizing text with
  | nil => simp [dropLead?]
  | cons a lead ih =>
      cases text with
      | nil => simp [dropLead?]
      | cons c text =>
          simp only [dropLead?]
          split
          · next h => subst h; simp [ih]
          · next h => simp [Ne.symm h]

end Text

/-- An interval of offsets, from `start` up to `stop`. -/
structure Extent where
  start : Nat
  stop : Nat
  deriving DecidableEq, Repr, Inhabited

def Extent.isEmpty (e : Extent) : Bool := e.start == e.stop

/-- A place between two characters of a text: the character before it, if there
is one, its offset and the text after it. -/
structure Cursor where
  before : Option Char
  pos : Nat
  rest : Text
  deriving DecidableEq, Repr, Inhabited

namespace Cursor

/-- The place before the first character. -/
def ofText (text : Text) : Cursor := ⟨none, 0, text⟩

/-- The place after the next character, if there is one. -/
def next (c : Cursor) : Cursor :=
  match c.rest with
  | [] => c
  | x :: rest => ⟨some x, c.pos + x.utf8Size, rest⟩

/-- Collects the characters from `rest` up to the offset `stop`, in front of
`taken`, last first, and goes to the place after them. -/
def takeLoop (stop : Nat) : Text → Nat → Option Char → Text → Text × Cursor
  | taken, pos, before, [] => (taken.reverse, ⟨before, pos, []⟩)
  | taken, pos, before, c :: rest =>
      if pos < stop then takeLoop stop (c :: taken) (pos + c.utf8Size) (some c) rest
      else (taken.reverse, ⟨before, pos, c :: rest⟩)

/-- The text up to the offset `stop`, and the place at its end. -/
def takeTo (c : Cursor) (stop : Nat) : Text × Cursor :=
  takeLoop stop [] c.pos c.before c.rest

end Cursor

namespace Text

/-- The place at the offset `pos`, unless it lies inside a character or beyond the
end. -/
def at? (text : Text) (pos : Nat) : Option Cursor :=
  let place := ((Cursor.ofText text).takeTo pos).2
  if place.pos = pos then some place else none

/-- The text between two offsets, unless one of them lies inside a character or
beyond the end or they are out of order. -/
def slice? (text : Text) (start stop : Nat) : Option Text :=
  match text.at? start with
  | none => none
  | some first =>
      let (part, last) := first.takeTo stop
      if start ≤ stop ∧ last.pos = stop then some part else none

end Text

end TableLexer
