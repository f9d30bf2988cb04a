import TableLexer.Text
import TableLexer.Unicode.Category
import TableLexer.Unicode.Property

/-!
# Quoted texts

The printed form of a text between double quotes. A character that would not show
as itself is written with a backslash: the quote and the backslash after another
one, the common control characters by a letter, and all others by their code
point to base 16 in braces.
-/

namespace TableLexer.Text.Quoted

/-- The characters without a visible form: control and format characters,
unassigned and private code points, and separators. -/
def invisible : CharSet := .unions [Unicode.Category.other, Unicode.Category.separator]

/-- Whether a character is written as itself. The blank is the one separator that
is. A character that joins the preceding one is not. -/
def isPlain (c : Char) : Bool :=
  c = ' ' || !(Unicode.Property.graphemeExtend.contains c || invisible.contains c)

/-- The printed form of one character. -/
def encodeChar (c : Char) : Text :=
  match c with
  | '\x00' => ['\\', '0']
  | '\t' => ['\\', 't']
  | '\r' => ['\\', 'r']
  | '\n' => ['\\', 'n']
  | '\\' => ['\\', '\\']
  | '"' => ['\\', '"']
  | _ =>
      if isPlain c then [c]
      else ['\\', 'u', '\x7b'] ++ Nat.toDigits 16 c.toNat ++ ['\x7d']

/-- The text in double quotes. -/
def encode (text : Text) : Text := '"' :: (text.flatMap encodeChar ++ ['"'])

end TableLexer.Text.Quoted
