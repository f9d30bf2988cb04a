import TableLexer.Text
import TableLexer.Unicode.Property

/-!
# White space around a text

A character is *blank* if it has the property of white space. Trimming removes
the characters of a class at both ends of a text.

* `Text.trimBy_append`: what trimming removes lies in the class.
-/

namespace TableLexer

/-- Whether a character is white space. -/
def isBlank (c : Char) : Bool := Unicode.Property.whiteSpace.contains c

namespace Text

/-- The text without the characters of a class at its end. -/
def trimEndBy (p : Char → Bool) (text : Text) : Text := (text.reverse.dropWhile p).reverse

/-- The text without the characters of a class at its ends. -/
def trimBy (p : Char → Bool) (text : Text) : Text := trimEndBy p (text.dropWhile p)

/-- The text without the white space around it. -/
def trim (text : Text) : Text := text.trimBy isBlank

/-- A text is what trimming leaves between two texts of the class. -/
theorem trimBy_append (p : Char → Bool) (text : Text) :
    text = text.takeWhile p ++
      (text.trimBy p ++ ((text.dropWhile p).reverse.takeWhile p).reverse) := by
  rw [trimBy, trimEndBy, ← List.reverse_append, List.takeWhile_append_dropWhile,
    List.reverse_reverse, List.takeWhile_append_dropWhile]

end Text

end TableLexer
