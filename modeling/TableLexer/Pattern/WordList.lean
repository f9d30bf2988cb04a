import TableLexer.Pattern.Error
import TableLexer.Regex.Escape

/-!
# Word lists

The pattern that matches any of a list of words. Longer words come first, so that
a word is not cut short by another one with which it starts; words of one length
come in the order of their characters. The pattern depends on the set of words
alone.

* `WordList.mem_arrange`: arranging keeps exactly the words of the list.
-/

namespace TableLexer.WordList

/-- Writes a word so that each character stands for itself. -/
def escape (word : Text) : Text :=
  word.flatMap fun c => if Regex.Escape.isMeta c then ['\\', c] else [c]

/-- Whether a word comes before another one in a pattern. -/
def precedes (v w : Text) : Bool :=
  w.size < v.size || (v.size == w.size && v.lex w fun a b => decide (a < b))

/-- Puts a word in its place among arranged words, unless it is there. -/
def insert (word : Text) : List Text → List Text
  | [] => [word]
  | v :: rest =>
      if word = v then v :: rest
      else if precedes word v then word :: v :: rest
      else v :: insert word rest

/-- The words of a list in the order of a pattern, each once. -/
def arrange (words : List Text) : List Text := words.foldr insert []

/-- Texts with a separator between them. -/
def join (separator : Text) : List Text → Text
  | [] => []
  | [t] => t
  | t :: rest => t ++ separator ++ join separator rest

/-- The pattern of a list of words between two patterns. -/
def pattern (words : List Text) (front back : Text) : Except PatternError Text :=
  if words.isEmpty then .error .emptyWordList
  else
    .ok (front ++ "(?:".toList ++ join ['|'] ((arrange words).map escape) ++ ')' :: back)

theorem mem_insert {word w : Text} {words : List Text} :
    w ∈ insert word words ↔ w = word ∨ w ∈ words := by
  induction words with
  | nil => simp [insert]
  | cons v rest ih =>
      simp only [insert]
      split
      · next h => simp [h]
      split
      · simp
      · simp only [List.mem_cons, ih]
        grind

theorem mem_arrange {w : Text} {words : List Text} : w ∈ arrange words ↔ w ∈ words := by
  induction words with
  | nil => simp [arrange]
  | cons v words ih =>
      have h : arrange (v :: words) = insert v (arrange words) := rfl
      rw [h, mem_insert, ih, List.mem_cons]

end TableLexer.WordList
