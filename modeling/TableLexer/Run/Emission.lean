import TableLexer.Table
import TableLexer.Token

/-!
# Emitting a match

A match is emitted portion by portion from left to right. A portion that overlaps
text already emitted is cut down to the rest of it, text before a portion that has
not been emitted goes out with the fallback kind, and a portion without text is
dropped. So the portions of a match, in order, always make up the matched text.
-/

namespace TableLexer

/-- What becomes of a portion of a match: one token of a kind, or the tokens of a run
over it. -/
inductive Label where
  | kind (kind : Kind)
  | relexed (delegate : Delegate)
  deriving DecidableEq, Repr

/-- A portion of a match with its offset. -/
structure Portion where
  start : Nat
  label : Label
  text : Text
  deriving DecidableEq, Repr

/-- How far a match has been emitted: the place up to which it has, and the portions,
the last one first. -/
structure Emission where
  place : Cursor
  latest : List Portion
  deriving Repr

namespace Emission

def start (place : Cursor) : Emission := ⟨place, []⟩

def portions (e : Emission) : List Portion := e.latest.reverse

/-- The texts of the portions, in order. -/
def texts (e : Emission) : Text := (e.portions.map Portion.text).flatten

/-- Emits the text up to an offset, if there is any. -/
def fillTo (fallback : Kind) (stop : Nat) (e : Emission) : Emission :=
  if e.place.pos < stop then
    let (text, place) := e.place.takeTo stop
    ⟨place, ⟨e.place.pos, .kind fallback, text⟩ :: e.latest⟩
  else e

/-- Emits a piece of the match. -/
def emit (fallback : Kind) (label : Label) (piece : Extent) (e : Emission) : Emission :=
  if piece.stop ≤ max piece.start e.place.pos then e
  else
    let e := e.fillTo fallback piece.start
    let (text, place) := e.place.takeTo piece.stop
    ⟨place, ⟨e.place.pos, label, text⟩ :: e.latest⟩

end Emission

end TableLexer
