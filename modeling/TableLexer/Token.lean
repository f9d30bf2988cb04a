import TableLexer.Kind
import TableLexer.Span

/-!
# Tokens

A token is a piece of a text with its offset and its kind.
-/

namespace TableLexer

/-- A classified piece of a text. `start` is its offset in the text that was
lexed. -/
structure Token where
  start : Nat
  kind : Kind
  text : Text
  deriving DecidableEq, Repr, Inhabited

namespace Token

/-- The offset after the last character. -/
def stop (t : Token) : Nat := t.start + t.text.size

def span (t : Token) : Except SpanError Span := Span.ofBounds t.start t.stop

def withKind (t : Token) (kind : Kind) : Token := { t with kind }

/-- The token as part of a text in which its own text starts at `base`. -/
def shift (base : Nat) (t : Token) : Token := { t with start := base + t.start }

end Token

end TableLexer
