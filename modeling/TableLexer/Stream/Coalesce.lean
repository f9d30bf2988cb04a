import TableLexer.Token

/-!
# Coalescing tokens

Neighbouring tokens of one kind are joined into one. The text of the result is cut
anew from the text to which the offsets refer; where that cannot be done, tokens
stay apart.
-/

namespace TableLexer

/-- Joins the tokens that follow `current` to it as long as that is possible, and
goes on with the rest. -/
def coalesceFrom (text : Text) : (current : Token) → List Token → List Token
  | current, [] => [current]
  | current, t :: rest =>
      if t.kind = current.kind ∧ t.start = current.stop then
        match text.slice? current.start t.stop with
        | some joined => coalesceFrom text { current with text := joined } rest
        | none => current :: coalesceFrom text t rest
      else current :: coalesceFrom text t rest

/-- Joins neighbouring tokens of one kind. `text` is what their offsets refer to. -/
def coalesce (text : Text) : List Token → List Token
  | [] => []
  | t :: rest => coalesceFrom text t rest

end TableLexer
