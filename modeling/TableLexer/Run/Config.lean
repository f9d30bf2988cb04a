import TableLexer.Kind

/-!
# Limits and the fallback kind of a run
-/

namespace TableLexer

/-- `fallback` is the kind of text that no rule classifies. Runs over matched text
nest on at most `maxDepth` levels, and at one place at most `maxEmptySteps` matches
in a row may consume nothing. -/
structure LexConfig where
  fallback : Kind
  maxDepth : Nat
  maxEmptySteps : Nat
  deriving DecidableEq, Repr

namespace LexConfig

def standard : LexConfig := ⟨.error, 64, 32⟩

instance : Inhabited LexConfig := ⟨standard⟩

end LexConfig

end TableLexer
