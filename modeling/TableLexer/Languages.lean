import TableLexer.Languages.AspectJ
import TableLexer.Languages.Ceylon
import TableLexer.Languages.Golo
import TableLexer.Languages.Gosu
import TableLexer.Languages.Groovy
import TableLexer.Languages.Kotlin
import TableLexer.Languages.Pig

/-!
# The languages of the library

Every language, and how to find one by name.
-/

namespace TableLexer

/-- All languages. -/
def languages : List Language := [Java.language, AspectJ.language, Kotlin.language,
  Groovy.language, Ceylon.language, Gosu.language, Gosu.templates, Pig.language, Golo.language]

namespace Languages

/-- The grammars of all languages; Gosu and its templates share one. -/
def grammars : List Grammar := [Java.grammar, AspectJ.grammar, Kotlin.grammar, Groovy.grammar,
  Ceylon.grammar, Gosu.grammar, Pig.grammar, Golo.grammar]

/-- The tables of the grammars, in the same order. -/
def tables : Except BuildError Library :=
  [Java.table, AspectJ.table, Kotlin.table, Groovy.table, Ceylon.table, Gosu.table, Pig.table,
    Golo.table].mapM id

/-- Why there is no lexer for a name. -/
inductive LookupError where
  | unknownName (name : String)
  | build (error : BuildError)
  deriving DecidableEq, Repr

def LookupError.message : LookupError → String
  | .unknownName name => s!"no lexer for alias `{name}`"
  | .build e => e.message

/-- The first language that goes by a name. -/
def find? (name : String) : Option Language := languages.find? fun l => l.isNamed name

/-- The lexer of the language of a name. -/
def lexer (name : String) : Except LookupError Lexer :=
  match find? name with
  | none => .error (.unknownName name)
  | some l => l.lexer.mapError .build

/-- The lexers of all languages. -/
def lexers : Except BuildError (List Lexer) := languages.mapM Language.lexer

end Languages

end TableLexer
