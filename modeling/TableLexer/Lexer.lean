import TableLexer.Run
import TableLexer.Table.Build
import TableLexer.Source
import TableLexer.Stream.Coalesce
import TableLexer.Stream.Rewrite

/-!
# Lexers

A lexer is a table together with all that is needed to use it on a source text:
names, the states to start with, limits, how the text is prepared and how its
tokens are rewritten.
-/

namespace TableLexer

/-- A table with the way it is used. The table may refer to tables of the library. -/
structure Lexer where
  name : String
  aliases : List String
  library : Library
  table : Table
  initial : List String
  config : LexConfig
  source : SourceOptions
  rewrite : Rewrite

namespace Lexer

/-- A lexer that starts in the root state. -/
def new (name : String) (library : Library) (table : Table) : Lexer :=
  ⟨name, [], library, table, [rootState], .standard, .standard, []⟩

/-- A name with the letters of ASCII in lower case. -/
def foldName (name : String) : List Char := name.toList.map Char.toLower

/-- Whether two names differ at most in the case of letters of ASCII. -/
def sameName (a b : String) : Bool := foldName a == foldName b

/-- Whether the lexer goes by a name. -/
def isNamed (l : Lexer) (name : String) : Bool :=
  sameName l.name name || l.aliases.any (sameName · name)

/-- The source text as the lexer reads it. -/
def prepare (l : Lexer) (source : Text) : Text := l.source.prepare source

/-- The stream of the tokens of a prepared text, before any of them has been asked for. -/
def stream (l : Lexer) (prepared : Text) : Except UndefinedState (Rewritten Run) := do
  let run ← Run.start l.library l.table l.initial prepared
  .ok ⟨run.withConfig l.config, none⟩

/-- Asks the stream of a lexer for its next token. -/
def next (l : Lexer) : Pull (Rewritten Run) := l.rewrite.next Run.next

/-- The tokens of a prepared text. -/
def tokens (l : Lexer) (prepared : Text) : Except UndefinedState (List Token) := do
  let run ← Run.start l.library l.table l.initial prepared
  .ok (l.rewrite.apply (run.withConfig l.config).rest)

/-- The tokens of a source text. Offsets refer to the prepared text. -/
def tokenize (l : Lexer) (source : Text) : Except UndefinedState (List Token) :=
  l.tokens (l.prepare source)

end Lexer

end TableLexer
