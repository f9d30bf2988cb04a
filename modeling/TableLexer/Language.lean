import TableLexer.Lexer

/-!
# Languages

A language is a lexer that is known in advance: its table is made from a grammar
of this library.
-/

namespace TableLexer

/-- A language by its names, its table, the states to start with and the corrections
of its tokens. -/
structure Language where
  name : String
  aliases : List String
  table : Except BuildError Table
  initial : List String
  rewrite : Rewrite

namespace Language

/-- A language that starts in the root state and corrects nothing. -/
def new (name : String) (aliases : List String) (table : Except BuildError Table) : Language :=
  ⟨name, aliases, table, [rootState], []⟩

/-- Whether the language goes by a name, in letters of either case. -/
def isNamed (l : Language) (name : String) : Bool :=
  Lexer.sameName l.name name || l.aliases.any (Lexer.sameName · name)

/-- The lexer of a language. Its table refers to no other one. -/
def lexer (l : Language) : Except BuildError Lexer := do
  let table ← l.table
  .ok { Lexer.new l.name [] table with
    aliases := l.aliases, initial := l.initial, rewrite := l.rewrite }

end Language

end TableLexer
