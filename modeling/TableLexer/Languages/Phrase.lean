import TableLexer.Grammar.Entry

/-!
# Phrases of several languages

Entries and patterns that more than one language has.
-/

namespace TableLexer.Phrase

open Entry

/-- White space within a line. -/
def blanks : Entry := token r"[^\S\n]+" .text

def lineFeed : Entry := token r"\n" .text

/-- A comment that reaches to the end of its line. -/
def lineComment : Entry := token r"//.*?\n" .commentSingle

/-- A comment that ends at the first end mark. -/
def blockComment : Entry := token r"/\*.*?\*/" .commentMultiline

def constants : Entry := token r"(true|false|null)\b" .keywordConstant

/-- A group with alternatives. -/
def oneOf (alternatives : List String) : String := "(" ++ "|".intercalate alternatives ++ ")"

/-- A whole word out of a list. -/
def word (list : List String) (kind : Kind) : Entry := token (oneOf list ++ r"\b") kind

/-- A word out of a list and the white space after it. -/
def wordAndSpace (list : List String) (kind : Kind) : Entry :=
  groups (oneOf list ++ r"(\s+)") [kind, .text]

/-- What precedes the name of a method in its declaration, from the beginning of a
line. -/
def declarationHead : String := r"^(\s*(?:[a-zA-Z_][\w.\[\]]*\s+)+?)"

/-- The declaration of a method up to the opening parenthesis. What precedes the name
is lexed again. -/
def method (name : String) : Entry :=
  relexFirst (declarationHead ++ name ++ r"(\s*)(\()") (.root .this)
    [.nameFunction, .text, .operator]

end TableLexer.Phrase
