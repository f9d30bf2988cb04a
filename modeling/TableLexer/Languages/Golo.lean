import TableLexer.Language
import TableLexer.Languages.Phrase

/-!
# Golo

Each kind of string has a state that is a combination: escapes come first, then the
rules of that kind.
-/

namespace TableLexer.Golo

open Entry Phrase

def operators : List String := [r"\^", r"\.\.\.", ":", r"\?:", "->", "==", "!=", "=", r"\+", r"\*",
  "%", "/", "<=", "<", ">=", ">", "=", r"\."]

def keywords : List String := ["augment", "pimp", "if", "else", "case", "match", "return", "when",
  "then", "otherwise", "while", "for", "foreach", "try", "catch", "finally", "throw", "local",
  "continue", "break"]

def builtins : List String := ["print", "println", "readln", "raise", "fun", "asInterfaceInstance"]

/-- The pattern of names, which may be marked by a backquote. -/
def name : String := r"`?[a-zA-Z_][\w$]*"

def root : List Entry := [
  blanks,
  token "#.*$" .comment,
  token (oneOf operators) .operator,
  -- Before the minus, so that `----` starts a block of documentation.
  token r"----((.|\n)*?)----" .stringDoc,
  token "-" .operator,
  word ["is", "isnt", "and", "or", "not", "oftype", "in", "orIfNull"] .operatorWord,
  token r"[\]{}|(),\[]" .punctuation,
  (wordAndSpace ["module", "import"] .keywordNamespace).push "modname",
  groups r"\b([a-zA-Z_][\w$.]*)(::)" [.nameNamespace, .punctuation],
  token r"\b([a-zA-Z_][\w$]*(?:\.[a-zA-Z_][\w$]*)+)\b" .nameNamespace,
  (wordAndSpace ["let", "var"] .keywordDeclaration).push "varname",
  (wordAndSpace ["struct"] .keywordDeclaration).push "structname",
  (wordAndSpace ["function"] .keywordDeclaration).push "funcname",
  word ["null", "true", "false"] .keywordConstant,
  word keywords .keyword,
  groups r"(map|array|list|set|vector|tuple)(\[)" [.nameBuiltin, .punctuation],
  word builtins .nameBuiltin,
  groups ("(" ++ name ++ r")(\()") [.nameFunction, .punctuation],
  token r"-?[\d_]*\.[\d_]*([eE][+-]?\d[\d_]*)?F?" .numberFloat,
  token "0[0-7]+j?" .numberOct,
  token "0[xX][a-fA-F0-9]+" .numberHex,
  token r"-?\d[\d_]*L" .numberIntegerLong,
  token r"-?\d[\d_]*" .numberInteger,
  token name .name,
  token r"@[a-zA-Z_][\w$.]*" .nameDecorator,
  (token "\"\"\"" .string).pushCombined ["stringescape", "triplestring"],
  (token "\"" .string).pushCombined ["stringescape", "doublestring"],
  (token "'" .string).pushCombined ["stringescape", "singlestring"]]

def string : List Entry := [
  token r#"[^\\'"\n]+"# .string,
  token r#"['"\\]"# .string]

def escape : Entry :=
  token ("\\\\([\\\\abfnrtv\"']|\\n|N\\\x7b.*?\\\x7d|u[a-fA-F0-9]{4}|" ++
    "U[a-fA-F0-9]{8}|x[a-fA-F0-9]{2}|[0-7]{1,3})") .stringEscape

def grammar : Grammar :=
  (Grammar.new "golo")
    |>.withResetOnNewline true
    |>.state "root" root
    |>.state "funcname" [(token name .nameFunction).pop]
    |>.state "modname" [(token r"[a-zA-Z_][\w$.]*\*?" .nameNamespace).pop]
    |>.state "structname" [(token r"`?[\w.]+\*?" .nameClass).pop]
    |>.state "varname" [(token name .nameVariable).pop]
    |>.state "string" string
    |>.state "stringescape" [escape]
    |>.state "triplestring"
      [(token "\"\"\"" .string).pop, .splice "string", token r"\n" .string]
    |>.state "doublestring" [(token "\"" .stringDouble).pop, .splice "string"]
    |>.state "singlestring" [(token "'" .string).pop, .splice "string"]

def table : Except BuildError Table := grammar.build []

def language : Language := .new "Golo" ["golo"] table

end TableLexer.Golo
