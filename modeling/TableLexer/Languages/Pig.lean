import TableLexer.Language
import TableLexer.Languages.Phrase

/-!
# Pig Latin

Words are recognized in letters of either case.
-/

namespace TableLexer.Pig

open Entry Phrase

def keywords : List String := ["assert", "and", "any", "all", "arrange", "as", "asc", "bag", "by",
  "cache", "CASE", "cat", "cd", "cp", "%declare", "%default", "define", "dense", "desc", "describe",
  "distinct", "du", "dump", "eval", "exex", "explain", "filter", "flatten", "foreach", "full",
  "generate", "group", "help", "if", "illustrate", "import", "inner", "input", "into", "is", "join",
  "kill", "left", "limit", "load", "ls", "map", "matches", "mkdir", "mv", "not", "null", "onschema",
  "or", "order", "outer", "output", "parallel", "pig", "pwd", "quit", "register", "returns",
  "right", "rm", "rmf", "rollup", "run", "sample", "set", "ship", "split", "stderr", "stdin",
  "stdout", "store", "stream", "through", "union", "using", "void"]

def builtins : List String := ["AVG", "BinStorage", "cogroup", "CONCAT", "copyFromLocal",
  "copyToLocal", "COUNT", "cross", "DIFF", "MAX", "MIN", "PigDump", "PigStorage", "SIZE", "SUM",
  "TextLoader", "TOKENIZE"]

def types : List String := ["bytearray", "BIGINTEGER", "BIGDECIMAL", "chararray", "datetime",
  "double", "float", "int", "long", "tuple"]

def operators : List Entry := [
  token r"[#=,./%+\-?]" .operator,
  word ["eq", "gt", "lt", "gte", "lte", "neq", "matches"] .operator,
  token (oneOf ["==", "<=", "<", ">=", ">", "!="]) .operator]

def root : List Entry := [
  token r"\s+" .text,
  token "--.*" .comment,
  token r"/\*[\w\W]*?\*/" .commentMultiline,
  token r"\\\n" .text,
  token r"\\" .text,
  token r"'(?:\\[ntbrf\\']|\\u[0-9a-f]{4}|[^'\\\n\r])*'" .string,
  .splice "keywords",
  .splice "types",
  .splice "builtins",
  .splice "punct",
  .splice "operators",
  token r"[0-9]*\.[0-9]+(e[0-9]+)?[fd]?" .numberFloat,
  token "0x[0-9a-f]+" .numberHex,
  token "[0-9]+L?" .numberInteger,
  lineFeed,
  groups r"([a-z_]\w*)(\s*)(\()" [.nameFunction, .text, .punctuation],
  token "[()#:]" .text,
  token r#"[^(:#'")\s]+"# .text,
  token r"\S+\s+" .text]

def grammar : Grammar :=
  (Grammar.new "pig")
    |>.withFlags { PatternFlags.standard with ignoreCase := true }
    |>.withResetOnNewline true
    |>.state "root" root
    |>.state "keywords" [word keywords .keyword]
    |>.state "builtins" [word builtins .nameBuiltin]
    |>.state "types" [word types .keywordType]
    |>.state "punct" [token r"[;(){}\[\]]" .punctuation]
    |>.state "operators" operators

def table : Except BuildError Table := grammar.build []

def language : Language := .new "Pig" ["pig"] table

end TableLexer.Pig
