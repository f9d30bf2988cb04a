import TableLexer.Language
import TableLexer.Languages.Phrase

/-!
# Groovy
-/

namespace TableLexer.Groovy

open Entry Phrase

def keywords : List String := ["assert", "break", "case", "catch", "continue", "default", "do",
  "else", "finally", "for", "if", "goto", "instanceof", "new", "return", "switch", "this", "throw",
  "try", "while", "in", "as"]

def declarations : List String := ["abstract", "const", "enum", "extends", "final", "implements",
  "native", "private", "protected", "public", "static", "strictfp", "super", "synchronized",
  "throws", "transient", "volatile"]

def types : List String :=
  ["def", "boolean", "byte", "char", "double", "float", "int", "long", "short", "void"]

/-- The name of a method, which may be a string. -/
def methodName : String :=
  r#"([a-zA-Z_]\w*|"(?:\\\\|\\[^\\]|[^"\\])*"|'(?:\\\\|\\[^\\]|[^'\\])*')"#

def base : List Entry := [
  blanks,
  lineComment,
  blockComment,
  word keywords .keyword,
  method methodName,
  token r"@[a-zA-Z_][\w.]*" .nameDecorator,
  word declarations .keywordDeclaration,
  word types .keywordType,
  groups r"(package)(\s+)" [.keywordNamespace, .text],
  constants,
  (wordAndSpace ["class", "interface"] .keywordDeclaration).push "class",
  (groups r"(import)(\s+)" [.keywordNamespace, .text]).push "import",
  token "\"\"\".*?\"\"\"" .stringDouble,
  token "'''.*?'''" .stringSingle,
  token r#""(\\\\|\\[^\\]|[^"\\])*""# .stringDouble,
  token r"'(\\\\|\\[^\\]|[^'\\])*'" .stringSingle,
  -- A string between `$/` and the first `/$`.
  token r"\$/.*?/\$" .string,
  token r"/(\\\\|\\[^\\]|[^/\\])*/" .string,
  token r"'\\.'|'[^\\]'|'\\u[0-9a-fA-F]{4}'" .stringChar,
  groups r"(\.)([a-zA-Z_]\w*)" [.operator, .nameAttribute],
  token r"[a-zA-Z_]\w*:" .nameLabel,
  token r"[a-zA-Z_$]\w*" .name,
  token r"[~^*!%&\[\](){}<>|+=:;,./?-]" .operator,
  token r"[0-9][0-9]*\.[0-9]+([eE][0-9]+)?[fd]?" .numberFloat,
  token "0x[0-9a-fA-F]+" .numberHex,
  token "[0-9]+L?" .numberInteger,
  lineFeed]

/-- A script may start with a line that names its interpreter. -/
def root : List Entry := [(token "#!(.*?)$" .commentPreproc).push "base", always.push "base"]

def grammar : Grammar :=
  (Grammar.new "groovy")
    |>.withFlags { PatternFlags.standard with dotAll := true }
    |>.withResetOnNewline true
    |>.state "root" root
    |>.state "base" base
    |>.state "class" [(token r"[a-zA-Z_]\w*" .nameClass).pop]
    |>.state "import" [(token r"[\w.]+\*?" .nameNamespace).pop]

def table : Except BuildError Table := grammar.build []

def language : Language := .new "Groovy" ["groovy"] table

end TableLexer.Groovy
