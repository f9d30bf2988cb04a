import TableLexer.Language
import TableLexer.Languages.Phrase

/-!
# Java
-/

namespace TableLexer.Java

open Entry Phrase

def keywords : List String := ["assert", "break", "case", "catch", "continue", "default", "do",
  "else", "finally", "for", "if", "goto", "instanceof", "new", "return", "switch", "this", "throw",
  "try", "while"]

def declarations : List String := ["abstract", "const", "enum", "extends", "final", "implements",
  "native", "private", "protected", "public", "static", "strictfp", "super", "synchronized",
  "throws", "transient", "volatile"]

def types : List String :=
  ["boolean", "byte", "char", "double", "float", "int", "long", "short", "void"]

/-- The pattern of numbers with a fraction, an exponent or a suffix that asks for
one, decimal first. -/
def float : String :=
  r"([0-9][0-9_]*\.([0-9][0-9_]*)?|\.[0-9][0-9_]*)([eE][+\-]?[0-9][0-9_]*)?[fFdD]?" ++
  r"|[0-9][eE][+\-]?[0-9][0-9_]*[fFdD]?" ++
  r"|[0-9]([eE][+\-]?[0-9][0-9_]*)?[fFdD]" ++
  r"|0[xX]([0-9a-fA-F][0-9a-fA-F_]*\.?|([0-9a-fA-F][0-9a-fA-F_]*)?\.[0-9a-fA-F][0-9a-fA-F_]*)" ++
  r"[pP][+\-]?[0-9][0-9_]*[fFdD]?"

def root : List Entry := [
  blanks,
  lineComment,
  blockComment,
  -- Before methods, so that `throw new Xyz(` does not declare one.
  words keywords r"\b" .keyword,
  relexFirst r"((?:(?:[^\W\d]|\$)[\w.\[\]$<>]*\s+)+?)({:ident})(\s*)(\()" (.root .this)
    [.nameFunction, .text, .punctuation],
  token r"@[^\W\d][\w.]*" .nameDecorator,
  words declarations r"\b" .keywordDeclaration,
  words types r"\b" .keywordType,
  (groups r"(package)(\s+)" [.keywordNamespace, .text]).push "import",
  constants,
  (wordAndSpace ["class", "interface"] .keywordDeclaration).push "class",
  (groups r"(var)(\s+)" [.keywordDeclaration, .text]).push "var",
  (groups r"(import(?:\s+static)?)(\s+)" [.keywordNamespace, .text]).push "import",
  (token "\"" .string).push "string",
  token r"'\\.'|'[^\\]'|'\\u[0-9a-fA-F]{4}'" .stringChar,
  groups r"(\.)({:ident})" [.punctuation, .nameAttribute],
  token r"^\s*{:ident}:" .nameLabel,
  token "{:ident}" .name,
  token float .numberFloat,
  token "0[xX][0-9a-fA-F][0-9a-fA-F_]*[lL]?" .numberHex,
  token "0[bB][01][01_]*[lL]?" .numberBin,
  token "0[0-7_]+[lL]?" .numberOct,
  token "0|[1-9][0-9_]*[lL]?" .numberInteger,
  token r"[~^*!%&\[\]<>|+=/?-]" .operator,
  token "[{}();:.,]" .punctuation,
  lineFeed]

def string : List Entry := [
  token r#"[^\\"]+"# .string,
  token r"\\\\" .string,
  token r#"\\""# .string,
  token r"\\" .string,
  (token "\"" .string).pop]

def grammar : Grammar :=
  (Grammar.new "java")
    |>.withFlags { PatternFlags.standard with dotAll := true }
    |>.withResetOnNewline true
    |>.withFragment (.ofString "ident") (.ofString r"(?:[^\W\d]|\$)[\w$]*")
    |>.state "root" root
    |>.state "class" [(token "{:ident}" .nameClass).pop]
    |>.state "var" [(token "{:ident}" .name).pop]
    |>.state "import" [(token r"[\w.]+\*?" .nameNamespace).pop]
    |>.state "string" string

def table : Except BuildError Table := grammar.build []

def language : Language := .new "Java" ["java"] table

end TableLexer.Java
