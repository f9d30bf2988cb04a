import TableLexer.Language
import TableLexer.Languages.Phrase

/-!
# Ceylon

Block comments of Ceylon nest: the state of a comment is pushed anew for each one
that starts inside another one.
-/

namespace TableLexer.Ceylon

open Entry Phrase

def decorators : List String := ["shared", "abstract", "formal", "default", "actual", "variable",
  "deprecated", "small", "late", "literal", "doc", "by", "see", "throws", "optional", "license",
  "tagged", "final", "native", "annotation", "sealed"]

def keywords : List String := ["break", "case", "catch", "continue", "else", "finally", "for", "in",
  "if", "return", "switch", "this", "throw", "try", "while", "is", "exists", "dynamic", "nonempty",
  "then", "outer", "assert", "let"]

def declarations : List String :=
  ["abstracts", "extends", "satisfies", "super", "given", "of", "out", "assign"]

def types : List String := ["function", "value", "void", "new"]

def root : List Entry := [
  method r"([a-zA-Z_]\w*)",
  blanks,
  lineComment,
  (token r"/\*" .commentMultiline).push "comment",
  word decorators .nameDecorator,
  word keywords .keyword,
  word declarations .keywordDeclaration,
  word types .keywordType,
  wordAndSpace ["assembly", "module", "package"] .keywordNamespace,
  constants,
  (wordAndSpace ["class", "interface", "object", "alias"] .keywordDeclaration).push "class",
  (groups r"(import)(\s+)" [.keywordNamespace, .text]).push "import",
  token r#""(\\\\|\\[^\\]|[^"\\])*""# .string,
  token "'\\\\.'|'[^\\\\]'|'\\\\\\\x7b#[0-9a-fA-F]{4}\\\x7d'" .stringChar,
  groups r"(\.)([a-z_]\w*)" [.operator, .nameAttribute],
  token r"[a-zA-Z_]\w*:" .nameLabel,
  token r"[a-zA-Z_]\w*" .name,
  token r"[~^*!%&\[\](){}<>|+=:;,./?-]" .operator,
  -- Digits of numbers may be grouped by underscores.
  token r"\d{1,3}(_\d{3})+\.\d{1,3}(_\d{3})+[kMGTPmunpf]?" .numberFloat,
  token r"\d{1,3}(_\d{3})+\.[0-9]+([eE][+-]?[0-9]+)?[kMGTPmunpf]?" .numberFloat,
  token r"[0-9][0-9]*\.\d{1,3}(_\d{3})+[kMGTPmunpf]?" .numberFloat,
  token r"[0-9][0-9]*\.[0-9]+([eE][+-]?[0-9]+)?[kMGTPmunpf]?" .numberFloat,
  token "#([0-9a-fA-F]{4})(_[0-9a-fA-F]{4})+" .numberHex,
  token "#[0-9a-fA-F]+" .numberHex,
  token r"\$([01]{4})(_[01]{4})+" .numberBin,
  token r"\$[01]+" .numberBin,
  token r"\d{1,3}(_\d{3})+[kMGTP]?" .numberInteger,
  token "[0-9]+[kMGTP]?" .numberInteger,
  lineFeed]

def comment : List Entry := [
  token "[^*/]" .commentMultiline,
  (token r"/\*" .commentMultiline).pushCurrent,
  (token r"\*/" .commentMultiline).pop,
  token "[*/]" .commentMultiline]

def grammar : Grammar :=
  (Grammar.new "ceylon")
    |>.withFlags { PatternFlags.standard with dotAll := true }
    |>.withResetOnNewline true
    |>.state "root" root
    |>.state "class" [(token r"[A-Za-z_]\w*" .nameClass).pop]
    |>.state "import" [(token r"[a-z][\w.]*" .nameNamespace).pop]
    |>.state "comment" comment

def table : Except BuildError Table := grammar.build []

def language : Language := .new "Ceylon" ["ceylon"] table

end TableLexer.Ceylon
