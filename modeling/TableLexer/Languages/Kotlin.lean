import TableLexer.Language
import TableLexer.Languages.Phrase

/-!
# Kotlin
-/

namespace TableLexer.Kotlin

open Entry Phrase

/-- The members of the class of characters with which a name starts. -/
def nameStart : String := r"_\p{Lu}\p{Ll}\p{Lt}\p{Lm}\p{Nl}"

/-- The members of the class of characters in a name. -/
def namePart : String := r"\p{Lu}\p{Ll}\p{Lt}\p{Lm}\p{Nl}\p{Nd}\p{Pc}\p{Cf}\p{Mn}\p{Mc}"

def plainName : String := "@?[" ++ nameStart ++ "][" ++ namePart ++ "]*"

/-- The pattern of names between backquotes, which may hold blanks and most
punctuation. -/
def quotedName : String :=
  "`@?[" ++ nameStart ++ "][" ++ namePart ++ r"\p{Zs}'~!%^&*()+=|\[\]:;,.<>/?-]*`"

def modifiers : List String := ["actual", "abstract", "annotation", "companion", "const",
  "crossinline", "data", "enum", "expect", "external", "final", "infix", "inline", "inner",
  "internal", "lateinit", "noinline", "open", "operator", "override", "private", "protected",
  "public", "sealed", "suspend", "tailrec"]

def keywords : List String := ["as", "break", "by", "catch", "constructor", "continue", "do",
  "dynamic", "else", "finally", "get", "for", "if", "init", "[!]*in", "[!]*is", "out", "reified",
  "return", "set", "super", "this", "throw", "try", "typealias", "typeof", "vararg", "when",
  "where", "while"]

def types : List String :=
  ["Boolean", "Byte", "Char", "Double", "Float", "Int", "Long", "Short", "String", "Any", "Unit"]

def nullableTypes : List String := types.map (· ++ "?")

/-- A declaration with the modifiers before it, which are lexed again in their own
state. -/
def modified (modifier declaration : String) : Entry :=
  relexFirst ("((?:" ++ modifier ++ r"\s+)*)(" ++ declaration ++ r")(\s+)")
    ((DelegateSpec.root .this).inState "modifiers") [.keywordDeclaration, .text]

def root : List Entry := [
  blanks,
  token r"\s+" .text,
  token r"\\\n" .text,
  lineFeed,
  lineComment,
  token r"^#!/.+?\n" .commentSingle,
  token "/[*].*?[*]/" .commentMultiline,
  token r"as\?" .keyword,
  word keywords .keyword,
  token r"it\b" .nameBuiltin,
  words nullableTypes "" .keywordType,
  words types r"\b" .keywordType,
  constants,
  groups r"(package|import)(\s+)(\S+)" [.keyword, .text, .nameNamespace],
  groups r"(\?\.)((?:[^\W\d]|\$)[\w$]*)" [.operator, .nameAttribute],
  groups r"(\.)((?:[^\W\d]|\$)[\w$]*)" [.punctuation, .nameAttribute],
  token r"@[^\W\d][\w.]*" .nameDecorator,
  -- Labels such as `loop@`.
  token r"[^\W\d][\w.]+@" .nameDecorator,
  (groups r"(object)(\s+)(:)(\s+)" [.keyword, .text, .punctuation, .text]).push "class",
  (modified "(?:{:modifiers}|fun)" "class|interface|object").push "class",
  (groups r"(var|val)(\s+)(\()" [.keywordDeclaration, .text, .punctuation]).push
    "destructuring_assignment",
  (modified "(?:{:modifiers})" "var|val").push "variable",
  (modified "(?:{:modifiers})" "fun").push "function",
  token r"::|!!|\?[:.]" .operator,
  token r"[~^*!%&\[\]<>|+=/?-]" .operator,
  token "[{}();:.,]" .punctuation,
  (token "\"\"\"" .string).push "multiline_string",
  (token "\"" .string).push "string",
  token r"'\\.'|'[^\\]'" .stringChar,
  token r"[0-9](\.[0-9]*)?([eE][+-][0-9]+)?[flFL]?|0[xX][0-9a-fA-F]+[Ll]?" .number,
  -- With the mark of a nullable type and the character after it, as in `Foo?)`.
  token r"{:kt_id}(?:\?[^.])?" .name]

def destructuring : List Entry := [
  token "," .punctuation,
  token r"\s+" .text,
  token "{:kt_id}" .nameVariable,
  groups r"(:)(\s+)({:kt_id})" [.punctuation, .text, .name],
  (token "<" .operator).push "generic",
  (token r"\)" .punctuation).pop]

def function : List Entry := [
  (token "<" .operator).push "generic",
  (groups r"({:kt_id})(\.)({:kt_id})" [.name, .punctuation, .nameFunction]).pop,
  (token "{:kt_id}" .nameFunction).pop]

def generic : List Entry := [
  (groups r"(>)(\s*)" [.operator, .text]).pop,
  token ":" .punctuation,
  word ["reified", "out", "in"] .keyword,
  token "," .punctuation,
  token r"\s+" .text,
  token "{:kt_id}" .name]

def modifierList : List Entry := [
  token r"\w+" .keywordDeclaration,
  token r"\s+" .text,
  always.pop]

/-- The beginning of an expression in a string. -/
def interpolationStart : Entry := (token "\\$\\\x7b" .stringInterpol).push "interpolation"

def blockStart : Entry := (token "\\\x7b" .punctuation).push "scope"

def stringText : List Entry := [
  token r"\\\\" .string,
  token r#"\\""# .string,
  token r"\\" .string,
  interpolationStart,
  groups r"(\$)(\w+)" [.stringInterpol, .name],
  token r#"[^\\"$]+"# .string]

def interpolation : List Entry := [
  token "\"" .string,
  interpolationStart,
  blockStart,
  (token "\\\x7d" .stringInterpol).pop,
  .splice "root"]

def block : List Entry := [
  blockStart,
  (token "\\\x7d" .punctuation).pop,
  .splice "root"]

def grammar : Grammar :=
  (Grammar.new "kotlin")
    |>.withFlags { PatternFlags.standard with dotAll := true }
    |>.withResetOnNewline true
    |>.withFragment (.ofString "kt_id") (.ofString (plainName ++ "|" ++ quotedName))
    |>.withFragment (.ofString "modifiers") (.ofString ("|".intercalate modifiers))
    |>.state "root" root
    |>.state "class" [(token "{:kt_id}" .nameClass).pop]
    |>.state "variable" [(token "{:kt_id}" .nameVariable).pop]
    |>.state "destructuring_assignment" destructuring
    |>.state "function" function
    |>.state "generic" generic
    |>.state "modifiers" modifierList
    |>.state "string" [(token "\"" .string).pop, .splice "string_common"]
    |>.state "multiline_string"
      [(token "\"\"\"" .string).pop, token "\"" .string, .splice "string_common"]
    |>.state "string_common" stringText
    |>.state "interpolation" interpolation
    |>.state "scope" block

def table : Except BuildError Table := grammar.build []

def language : Language := .new "Kotlin" ["kotlin"] table

end TableLexer.Kotlin
