import TableLexer.Language
import TableLexer.Languages.Phrase

/-!
# Gosu and its templates

Templates are lexed with the table of Gosu. They start in the text around the code,
which is also what strings are made of.
-/

namespace TableLexer.Gosu

open Entry Phrase

def keywords : List String := ["in", "as", "typeof", "statictypeof", "typeis", "typeas", "if",
  "else", "foreach", "for", "index", "while", "do", "continue", "break", "return", "try", "catch",
  "finally", "this", "throw", "new", "switch", "case", "default", "eval", "super", "outer",
  "classpath", "using"]

def declarations : List String := ["var", "delegate", "construct", "function", "private",
  "internal", "protected", "public", "abstract", "override", "final", "static", "extends",
  "transient", "implements", "represents", "readonly"]

def types : List String :=
  ["boolean", "byte", "char", "double", "float", "int", "long", "short", "void", "block"]

def root : List Entry := [
  method r"([a-zA-Z_]\w*)",
  blanks,
  lineComment,
  blockComment,
  token r"@[a-zA-Z_][\w.]*" .nameDecorator,
  word keywords .keyword,
  word declarations .keywordDeclaration,
  token r"(property\s+)(get|set)?" .keywordDeclaration,
  word types .keywordType,
  groups r"(package)(\s+)" [.keywordNamespace, .text],
  word ["true", "false", "null", "NaN", "Infinity"] .keywordConstant,
  groups r"(class|interface|enhancement|enum)(\s+)([a-zA-Z_]\w*)"
    [.keywordDeclaration, .text, .nameClass],
  groups r"(uses)(\s+)([\w.]+\*?)" [.keywordNamespace, .text, .nameNamespace],
  (token "\"" .string).push "string",
  groups r"(\??[.#])([a-zA-Z_]\w*)" [.operator, .nameAttribute],
  groups r"(:)([a-zA-Z_]\w*)" [.operator, .nameAttribute],
  token r"[a-zA-Z_$]\w*" .name,
  token r"and|or|not|[\\~^*!%&\[\](){}<>|+=:;,./?-]" .operator,
  token r"[0-9][0-9]*\.[0-9]+([eE][0-9]+)?[fd]?" .numberFloat,
  token "[0-9]+" .numberInteger,
  lineFeed]

/-- The state in which templates start. -/
def templateState : String := "templateText"

def templateText : List Entry := [
  token r"(\\<)|(\\\$)" .string,
  (groups r"(<%@\s+)(extends|params)" [.operator, .nameDecorator]).push "stringTemplate",
  token "<%!--.*?--%>" .commentMultiline,
  -- The shorter mark always wins, so that the `=` of `<%=` is an operator of its own.
  (token "(<%)|(<%=)" .operator).push "stringTemplate",
  (token "\\$\\\x7b" .operator).push "stringTemplateShorthand",
  token "." .string]

def quote : Entry := token "\"" .string

def template : List Entry := [
  quote.push "string",
  (token "%>" .operator).pop,
  .splice "root"]

def shorthand : List Entry := [
  quote.push "string",
  (token "\\\x7b" .operator).push "stringTemplateShorthand",
  (token "\\\x7d" .operator).pop,
  .splice "root"]

def grammar : Grammar :=
  (Grammar.new "gosu")
    |>.withFlags { PatternFlags.standard with dotAll := true }
    |>.withResetOnNewline true
    |>.state "root" root
    |>.state templateState templateText
    |>.state "string" [quote.pop, .splice templateState]
    |>.state "stringTemplate" template
    |>.state "stringTemplateShorthand" shorthand

def table : Except BuildError Table := grammar.build []

def language : Language := .new "Gosu" ["gosu"] table

/-- Templates, which start in their text. -/
def templates : Language :=
  { Language.new "Gosu Template" ["gst"] table with initial := [templateState] }

end TableLexer.Gosu
