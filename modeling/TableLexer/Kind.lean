import TableLexer.Text.Blank

/-!
# Kinds of tokens

The taxonomy by which tokens are classified. It is a tree with the root
`Kind.token`; every other kind has one parent. A kind is written as a *path* of
names from below the root, joined by dots. The kinds under `string` and `number`
leave out the segment of their ancestor `literal`.

* `Kind.mem_all`: the list of all kinds is complete.
* `Kind.isA_refl`, `Kind.isA_token`: a kind falls under itself and under the root.
-/

namespace TableLexer

/-- A kind of token. `error` marks text that no rule recognized. -/
inductive Kind where
  | token | text | whitespace | escape | error | other | keyword | keywordConstant
  | keywordDeclaration | keywordNamespace | keywordPseudo | keywordReserved | keywordType | name
  | nameAttribute | nameBuiltin | nameBuiltinPseudo | nameClass | nameConstant | nameDecorator
  | nameEntity | nameException | nameFunction | nameFunctionMagic | nameProperty | nameLabel
  | nameNamespace | nameOther | nameTag | nameVariable | nameVariableClass | nameVariableGlobal
  | nameVariableInstance | nameVariableMagic | literal | literalDate | string | stringAffix
  | stringBacktick | stringChar | stringDelimiter | stringDoc | stringDouble | stringEscape
  | stringHeredoc | stringInterpol | stringOther | stringRegex | stringSingle | stringSymbol
  | number | numberBin | numberFloat | numberHex | numberInteger | numberIntegerLong | numberOct
  | operator | operatorWord | punctuation | punctuationMarker | comment | commentHashbang
  | commentMultiline | commentPreproc | commentPreprocFile | commentSingle | commentSpecial
  | generic | genericDeleted | genericEmph | genericError | genericHeading | genericInserted
  | genericOutput | genericPrompt | genericStrong | genericSubheading | genericTraceback
  deriving DecidableEq, Repr, Inhabited

namespace Kind

/-! ## The tree -/

/-- Every kind, each after its parent. -/
def all : List Kind := [
  .token, .text, .whitespace, .escape, .error, .other, .keyword, .keywordConstant,
  .keywordDeclaration, .keywordNamespace, .keywordPseudo, .keywordReserved, .keywordType, .name,
  .nameAttribute, .nameBuiltin, .nameBuiltinPseudo, .nameClass, .nameConstant, .nameDecorator,
  .nameEntity, .nameException, .nameFunction, .nameFunctionMagic, .nameProperty, .nameLabel,
  .nameNamespace, .nameOther, .nameTag, .nameVariable, .nameVariableClass, .nameVariableGlobal,
  .nameVariableInstance, .nameVariableMagic, .literal, .literalDate, .string, .stringAffix,
  .stringBacktick, .stringChar, .stringDelimiter, .stringDoc, .stringDouble, .stringEscape,
  .stringHeredoc, .stringInterpol, .stringOther, .stringRegex, .stringSingle, .stringSymbol,
  .number, .numberBin, .numberFloat, .numberHex, .numberInteger, .numberIntegerLong, .numberOct,
  .operator, .operatorWord, .punctuation, .punctuationMarker, .comment, .commentHashbang,
  .commentMultiline, .commentPreproc, .commentPreprocFile, .commentSingle, .commentSpecial,
  .generic, .genericDeleted, .genericEmph, .genericError, .genericHeading, .genericInserted,
  .genericOutput, .genericPrompt, .genericStrong, .genericSubheading, .genericTraceback]

/-- The written form of a kind. -/
def path : Kind → String
  | .token => "Token"
  | .text => "Text"
  | .whitespace => "Text.Whitespace"
  | .escape => "Escape"
  | .error => "Error"
  | .other => "Other"
  | .keyword => "Keyword"
  | .keywordConstant => "Keyword.Constant"
  | .keywordDeclaration => "Keyword.Declaration"
  | .keywordNamespace => "Keyword.Namespace"
  | .keywordPseudo => "Keyword.Pseudo"
  | .keywordReserved => "Keyword.Reserved"
  | .keywordType => "Keyword.Type"
  | .name => "Name"
  | .nameAttribute => "Name.Attribute"
  | .nameBuiltin => "Name.Builtin"
  | .nameBuiltinPseudo => "Name.Builtin.Pseudo"
  | .nameClass => "Name.Class"
  | .nameConstant => "Name.Constant"
  | .nameDecorator => "Name.Decorator"
  | .nameEntity => "Name.Entity"
  | .nameException => "Name.Exception"
  | .nameFunction => "Name.Function"
  | .nameFunctionMagic => "Name.Function.Magic"
  | .nameProperty => "Name.Property"
  | .nameLabel => "Name.Label"
  | .nameNamespace => "Name.Namespace"
  | .nameOther => "Name.Other"
  | .nameTag => "Name.Tag"
  | .nameVariable => "Name.Variable"
  | .nameVariableClass => "Name.Variable.Class"
  | .nameVariableGlobal => "Name.Variable.Global"
  | .nameVariableInstance => "Name.Variable.Instance"
  | .nameVariableMagic => "Name.Variable.Magic"
  | .literal => "Literal"
  | .literalDate => "Literal.Date"
  | .string => "String"
  | .stringAffix => "String.Affix"
  | .stringBacktick => "String.Backtick"
  | .stringChar => "String.Char"
  | .stringDelimiter => "String.Delimiter"
  | .stringDoc => "String.Doc"
  | .stringDouble => "String.Double"
  | .stringEscape => "String.Escape"
  | .stringHeredoc => "String.Heredoc"
  | .stringInterpol => "String.Interpol"
  | .stringOther => "String.Other"
  | .stringRegex => "String.Regex"
  | .stringSingle => "String.Single"
  | .stringSymbol => "String.Symbol"
  | .number => "Number"
  | .numberBin => "Number.Bin"
  | .numberFloat => "Number.Float"
  | .numberHex => "Number.Hex"
  | .numberInteger => "Number.Integer"
  | .numberIntegerLong => "Number.Integer.Long"
  | .numberOct => "Number.Oct"
  | .operator => "Operator"
  | .operatorWord => "Operator.Word"
  | .punctuation => "Punctuation"
  | .punctuationMarker => "Punctuation.Marker"
  | .comment => "Comment"
  | .commentHashbang => "Comment.Hashbang"
  | .commentMultiline => "Comment.Multiline"
  | .commentPreproc => "Comment.Preproc"
  | .commentPreprocFile => "Comment.PreprocFile"
  | .commentSingle => "Comment.Single"
  | .commentSpecial => "Comment.Special"
  | .generic => "Generic"
  | .genericDeleted => "Generic.Deleted"
  | .genericEmph => "Generic.Emph"
  | .genericError => "Generic.Error"
  | .genericHeading => "Generic.Heading"
  | .genericInserted => "Generic.Inserted"
  | .genericOutput => "Generic.Output"
  | .genericPrompt => "Generic.Prompt"
  | .genericStrong => "Generic.Strong"
  | .genericSubheading => "Generic.Subheading"
  | .genericTraceback => "Generic.Traceback"

/-- The kind one step closer to the root, which itself has none. -/
def parent? : Kind → Option Kind
  | .token => none
  | .text | .escape | .error | .other | .keyword | .name | .literal | .operator | .punctuation
  | .comment | .generic =>
      some .token
  | .whitespace =>
      some .text
  | .keywordConstant | .keywordDeclaration | .keywordNamespace | .keywordPseudo
  | .keywordReserved | .keywordType =>
      some .keyword
  | .nameAttribute | .nameBuiltin | .nameClass | .nameConstant | .nameDecorator | .nameEntity
  | .nameException | .nameFunction | .nameProperty | .nameLabel | .nameNamespace | .nameOther
  | .nameTag | .nameVariable =>
      some .name
  | .nameBuiltinPseudo =>
      some .nameBuiltin
  | .nameFunctionMagic =>
      some .nameFunction
  | .nameVariableClass | .nameVariableGlobal | .nameVariableInstance | .nameVariableMagic =>
      some .nameVariable
  | .literalDate | .string | .number =>
      some .literal
  | .stringAffix | .stringBacktick | .stringChar | .stringDelimiter | .stringDoc | .stringDouble
  | .stringEscape | .stringHeredoc | .stringInterpol | .stringOther | .stringRegex
  | .stringSingle | .stringSymbol =>
      some .string
  | .numberBin | .numberFloat | .numberHex | .numberInteger | .numberOct =>
      some .number
  | .numberIntegerLong =>
      some .numberInteger
  | .operatorWord =>
      some .operator
  | .punctuationMarker =>
      some .punctuation
  | .commentHashbang | .commentMultiline | .commentPreproc | .commentPreprocFile | .commentSingle
  | .commentSpecial =>
      some .comment
  | .genericDeleted | .genericEmph | .genericError | .genericHeading | .genericInserted
  | .genericOutput | .genericPrompt | .genericStrong | .genericSubheading | .genericTraceback =>
      some .generic

/-- The kinds from `kind` up to the root, at most `n + 1` of them. -/
def climb : Nat → Kind → List Kind
  | 0, kind => [kind]
  | n + 1, kind => kind :: (kind.parent?.map (climb n)).getD []

/-- The kind followed by its ancestors up to the root. -/
def ancestors (kind : Kind) : List Kind := climb 4 kind

/-- Whether the kind is `ancestor` or falls under it. -/
def isA (kind ancestor : Kind) : Bool := kind.ancestors.contains ancestor

/-- The number of steps from the root. -/
def depth (kind : Kind) : Nat := kind.ancestors.length - 1

/-- The name of a kind as one word: its path without the dots. Text that is white
space goes by its last name alone. -/
def word (kind : Kind) : String :=
  match kind with
  | .whitespace => "Whitespace"
  | _ => String.ofList (kind.path.toList.filter (· ≠ '.'))

/-! ## Reading a path -/

/-- A text that is no path of a kind. -/
structure Unknown where
  text : String
  deriving DecidableEq, Repr

def Unknown.message (e : Unknown) : String := s!"unknown token kind `{e.text}`"

/-- The kind whose path is `text`, without anything around it. -/
def ofPath? (text : Text) : Option Kind := all.find? fun kind => kind.path.toList == text

/-- Leaves out the segment `Literal` before a string or a number. -/
def dropLiteral (text : Text) : Text :=
  match text.dropLead? "Literal.".toList with
  | some rest =>
      if rest.startsWith "String".toList || rest.startsWith "Number".toList then rest else text
  | none => text

/-- Reads a path. White space around it is ignored, and it may be spelled in
full: from the root, and with the segment `Literal` of strings and numbers. -/
def ofText? (text : Text) : Option Kind :=
  let bare := text.trim
  if bare = "Token".toList then some .token
  else ofPath? (dropLiteral ((bare.dropLead? "Token.".toList).getD bare))

def parse (text : String) : Except Unknown Kind :=
  match ofText? text.toList with
  | some kind => .ok kind
  | none => .error ⟨text⟩

/-! ## Properties of the tree -/

theorem mem_all (kind : Kind) : kind ∈ all := by
  cases kind <;> decide

theorem isA_refl (kind : Kind) : kind.isA kind = true := by
  cases kind <;> rfl

theorem isA_token (kind : Kind) : kind.isA .token = true := by
  cases kind <;> rfl

end Kind

end TableLexer
