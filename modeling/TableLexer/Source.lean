import TableLexer.Text.Blank

/-!
# Preparing a source text

A source text is brought into a form that rules can rely on before it is lexed:
lines end in a line feed, and, depending on the options, the ends are trimmed,
tabs are expanded and the last line is terminated. The steps are taken in this
order. Offsets of tokens refer to the prepared text.
-/

namespace TableLexer

/-- How a source text is prepared. `stripAll` trims white space at both ends and
makes `stripNewlines`, which trims line feeds, irrelevant. A tab advances to the
next multiple of `tabSize` columns; with zero tabs are kept. -/
structure SourceOptions where
  stripAll : Bool
  stripNewlines : Bool
  tabSize : Nat
  ensureNewline : Bool
  deriving DecidableEq, Repr

namespace SourceOptions

/-- Lines are trimmed at both ends of the text and the last one is terminated. -/
def standard : SourceOptions := ⟨false, true, 0, true⟩

/-- Only the ends of lines are changed. -/
def verbatim : SourceOptions := ⟨false, false, 0, false⟩

instance : Inhabited SourceOptions := ⟨standard⟩

end SourceOptions

namespace Text

/-- Writes each carriage return with a line feed after it as a line feed. -/
def joinReturns : Text → Text
  | [] => []
  | '\r' :: '\n' :: rest => '\n' :: joinReturns rest
  | c :: rest => c :: joinReturns rest

/-- Writes each carriage return as a line feed. -/
def replaceReturns (text : Text) : Text := text.map fun c => if c = '\r' then '\n' else c

/-- Writes each end of a line as a line feed. A text without carriage returns is left
alone. -/
def unifyNewlines (text : Text) : Text :=
  if '\r' ∈ text then text.joinReturns.replaceReturns else text

/-- The number of blanks from a column up to the next tab stop. -/
def tabWidth (size column : Nat) : Nat := size - column % size

/-- Replaces each tab by blanks up to the next tab stop. Columns count characters
and start anew after a line feed. -/
def expandTabsFrom (size : Nat) : Nat → Text → Text
  | _, [] => []
  | column, c :: rest =>
      if c = '\t' then
        List.replicate (tabWidth size column) ' ' ++
          expandTabsFrom size (column + tabWidth size column) rest
      else if c = '\n' then c :: expandTabsFrom size 0 rest
      else c :: expandTabsFrom size (column + 1) rest

def expandTabs (size : Nat) (text : Text) : Text := expandTabsFrom size 0 text

/-- The text with a line feed at its end. -/
def terminate (text : Text) : Text :=
  if text.getLast? = some '\n' then text else text ++ ['\n']

end Text

namespace SourceOptions

/-- Trims the ends as the options say. -/
def strip (o : SourceOptions) (text : Text) : Text :=
  if o.stripAll then text.trim
  else if o.stripNewlines then text.trimBy (· = '\n')
  else text

/-- Expands tabs, unless the options keep them. -/
def space (o : SourceOptions) (text : Text) : Text :=
  if 0 < o.tabSize ∧ '\t' ∈ text then text.expandTabs o.tabSize else text

/-- Terminates the last line if the options ask for that. -/
def finish (o : SourceOptions) (text : Text) : Text :=
  if o.ensureNewline then text.terminate else text

/-- Applies the options to a source text. -/
def prepare (o : SourceOptions) (source : Text) : Text :=
  o.finish (o.space (o.strip source.unifyNewlines))

end SourceOptions

end TableLexer
