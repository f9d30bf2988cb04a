import TableLexer.Regex.Mode

/-!
# Flags of a table

The flags that apply to every pattern of a table.
-/

namespace TableLexer

/-- `multiLine` lets `^` and `$` match at the ends of lines, `dotAll` lets `.` match a
line feed, and with `verbose` white space and comments in patterns do not count. -/
structure PatternFlags where
  multiLine : Bool
  dotAll : Bool
  ignoreCase : Bool
  verbose : Bool
  deriving DecidableEq, Repr

namespace PatternFlags

/-- No flag. -/
def none : PatternFlags := ⟨false, false, false, false⟩

/-- The flags of a table that does not choose others. -/
def standard : PatternFlags := { none with multiLine := true }

instance : Inhabited PatternFlags := ⟨standard⟩

/-- The mode in which patterns are read. -/
def mode (f : PatternFlags) : Regex.Mode where
  ignoreCase := f.ignoreCase
  multiLine := f.multiLine
  dotAll := f.dotAll
  swapGreed := false
  crlf := false
  verbose := f.verbose
  unicode := true

/-- The names of the flags that are set, in their fixed order. -/
def names (f : PatternFlags) : List String :=
  (if f.multiLine then ["MULTI_LINE"] else []) ++ (if f.dotAll then ["DOT_ALL"] else []) ++
    (if f.ignoreCase then ["CASE_INSENSITIVE"] else []) ++
    (if f.verbose then ["IGNORE_WHITESPACE"] else [])

/-- The flag of a name, set in addition. -/
def withName? (f : PatternFlags) : String → Option PatternFlags
  | "MULTI_LINE" => some { f with multiLine := true }
  | "DOT_ALL" => some { f with dotAll := true }
  | "CASE_INSENSITIVE" => some { f with ignoreCase := true }
  | "IGNORE_WHITESPACE" => some { f with verbose := true }
  | _ => Option.none

/-- The printed form. -/
def describe (f : PatternFlags) : String :=
  let inner := if f.names.isEmpty then "0x0" else " | ".intercalate f.names
  s!"RegexFlags({inner})"

end PatternFlags

end TableLexer
