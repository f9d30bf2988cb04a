import TableLexer.Grammar

/-!
# Writing entries

Short forms for the entries of a grammar, with patterns and words as strings.
-/

namespace TableLexer.Entry

/-- A rule that emits its match as one token. -/
def token (pattern : String) (kind : Kind) : Entry :=
  .rule ⟨some (.regex (.ofString pattern)), .kind kind, []⟩

/-- A rule that emits any word of a list, followed by what `back` matches, as one
token. -/
def words (list : List String) (back : String) (kind : Kind) : Entry :=
  .rule ⟨some ((PatternSpec.ofWords (list.map .ofString)).withBack (.ofString back)), .kind kind, []⟩

/-- A rule that emits each of its groups with a kind. -/
def groups (pattern : String) (kinds : List Kind) : Entry :=
  .rule ⟨some (.regex (.ofString pattern)), .groups (kinds.map .kind), []⟩

/-- A rule that lexes its first group again and emits the other ones with kinds. -/
def relexFirst (pattern : String) (d : DelegateSpec) (kinds : List Kind) : Entry :=
  .rule ⟨some (.regex (.ofString pattern)), .groups (.delegate d :: kinds.map .kind), []⟩

/-- A rule that always matches the empty text and emits nothing. -/
def always : Entry := .rule ⟨none, .nothing, []⟩

/-! ## Changes of the stack -/

def push (e : Entry) (state : String) : Entry := e.withOp (.push state)

def pushCurrent (e : Entry) : Entry := e.withOp .pushCurrent

def pushCombined (e : Entry) (states : List String) : Entry := e.withOp (.pushCombined states)

def pop (e : Entry) : Entry := e.withOp (.pop 1)

end TableLexer.Entry
