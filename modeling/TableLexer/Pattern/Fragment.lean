import TableLexer.Pattern.Error

/-!
# Fragments

A fragment is a named pattern that other patterns refer to. A reference is written
as an opening brace, a colon, the name and a closing brace, and stands for the
fragment in a group that does not capture. The brace counts only where no
backslash precedes it; a backslash and the character after it are taken together.

A pattern is first cut into *pieces*, which are then replaced from left to right.
Fragments may refer to each other, but not in a circle.

* `Piece.write_cut`: the pieces of a pattern, written down again, are the pattern.
-/

namespace TableLexer

/-- A piece of a pattern. -/
inductive Piece where
  | plain (c : Char)
  | escaped (c : Char)
  | reference (name : Text)
  /-- The beginning of a reference that is not closed, with what follows it. -/
  | unclosed (rest : Text)
  deriving DecidableEq, Repr

namespace Piece

/-- Cuts a pattern into pieces. In a reference, `name` holds its name so far, the last
character first. -/
def cutFrom : (name : Option Text) → Text → List Piece
  | none, [] => []
  | none, ['\\'] => [.plain '\\']
  | none, '\\' :: c :: rest => .escaped c :: cutFrom none rest
  | none, '\x7b' :: ':' :: rest => cutFrom (some []) rest
  | none, c :: rest => .plain c :: cutFrom none rest
  | some name, [] => [.unclosed name.reverse]
  | some name, c :: rest =>
      if c = '\x7d' then .reference name.reverse :: cutFrom none rest
      else cutFrom (some (c :: name)) rest

/-- The pieces of a pattern. -/
def cut (pattern : Text) : List Piece := cutFrom none pattern

/-- The text of a piece. -/
def write : Piece → Text
  | .plain c => [c]
  | .escaped c => ['\\', c]
  | .reference name => '\x7b' :: ':' :: (name ++ ['\x7d'])
  | .unclosed rest => '\x7b' :: ':' :: rest

theorem write_cutFrom (name : Option Text) (pattern : Text) :
    (cutFrom name pattern).flatMap write =
      match name with
      | none => pattern
      | some name => '\x7b' :: ':' :: (name.reverse ++ pattern) := by
  fun_induction cutFrom name pattern with
  | case1 => rfl
  | case2 => rfl
  | case3 c rest ih => simpa [write] using ih
  | case4 rest ih => simpa using ih
  | case5 c rest => simp_all [write]
  | case6 name => simp [write]
  | case7 name rest ih => simp_all [write]
  | case8 name c rest h ih => simpa using ih

theorem write_cut (pattern : Text) : (cut pattern).flatMap write = pattern := by
  simpa [cut] using write_cutFrom none pattern

end Piece

/-- The fragments of a table, in the order of their first definition. -/
structure Fragments where
  defs : List (Text × Text)
  deriving DecidableEq, Repr, Inhabited

namespace Fragments

def empty : Fragments := ⟨[]⟩

/-- Puts a definition in the place of an earlier one of the same name. -/
def replaceIn (name pattern : Text) : List (Text × Text) → List (Text × Text)
  | [] => [(name, pattern)]
  | entry :: rest =>
      if entry.1 = name then (name, pattern) :: rest else entry :: replaceIn name pattern rest

/-- Defines a fragment anew. -/
def insert (f : Fragments) (name pattern : Text) : Fragments := ⟨replaceIn name pattern f.defs⟩

def get? (f : Fragments) (name : Text) : Option Text := f.defs.lookup name

def size (f : Fragments) : Nat := f.defs.length

def isEmpty (f : Fragments) : Bool := f.defs.isEmpty

/-- Whether a text can be referred to: it is not empty and has only letters and
digits of ASCII, underscores and dashes. -/
def isName (name : Text) : Bool :=
  !name.isEmpty && name.all fun c => c.isAlphanum || c = '_' || c = '-'

/-- Replaces the references among the pieces of the pattern `whole` from left to right
by what `resolve` makes of their names. -/
def substitute (resolve : Text → Except PatternError Text) (whole : Text) :
    List Piece → Except PatternError Text
  | [] => .ok []
  | .reference name :: rest =>
      if isName name then do
        let body ← resolve name
        let after ← substitute resolve whole rest
        .ok ("(?:".toList ++ body ++ ')' :: after)
      else .error (.invalidFragmentName name)
  | .unclosed _ :: _ => .error (.unterminatedFragment whole)
  | piece :: rest => do
      let after ← substitute resolve whole rest
      .ok (piece.write ++ after)

section Substitute

variable (resolve : Text → Except PatternError Text) (whole : Text) (rest : List Piece)

theorem substitute_plain (c : Char) :
    substitute resolve whole (.plain c :: rest) = (c :: ·) <$> substitute resolve whole rest :=
  rfl

theorem substitute_escaped (c : Char) :
    substitute resolve whole (.escaped c :: rest)
      = ('\\' :: c :: ·) <$> substitute resolve whole rest :=
  rfl

theorem substitute_reference (name : Text) :
    substitute resolve whole (.reference name :: rest) =
      if isName name then
        resolve name >>= fun body =>
          ("(?:".toList ++ body ++ ')' :: ·) <$> substitute resolve whole rest
      else .error (.invalidFragmentName name) :=
  rfl

end Substitute

/-- The expansion of the fragment `name`, referred to from inside the fragments
`active`, outermost first. -/
def resolve (f : Fragments) (expand : List Text → Text → Except PatternError Text)
    (active : List Text) (name : Text) : Except PatternError Text :=
  if active.contains name then .error (.fragmentCycle (active ++ [name]))
  else
    match f.get? name with
    | none => .error (.undefinedFragment name)
    | some body => expand (active ++ [name]) body

/-- Expands a pattern inside the fragments `active`. The number bounds how many more
fragments may be entered; as none is entered twice, the number of definitions is
enough. -/
def expandIn (f : Fragments) : Nat → List Text → Text → Except PatternError Text
  | 0, active, pattern =>
      substitute (f.resolve (fun active _ => .error (.fragmentCycle active)) active) pattern
        (Piece.cut pattern)
  | depth + 1, active, pattern =>
      substitute (f.resolve (f.expandIn depth) active) pattern (Piece.cut pattern)

/-- The pattern with all references replaced. -/
def expand (f : Fragments) (pattern : Text) : Except PatternError Text :=
  f.expandIn f.size [] pattern

end Fragments

end TableLexer
