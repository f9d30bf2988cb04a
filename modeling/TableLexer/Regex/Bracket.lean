import TableLexer.Regex.Escape

/-!
# Classes in brackets

A class in square brackets lists characters, ranges, escapes and further classes.
Operators between such lists take the common characters (`&&`), those of the
first list alone (`--`) or those of exactly one list (`~~`); they have the same
rank and group to the left. A list may be empty.

Brackets nest, so the reader keeps the open ones on a stack.
-/

namespace TableLexer.Regex.Bracket

/-- An operator between two lists of a class. -/
inductive Op where
  | inter
  | diff
  | symmDiff
  deriving DecidableEq, Repr

def Op.apply : Op → CharSet → CharSet → CharSet
  | .inter => CharSet.inter
  | .diff => CharSet.diff
  | .symmDiff => CharSet.symmDiff

/-- A part of a class, with the number of levels on which it nests. -/
structure Part where
  set : CharSet
  height : Nat
  deriving Repr

/-- An open bracket: the parts of the current list, the last one first, and what
stands to the left of it. -/
structure Frame where
  negated : Bool
  parts : List Part
  left : Option (Part × Op)
  deriving Repr

/-- The parts of a list as one. -/
def unite : List Part → Part
  | [] => ⟨.empty, 0⟩
  | [part] => part
  | parts => ⟨.unions (parts.map Part.set), 1 + (parts.map Part.height).foldl max 0⟩

namespace Frame

def push (f : Frame) (part : Part) : Frame := { f with parts := part :: f.parts }

/-- Everything read so far as one part. -/
def total (m : Mode) (f : Frame) : Part :=
  let right := unite f.parts
  match f.left with
  | none => right
  | some (left, op) =>
      ⟨op.apply (m.fold left.set) (m.fold right.set), 1 + max left.height right.height⟩

/-- Ends the current list at an operator. -/
def operator (m : Mode) (op : Op) (f : Frame) : Frame :=
  { f with parts := [], left := some (f.total m, op) }

/-- The class, at its closing bracket. -/
def close? (m : Mode) (f : Frame) : Option Part :=
  let total := f.total m
  (m.negate? f.negated (m.fold total.set)).map fun s => ⟨s, 1 + total.height⟩

end Frame

/-! ## Single items -/

/-- The classes with a name between colons. -/
def posixClasses : List (String × String) := [
  ("alnum", "30-39 41-5A 61-7A"),
  ("alpha", "41-5A 61-7A"),
  ("ascii", "0-7F"),
  ("blank", "9 20"),
  ("cntrl", "0-1F 7F"),
  ("digit", "30-39"),
  ("graph", "21-7E"),
  ("lower", "61-7A"),
  ("print", "20-7E"),
  ("punct", "21-2F 3A-40 5B-60 7B-7E"),
  ("space", "9-D 20"),
  ("upper", "41-5A"),
  ("word", "30-39 41-5A 5F 61-7A"),
  ("xdigit", "30-39 41-46 61-66")]

/-- Reads a class between colons after its opening bracket. The flag says whether
the other characters are meant. -/
def readPosix? : Text → Option (CharSet × Bool × Text)
  | ':' :: rest =>
      let (negated, rest) :=
        match rest with
        | '^' :: rest => (true, rest)
        | rest => (false, rest)
      let name := rest.takeWhile (· ≠ ':')
      match rest.dropWhile (· ≠ ':') with
      | ':' :: ']' :: rest =>
          (posixClasses.lookup (String.ofList name)).map fun s => (.ofHex s, negated, rest)
      | _ => none
  | _ => none

/-- Reads a character or an escape. -/
def readItem (m : Mode) : Text → Option (Escape × Text)
  | [] => none
  | '\\' :: rest => Escape.read m rest
  | c :: rest => some (.char c false, rest)

/-- Whether a character may be a member. A class for ASCII has no others. -/
def memberAllowed (m : Mode) (c : Char) : Bool := m.unicode || c.toNat < 0x80

/-- Reads an item or a range. A dash in front of the closing bracket or of another
dash does not make a range. -/
def readRange (m : Mode) (rest : Text) : Option (Part × Text) := do
  let (first, rest) ← readItem m rest
  let single :=
    match first with
    | .char c _ => if memberAllowed m c then some (CharSet.singleton c) else none
    | .set s => some s
    | .look _ => none
  match m.skip rest with
  | [] => none
  | '-' :: after =>
      if m.peek after = some ']' || m.peek after = some '-' then
        single.map fun s => (⟨s, 0⟩, '-' :: after)
      else do
        let (last, rest) ← readItem m (m.skip after)
        match first, last with
        | .char lo _, .char hi _ =>
            if lo ≤ hi && memberAllowed m lo && memberAllowed m hi then
              some (⟨.range lo.toNat hi.toNat, 0⟩, rest)
            else none
        | _, _ => none
  | rest => single.map fun s => (⟨s, 0⟩, rest)

/-! ## Brackets -/

/-- Reads the dashes in front of a list, which are members. `fuel` bounds their
number. -/
def readDashes (m : Mode) : (fuel : Nat) → Frame → Text → Frame × Text
  | fuel + 1, f, '-' :: rest =>
      readDashes m fuel (f.push ⟨.singleton '-', 0⟩) (m.skip rest)
  | _, f, rest => (f, rest)

/-- Reads the beginning of a class after its opening bracket. A closing bracket that
comes first is a member. -/
def readOpening (m : Mode) (rest : Text) : Option (Frame × Text) := do
  let (negated, rest) :=
    match m.skip rest with
    | '^' :: rest => (true, m.skip rest)
    | rest => (false, rest)
  match readDashes m rest.length ⟨negated, [], none⟩ rest with
  | (_, []) => none
  | (f, ']' :: rest) =>
      if f.parts.isEmpty then
        match m.skip rest with
        | [] => none
        | rest => some (f.push ⟨.singleton ']', 0⟩, rest)
      else some (f, ']' :: rest)
  | opened => some opened

/-- Reads the rest of a class, with the open brackets around the innermost one in
`outer`. `fuel` bounds the number of steps. -/
def readRest (m : Mode) : (fuel : Nat) → Frame → (outer : List Frame) → Text →
    Option (Part × Text)
  | 0, _, _, _ => none
  | fuel + 1, f, outer, rest =>
      match m.skip rest with
      | [] => none
      | '[' :: after =>
          match readPosix? after with
          | some (s, negated, rest) => do
              let s ← m.negate? negated (m.fold s)
              readRest m fuel (f.push ⟨s, 0⟩) outer rest
          | none => do
              let (inner, rest) ← readOpening m after
              readRest m fuel inner (f :: outer) rest
      | ']' :: rest => do
          let part ← f.close? m
          match outer with
          | [] => some (part, rest)
          | parent :: outer => readRest m fuel (parent.push part) outer rest
      | '&' :: '&' :: rest => readRest m fuel (f.operator m .inter) outer rest
      | '-' :: '-' :: rest => readRest m fuel (f.operator m .diff) outer rest
      | '~' :: '~' :: rest => readRest m fuel (f.operator m .symmDiff) outer rest
      | rest => do
          let (part, rest) ← readRange m rest
          readRest m fuel (f.push part) outer rest

/-- Reads a class after its opening bracket. -/
def read (m : Mode) (rest : Text) : Option (Part × Text) := do
  let (f, rest) ← readOpening m rest
  readRest m (rest.length + 1) f [] rest

end TableLexer.Regex.Bracket
