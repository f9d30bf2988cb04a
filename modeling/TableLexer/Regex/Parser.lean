import TableLexer.Regex.Bracket
import TableLexer.Regex.Tree

/-!
# Reading patterns

The reader goes through a pattern from left to right. It keeps the items of the
current sequence, the finished choices of the current group and, on a stack, the
groups around it. A flag group changes the mode up to the end of the group around
it, also across the choices that follow.

A pattern is wrong, and no more is said about it, if it breaks the grammar, names
an unknown class, repeats a group's name, needs more than ASCII where the mode
forbids it or nests on more than `maxHeight` levels.
-/

namespace TableLexer.Regex.Parser

/-- The number of levels on which a pattern may nest. -/
def maxHeight : Nat := 250

/-! ## Items -/

/-- A part of a pattern, with the number of levels on which it is written. An item
that only changes the mode cannot be repeated. -/
structure Item where
  tree : Tree
  height : Nat
  modeOnly : Bool
  deriving Repr

namespace Item

def leaf (tree : Tree) : Item := ⟨tree, 0, false⟩

/-- Items, the last one first, as one: a single one by itself, several in a tree over theirs. -/
def together (combine : List Tree → Tree) : List Item → Item
  | [] => leaf .empty
  | [item] => item
  | items =>
      ⟨combine (items.reverse.map Item.tree), 1 + (items.map Item.height).foldl max 0, false⟩

/-- The items of a sequence, the last one first, as one. -/
def sequence : List Item → Item := together .sequence

/-- The choices of a group, the last one first, as one. -/
def choice : List Item → Item := together .choice

end Item

/-! ## Single characters -/

/-- A character as a pattern. -/
def literal (m : Mode) (c : Char) : Tree := .leaf (.literal m c)

/-- The pattern for one character that does not end a line. In a pattern for ASCII
there is none. -/
def dot? (m : Mode) : Option Tree :=
  if !m.unicode then none
  else if m.dotAll then some (.leaf (.set .full))
  else if m.crlf then some (.leaf (.set (CharSet.ofHex "A D").complement))
  else some (.leaf (.set (CharSet.singleton '\n').complement))

def lineStart (m : Mode) : Tree :=
  .look (if !m.multiLine then .textStart else if m.crlf then .anyLineStart else .lineStart)

def lineEnd (m : Mode) : Tree :=
  .look (if !m.multiLine then .textEnd else if m.crlf then .anyLineEnd else .lineEnd)

/-- The pattern that an escape stands for. -/
def ofEscape? (m : Mode) : Escape → Option Tree
  | .char c byte => if Escape.charAllowed m c byte then some (literal m c) else none
  | .look l => some (.look l)
  | .set s => some (.leaf (.set s))

/-! ## Repetition -/

/-- Reads digits to base 10. In verbose mode blanks and comments may stand after
each. `fuel` bounds the number of digits. -/
def readDigits (m : Mode) : (fuel : Nat) → Option Nat → Text → Option Nat × Text
  | fuel + 1, value, c :: rest =>
      if c.isDigit then
        readDigits m fuel (some (10 * value.getD 0 + (c.toNat - '0'.toNat))) (m.skip rest)
      else (value, c :: rest)
  | _, value, rest => (value, rest)

/-- Reads a number with white space around it. There may be none, but one that does
not fit a word of 32 bits is wrong. -/
def readCount (m : Mode) (rest : Text) : Option (Option Nat × Text) :=
  let (value, rest) := readDigits m rest.length none (rest.dropWhile isBlank)
  if value.any (4294967296 ≤ ·) then none else some (value, rest.dropWhile isBlank)

/-- Reads the bounds of a repetition after the opening brace. -/
def readBounds (m : Mode) (rest : Text) : Option (Nat × Option Nat × Text) :=
  match m.skip rest with
  | [] => none
  | rest => do
      let (least, rest) ← readCount m rest
      match rest with
      | ',' :: rest =>
          match m.skip rest with
          | [] => none
          | '\x7d' :: rest => least.map (·, none, rest)
          | rest => do
              let least ← least
              let (most, rest) ← readCount m rest
              let most ← most
              match rest with
              | '\x7d' :: rest => if least ≤ most then some (least, some most, rest) else none
              | _ => none
      | '\x7d' :: rest => least.map fun n => (n, some n, rest)
      | _ => none

/-! ## Groups -/

/-- The flags of a group: each with whether it is set or cleared, in order. -/
abbrev Flags := List (Char × Bool)

/-- Reads the flags of a group up to the colon or parenthesis after them. No flag may
occur twice, a dash at most once, and a flag has to follow it. -/
def readFlags : (cleared : Bool) → Flags → Text → Option (Flags × Bool × Text)
  | _, _, [] => none
  | cleared, flags, c :: rest =>
      if c = ':' || c = ')' then
        if cleared && !(flags.head?.any fun flag => !flag.2) then none
        else some (flags.reverse, c = ':', rest)
      else if c = '-' then if cleared then none else readFlags true flags rest
      else if ['i', 'm', 's', 'U', 'u', 'R', 'x'].contains c && !(flags.any (·.1 = c)) then
        readFlags cleared ((c, !cleared) :: flags) rest
      else none

/-- The mode after one more flag. -/
def setFlag (m : Mode) (flag : Char × Bool) : Mode :=
  let on := flag.2
  match flag.1 with
  | 'i' => { m with ignoreCase := on }
  | 'm' => { m with multiLine := on }
  | 's' => { m with dotAll := on }
  | 'U' => { m with swapGreed := on }
  | 'u' => { m with unicode := on }
  | 'R' => { m with crlf := on }
  | _ => { m with verbose := on }

/-- Whether a character may start the name of a group. -/
def startsName (c : Char) : Bool := c = '_' || Unicode.Property.alphabetic.contains c

/-- Whether a character may continue the name of a group. -/
def continuesName (c : Char) : Bool :=
  startsName c || c = '.' || c = '[' || c = ']' || Unicode.Category.number.contains c

/-- Reads the name of a group up to the closing angle bracket. -/
def readName (rest : Text) : Option (Text × Text) :=
  let name := rest.takeWhile (· ≠ '>')
  match name, rest.dropWhile (· ≠ '>') with
  | first :: others, _ :: rest =>
      if startsName first && others.all continuesName then some (name, rest) else none
  | _, _ => none

/-- An opening parenthesis with what belongs to it. -/
inductive Opening where
  | flags (flags : Flags)
  | plain (flags : Flags)
  | numbered
  | named (name : Text)
  deriving Repr

/-- Reads an opening after its parenthesis. Conditions on the text around a match are
not supported. -/
def readOpening (m : Mode) (rest : Text) : Option (Opening × Text) :=
  match m.skip rest with
  | '?' :: 'P' :: '<' :: rest => (readName rest).map fun (name, rest) => (.named name, rest)
  | '?' :: '<' :: c :: rest =>
      if c = '=' || c = '!' then none
      else (readName (c :: rest)).map fun (name, rest) => (.named name, rest)
  | '?' :: rest => do
      let (flags, opens, rest) ← readFlags false [] rest
      if opens then some (.plain flags, rest)
      else if flags.isEmpty then none
      else some (.flags flags, rest)
  | rest => some (.numbered, rest)

/-! ## Patterns -/

/-- A group that is open: its choices and the items of the current one, the last
first, its number if it captures, and the mode around it. -/
structure Frame where
  choices : List Item
  items : List Item
  number : Option Nat
  outer : Mode
  deriving Repr

/-- How far the reader has come: the innermost group with those around it, the mode,
the number of the next capture group and the names used. -/
structure State where
  frame : Frame
  around : List Frame
  mode : Mode
  nextGroup : Nat
  names : List Text
  deriving Repr

namespace Frame

def push (f : Frame) (item : Item) : Frame := { f with items := item :: f.items }

/-- Ends the current choice. -/
def endChoice (f : Frame) : Frame :=
  { f with choices := Item.sequence f.items :: f.choices, items := [] }

/-- What has been read since the group was opened. -/
def body (f : Frame) : Item := Item.choice (Item.sequence f.items :: f.choices)

end Frame

namespace State

def start (m : Mode) : State := ⟨⟨[], [], none, m⟩, [], m, 1, []⟩

def push (s : State) (item : Item) : State := { s with frame := s.frame.push item }

/-- Opens a group whose body is read in the given mode. -/
def openGroup (s : State) (number : Option Nat) (mode : Mode) : State :=
  { s with frame := ⟨[], [], number, s.mode⟩, around := s.frame :: s.around, mode }

/-- Opens a capture group. -/
def openCapture (s : State) : State :=
  { s.openGroup (some s.nextGroup) s.mode with nextGroup := s.nextGroup + 1 }

/-- Closes the innermost group, if one is open. -/
def closeGroup? (s : State) : Option State :=
  match s.around with
  | [] => none
  | parent :: around =>
      let body := s.frame.body
      let tree :=
        match s.frame.number with
        | some number => .group number body.tree
        | none => body.tree
      some { s with
        frame := parent.push ⟨tree, 1 + body.height, false⟩
        around
        mode := s.frame.outer }

/-- Puts a repetition around the last item, if there is one that can be repeated. -/
def repeatLast? (s : State) (min : Nat) (max : Option Nat) (lazy : Bool) : Option State :=
  match s.frame.items with
  | item :: items =>
      if item.modeOnly then none
      else
        let tree := .repeated min max (lazy == s.mode.swapGreed) item.tree
        some { s with frame := { s.frame with items := ⟨tree, 1 + item.height, false⟩ :: items } }
  | [] => none

/-- Applies an opening. -/
def enter? (s : State) : Opening → Option State
  | .flags flags =>
      some { s.push ⟨.empty, 0, true⟩ with mode := flags.foldl setFlag s.mode }
  | .plain flags => some (s.openGroup none (flags.foldl setFlag s.mode))
  | .numbered => some s.openCapture
  | .named name =>
      if s.names.contains name then none
      else some { s.openCapture with names := name :: s.names }

end State

/-- Splits off the question mark that makes a repetition lazy. -/
def takeLazy : Text → Bool × Text
  | '?' :: rest => (true, rest)
  | rest => (false, rest)

/-- One step of the reader, from a place where nothing is to be skipped. -/
def step (s : State) : Text → Option (State × Text)
  | [] => none
  | c :: rest =>
      let m := s.mode
      let uncounted (min : Nat) (max : Option Nat) : Option (State × Text) :=
        let (lazy, rest) := takeLazy rest
        (s.repeatLast? min max lazy).map (·, rest)
      match c with
      | '(' => do
          let (opening, rest) ← readOpening m rest
          let s ← s.enter? opening
          some (s, rest)
      | ')' => s.closeGroup?.map (·, rest)
      | '|' => some ({ s with frame := s.frame.endChoice }, rest)
      | '[' => do
          let (part, rest) ← Bracket.read m rest
          some (s.push ⟨.leaf (.set part.set), part.height, false⟩, rest)
      | '?' => uncounted 0 (some 1)
      | '*' => uncounted 0 none
      | '+' => uncounted 1 none
      | '\x7b' => do
          let (min, max, rest) ← readBounds m rest
          let (lazy, rest) := takeLazy (m.skip rest)
          let s ← s.repeatLast? min max lazy
          some (s, rest)
      | '\\' => do
          let (escape, rest) ← Escape.read m rest
          let tree ← ofEscape? m escape
          some (s.push (.leaf tree), rest)
      | '.' => (dot? m).map fun tree => (s.push (.leaf tree), rest)
      | '^' => some (s.push (.leaf (lineStart m)), rest)
      | '$' => some (s.push (.leaf (lineEnd m)), rest)
      | c => some (s.push (.leaf (literal m c)), rest)

/-- Reads to the end of a pattern. `fuel` bounds the number of steps. -/
def readAll : (fuel : Nat) → State → Text → Option State
  | 0, _, _ => none
  | fuel + 1, s, rest =>
      match s.mode.skip rest with
      | [] => some s
      | rest =>
          match step s rest with
          | some (s, rest) => readAll fuel s rest
          | none => none

/-- The syntax tree of a pattern. -/
def parse (m : Mode) (pattern : Text) : Option Tree := do
  let s ← readAll (pattern.length + 1) (State.start m) pattern
  if s.around.isEmpty then
    let body := s.frame.body
    if body.height ≤ maxHeight then some body.tree else none
  else none

end TableLexer.Regex.Parser
