import TableLexer.Kind
import TableLexer.Pattern.Flags
import TableLexer.Pattern.Fragment

/-!
# Grammars

A grammar describes a lexer as it is written: named states, each a list of entries.
Most entries are rules, which pair a pattern with what to emit and how to change
the stack of states. Other entries stand for the rules of another state, or for
those of the state of the same name in the grammar that this one extends. Nothing
in a grammar is compiled or checked.

* `Grammar.inheritEntries_no_inherit`: a state that has been defined holds no entry
  that still asks for inherited rules.
-/

namespace TableLexer

/-- The position of a table in a library of tables. -/
abbrev TableId := Nat

/-- The table with which a piece of text is lexed again: the running one or another
one of the library. -/
inductive Target where
  | this
  | table (id : TableId)
  deriving DecidableEq, Repr, Inhabited

/-- The pattern of a rule: a regular expression, which may refer to fragments, or a
list of words between two of them. -/
inductive PatternSpec where
  | regex (pattern : Text)
  | words (words : List Text) (front back : Text)
  deriving DecidableEq, Repr

/-- A run over matched text, with the names of the states it starts with, the bottom
first. There is always one. -/
structure DelegateSpec where
  target : Target
  stack : List String
  stack_ne_nil : stack ≠ []
  deriving DecidableEq, Repr

/-- What to do with a capture group. -/
inductive GroupSpec where
  | kind (kind : Kind)
  | skip
  | delegate (delegate : DelegateSpec)
  deriving DecidableEq, Repr

/-- What a rule emits: nothing, its match as one token, its capture groups one by one
or the tokens of a run over its match. -/
inductive ActionSpec where
  | nothing
  | kind (kind : Kind)
  | groups (groups : List GroupSpec)
  | delegate (delegate : DelegateSpec)
  deriving DecidableEq, Repr

/-- A change of the stack. `pushCurrent` pushes the state that is on top, `goto`
replaces it, and `pushCombined` pushes one state that has the rules of the listed
ones in order. -/
inductive StackOpSpec where
  | push (state : String)
  | goto (state : String)
  | pushCurrent
  | pop (count : Nat)
  | pushCombined (states : List String)
  deriving DecidableEq, Repr

/-- A rule. Without a pattern it always matches the empty text. -/
structure RuleSpec where
  pattern : Option PatternSpec
  action : ActionSpec
  ops : List StackOpSpec
  deriving DecidableEq, Repr

/-- An entry of a state. `splice` stands for the rules of another state and `inherit`
for those of the same state in the extended grammar. -/
inductive Entry where
  | splice (state : String)
  | inherit
  | rule (rule : RuleSpec)
  deriving DecidableEq, Repr

/-- The name of the state in which runs start. -/
def rootState : String := "root"

/-! ## Parts of grammars -/

namespace PatternSpec

/-- A list of words alone. -/
def ofWords (list : List Text) : PatternSpec := .words list [] []

/-- Sets the pattern in front of a list of words. -/
def withFront (front : Text) : PatternSpec → PatternSpec
  | .words list _ back => .words list front back
  | p => p

/-- Sets the pattern behind a list of words. -/
def withBack (back : Text) : PatternSpec → PatternSpec
  | .words list front _ => .words list front back
  | p => p

end PatternSpec

namespace DelegateSpec

/-- A run that starts in the root state of a table. -/
def root (target : Target) : DelegateSpec := ⟨target, [rootState], List.cons_ne_nil _ _⟩

/-- Starts in a state on top of the root state. -/
def inState (d : DelegateSpec) (state : String) : DelegateSpec :=
  ⟨d.target, [rootState, state], List.cons_ne_nil _ _⟩

/-- Starts with the given states. With none the stack stays as it is. -/
def onStack (d : DelegateSpec) (states : List String) : DelegateSpec :=
  match states with
  | [] => d
  | first :: others => ⟨d.target, first :: others, List.cons_ne_nil _ _⟩

end DelegateSpec

/-- Adds a change of the stack to a rule. Other entries have none. -/
def Entry.withOp (op : StackOpSpec) : Entry → Entry
  | .rule r => .rule { r with ops := r.ops ++ [op] }
  | e => e

/-! ## Grammars -/

/-- A grammar. `states` are in the order of their first definition, and `inherited`
holds the states of the grammar that this one extends. With `resetOnNewline` a
line feed that no rule matches brings a run back to the root state. -/
structure Grammar where
  name : String
  flags : PatternFlags
  fragments : Fragments
  states : List (String × List Entry)
  inherited : List (String × List Entry)
  resetOnNewline : Bool
  deriving Repr, Inhabited

namespace Grammar

def new (name : String) : Grammar := ⟨name, .standard, .empty, [], [], false⟩

/-- A grammar that has all states of `g` until it defines them anew. -/
def derive (g : Grammar) (name : String) : Grammar := { g with name, inherited := g.states }

def withFlags (g : Grammar) (flags : PatternFlags) : Grammar := { g with flags }

def withFragment (g : Grammar) (name pattern : Text) : Grammar :=
  { g with fragments := g.fragments.insert name pattern }

def withResetOnNewline (g : Grammar) (on : Bool) : Grammar := { g with resetOnNewline := on }

/-- Puts the rules of the extended grammar in the place of the first entry that asks
for them and drops the other ones. -/
def inheritEntries : (parent : List Entry) → List Entry → List Entry
  | _, [] => []
  | parent, .inherit :: rest => parent ++ inheritEntries [] rest
  | parent, e :: rest => e :: inheritEntries parent rest

/-- Puts a definition in the place of an earlier one of the same name. -/
def replaceIn (name : String) (entries : List Entry) :
    List (String × List Entry) → List (String × List Entry)
  | [] => [(name, entries)]
  | state :: rest =>
      if state.1 = name then (name, entries) :: rest
      else state :: replaceIn name entries rest

/-- Defines a state, in the place of an earlier definition if there is one. -/
def state (g : Grammar) (name : String) (entries : List Entry) : Grammar :=
  let parent := (g.inherited.lookup name).getD []
  { g with states := replaceIn name (inheritEntries parent entries) g.states }

/-- The entries of a state. -/
def entries? (g : Grammar) (name : String) : Option (List Entry) := g.states.lookup name

def stateNames (g : Grammar) : List String := g.states.map Prod.fst

theorem inheritEntries_no_inherit {parent : List Entry} (h : Entry.inherit ∉ parent)
    (entries : List Entry) : Entry.inherit ∉ inheritEntries parent entries := by
  fun_induction inheritEntries parent entries with
  | case1 => simp
  | case2 parent rest ih => simp [h, ih]
  | case3 parent e rest hne ih =>
      rw [List.mem_cons, not_or]
      exact ⟨fun he => hne he.symm, ih h⟩

end Grammar

end TableLexer
