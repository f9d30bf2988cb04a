import TableLexer.CharSet
import TableLexer.Regex.Look

/-!
# Pattern expressions

The expressions that a pattern denotes, in a simplified form. The functions
`charSet`, `concat`, `alternation` and `repetition` build expressions and simplify
them on the way; a pattern is always read through them. The form is part of what
a pattern means: which of several matches is preferred depends on it where a
factor is taken out of an alternation, and a group that is repeated no times
does not count.

* A sequence nests to the right, holds no empty expression and joins literal
  texts; an alternation nests to the right.
* `groupCount_concat`: a sequence has the groups of its parts.
-/

namespace TableLexer.Regex

/-- A pattern expression. `text` is a literal and `group` a capture group with its
number. `repeated` takes from `min` up to `max` copies, or without bound; it
prefers more of them if `greedy` and fewer if not. `alt` prefers its first part. -/
inductive Expr where
  | fail
  | empty
  | text (t : Text)
  | set (s : CharSet)
  | look (l : Look)
  | group (number : Nat) (body : Expr)
  | repeated (min : Nat) (max : Option Nat) (greedy : Bool) (body : Expr)
  | seq (first second : Expr)
  | alt (first second : Expr)
  deriving DecidableEq, Repr, Inhabited

namespace Expr

/-! ## Measures -/

/-- The least number of characters that a match takes; none if nothing can match. -/
def minLength? : Expr → Option Nat
  | .fail => none
  | .empty => some 0
  | .text t => some t.length
  | .set _ => some 1
  | .look _ => some 0
  | .group _ e => e.minLength?
  | .repeated min _ _ e => e.minLength?.map (min * ·)
  | .seq a b => a.minLength?.bind fun m => b.minLength?.map (m + ·)
  | .alt a b => a.minLength?.bind fun m => b.minLength?.map (Min.min m)

/-- The largest number of characters that a match takes; none if there is no bound
or nothing can match. -/
def maxLength? : Expr → Option Nat
  | .fail => none
  | .empty => some 0
  | .text t => some t.length
  | .set _ => some 1
  | .look _ => some 0
  | .group _ e => e.maxLength?
  | .repeated _ max _ e => max.bind fun k => e.maxLength?.map (k * ·)
  | .seq a b => a.maxLength?.bind fun m => b.maxLength?.map (m + ·)
  | .alt a b => a.maxLength?.bind fun m => b.maxLength?.map (Max.max m)

/-- Whether every match takes at least one character. -/
def alwaysAdvances (e : Expr) : Bool := e.minLength?.any (0 < ·)

/-- The number of capture groups. -/
def groupCount : Expr → Nat
  | .fail | .empty | .text _ | .set _ | .look _ => 0
  | .group _ e => e.groupCount + 1
  | .repeated _ _ _ e => e.groupCount
  | .seq a b => a.groupCount + b.groupCount
  | .alt a b => a.groupCount + b.groupCount

/-! ## Building expressions -/

/-- A set of characters. The empty set fails, and a single character is a literal. -/
def charSet (s : CharSet) : Expr :=
  if s.isEmpty then .fail
  else match s.single? with
    | some c => .text [c]
    | none => .set s

/-- Puts an expression in front of a sequence. -/
def cons (a b : Expr) : Expr :=
  match a, b with
  | .empty, b => b
  | a, .empty => a
  | .text s, .text t => .text (s ++ t)
  | .text s, .seq (.text t) rest => .seq (.text (s ++ t)) rest
  | a, b => .seq a b

/-- One expression after another. -/
def append : Expr → Expr → Expr
  | .seq a b, e => cons a (append b e)
  | a, e => cons a e

/-- The expressions in sequence. -/
def concat (parts : List Expr) : Expr := parts.foldr append .empty

/-- The factors of a sequence. -/
def factors : Expr → List Expr
  | .seq a b => a :: factors b
  | .empty => []
  | e => [e]

/-- The choices of an alternation. -/
def choices : Expr → List Expr
  | .alt a b => a :: choices b
  | e => [e]

/-- The characters of an expression that matches one character of a set. -/
def oneOf? : Expr → Option CharSet
  | .set s => some s
  | .text [c] => some (.singleton c)
  | _ => none

/-- The longest list with which both lists start. -/
def commonFactors : List Expr → List Expr → List Expr
  | a :: as, b :: bs => if a = b then a :: commonFactors as bs else []
  | _, _ => []

def isSeq : Expr → Bool
  | .seq _ _ => true
  | _ => false

/-- The factors with which all choices start, if each choice is a sequence. -/
def sharedFactors : List Expr → List Expr
  | [] => []
  | first :: rest =>
      if isSeq first && rest.all isSeq then
        rest.foldl (fun shared e => commonFactors shared e.factors) first.factors
      else []

/-- A plain alternation. No choice at all fails. -/
def choose : List Expr → Expr
  | [] => .fail
  | [e] => e
  | e :: rest => .alt e (choose rest)

/-- An alternation of choices none of which is an alternation. Choices between
characters become a set, and factors that all choices start with are taken out
in front; `depth` bounds how often. -/
def alternationOf : (depth : Nat) → List Expr → Expr
  | _, [] => .fail
  | _, [e] => e
  | depth, options =>
      match options.mapM oneOf? with
      | some sets => charSet (.unions sets)
      | none =>
          let shared := sharedFactors options
          match depth, shared with
          | _, [] => choose options
          | 0, _ => choose options
          | depth + 1, _ =>
              let tails := options.map fun e => concat (e.factors.drop shared.length)
              concat (shared ++ [alternationOf depth (tails.flatMap choices)])

/-- The number of factors of the longest choice. -/
def longest (options : List Expr) : Nat :=
  options.foldl (fun n e => max n e.factors.length) 0

/-- A choice between expressions, the first of which is preferred. -/
def alternation (options : List Expr) : Expr :=
  let flat := options.flatMap choices
  alternationOf (longest flat) flat

/-- An expression repeated from `min` up to `max` times. What can match nothing but
the empty text is repeated at most once. -/
def repetition (min : Nat) (max : Option Nat) (greedy : Bool) (e : Expr) : Expr :=
  let vacuous := e.maxLength? = some 0
  let min := if vacuous then Min.min min 1 else min
  let max := if vacuous then some (Min.min (max.getD 1) 1) else max
  if min = 0 ∧ max = some 0 then .empty
  else if min = 1 ∧ max = some 1 then e
  else .repeated min max greedy e

/-! ## Capture groups -/

theorem groupCount_cons (a b : Expr) : (cons a b).groupCount = a.groupCount + b.groupCount := by
  unfold cons
  split <;> simp [groupCount]

theorem groupCount_append (a b : Expr) :
    (append a b).groupCount = a.groupCount + b.groupCount := by
  induction a with
  | seq a rest _ ih => simp [append, groupCount_cons, ih, groupCount, Nat.add_assoc]
  | _ => simp [append, groupCount_cons]

theorem groupCount_concat (parts : List Expr) :
    (concat parts).groupCount = parts.foldr (fun e count => e.groupCount + count) 0 := by
  induction parts with
  | nil => rfl
  | cons e parts ih =>
      have h : concat (e :: parts) = append e (concat parts) := rfl
      rw [h, groupCount_append, ih, List.foldr_cons]

end Expr

end TableLexer.Regex
