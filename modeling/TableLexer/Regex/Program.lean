import TableLexer.Regex.Expr
import TableLexer.Regex.Path

/-!
# Programs

A program is an expression made ready for matching. It yields all paths from a
place, the preferred one first. What distinguishes it from the expression are its
*marks*: a path may pass a mark once before it consumes a character. Marks stand
in loops whose body can match the empty text, at each point where the body
branches, and so decide what an empty round of such a loop may still do: it
cannot come back to a choice that it has already taken at the same place.

Two paths that have come to the same place match the same way from there on.
Hence only the first of them is kept, and a search takes polynomial time.
-/

namespace TableLexer.Regex

/-- A program. `star` repeats its body any number of times and `span` does so for a
set of characters. -/
inductive Program where
  | fail
  | empty
  | text (t : Text)
  | set (s : CharSet)
  | look (l : Look)
  | group (number : Nat) (body : Program)
  | seq (first second : Program)
  | alt (first second : Program)
  | star (greedy : Bool) (body : Program)
  | span (greedy : Bool) (s : CharSet)
  | mark (id : Nat)
  deriving DecidableEq, Repr, Inhabited

namespace Program

/-! ## Matching -/

/-- The paths of a program after one of the given paths, the preferred one first and
at most one to each place, if that is so of the given ones. -/
def paths : Program → List Path → List Path
  | .fail, _ => []
  | .empty, ps => ps
  | .text t, ps => ps.filterMap (Path.along? t)
  | .set s, ps => ps.filterMap (Path.advanceIf? s.contains)
  | .look l, ps => ps.filter fun p => l.holds p.place
  | .group number a, ps => (a.paths (ps.map Path.enter)).map (Path.leave number)
  | .seq a b, ps => b.paths (a.paths ps)
  | .alt a b, ps => Path.distinct (ps.flatMap fun p => a.paths [p] ++ b.paths [p])
  | .star greedy a, ps => Path.iterate (fun p => a.paths [p]) greedy ps
  | .span greedy s, ps => Path.run s.contains greedy ps
  | .mark id, ps => ps.filterMap (Path.pass? id)

/-- The preferred path of a program that starts at a place. -/
def first? (program : Program) (place : Cursor) : Option Path :=
  (program.paths [Path.start place]).head?

/-! ## From expressions to programs -/

/-- The next mark, if marks are needed, in front of a program. -/
def marked (marks : Bool) (id : Nat) (program : Program) : Program :=
  if marks then .seq (.mark id) program else program

/-- A choice between a program and nothing. -/
def orNothing (greedy : Bool) (program : Program) : Program :=
  if greedy then .alt program .empty else .alt .empty program

/-- Repeats a compiled body any number of times, with a mark after each round. -/
def loop (marks : Bool) (id : Nat) (greedy : Bool) (body : Program) : Program :=
  if marks then .star greedy (.seq body (.mark id))
  else match body with
    | .set s => .span greedy s
    | _ => .star greedy body

/-- `count` copies in sequence, each compiled anew from the number of the next
mark. -/
def copies (compile : Nat → Program × Nat) : Nat → Nat → Program × Nat
  | 0, id => (.empty, id)
  | 1, id => compile id
  | count + 2, id =>
      let (first, id) := compile id
      let (rest, id) := copies compile (count + 1) id
      (.seq first rest, id)

/-- Up to `count` copies, each of which is optional and follows the one before. -/
def optionals (compile : Nat → Program × Nat) (marks greedy : Bool) :
    Nat → Nat → Program × Nat
  | 0, id => (.empty, id)
  | count + 1, id =>
      let (first, id') := compile (id + 1)
      let (rest, id') := optionals compile marks greedy count id'
      let body := if count = 0 then first else .seq first rest
      (marked marks id (orNothing greedy body), id')

/-- One or more copies of a body. The rounds after the first one share its
program. -/
def oneOrMore (compile : Bool → Nat → Program × Nat) (marks greedy : Bool) (id : Nat) :
    Program × Nat :=
  let (body, id') := compile marks (id + 1)
  (.seq body (if marks then .seq (.mark id) (loop marks id greedy body)
    else loop marks id greedy body), id')

/-- Any number of copies of a body that may match the empty text. The first round
is a choice of its own. -/
def anyNumber (compile : Bool → Nat → Program × Nat) (greedy : Bool) (id : Nat) :
    Program × Nat :=
  let (rounds, id') := oneOrMore compile true greedy (id + 1)
  (.seq (.mark id) (orNothing greedy rounds), id')

/-- Compiles an expression. `marks` says whether it stands in a loop whose body can
match the empty text, and `id` is the number of the next mark. -/
def compile : Expr → (marks : Bool) → (id : Nat) → Program × Nat
  | .fail, _, id => (.fail, id)
  | .empty, _, id => (.empty, id)
  | .text t, _, id => (.text t, id)
  | .set s, _, id => (.set s, id)
  | .look l, _, id => (.look l, id)
  | .group number e, marks, id =>
      let (body, id) := compile e marks id
      (.group number body, id)
  | .seq a b, marks, id =>
      let (a, id) := compile a marks id
      let (b, id) := compile b marks id
      (.seq a b, id)
  | .alt a b, marks, id =>
      let (a, id') := compile a marks (id + 1)
      let (b, id') := compile b marks id'
      (marked marks id (.alt a b), id')
  | .repeated min max greedy e, marks, id =>
      match max with
      | some max =>
          let (required, id) := copies (compile e marks) min id
          let (optional, id) := optionals (compile e marks) marks greedy (max - min) id
          if max ≤ min then (required, id)
          else if min = 0 then (optional, id)
          else (.seq required optional, id)
      | none =>
          let looping := marks || !e.alwaysAdvances
          match min with
          | 0 =>
              if e.alwaysAdvances then
                let (body, id') := compile e marks (id + 1)
                (if marks then .seq (.mark id) (loop marks id greedy body)
                  else loop marks id greedy body, id')
              else anyNumber (compile e) greedy id
          | min + 1 =>
              if min = 0 then oneOrMore (compile e) looping greedy id
              else
                let (required, id) := copies (compile e marks) min id
                let (rest, id) := oneOrMore (compile e) looping greedy id
                (.seq required rest, id)

/-- The program of an expression. -/
def ofExpr (e : Expr) : Program := (compile e false 0).1

end Program

end TableLexer.Regex
