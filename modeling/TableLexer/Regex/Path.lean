import TableLexer.Text

/-!
# Ways to match

A *path* is one way in which a program can match the beginning of a text: the
place it has come to and what it has recorded on the way. Among the paths that
come to the same place the first one is preferred, and `Path.distinct` keeps it.

* `Path.mem_of_mem_distinct`: keeping one path per place makes up no path.
* `Path.sweep_mem`: what repeating a step leads to has every property that the
  step keeps.
-/

namespace TableLexer.Regex

/-- One way to match. `captures` holds the extents of the groups left so far, the
latest first, and `starts` where the groups that are open were entered, the
innermost first. `trail` holds the marks passed since the last character was
consumed. -/
structure Path where
  place : Cursor
  captures : List (Nat × Extent)
  starts : List Nat
  trail : List Nat
  deriving DecidableEq, Repr, Inhabited

namespace Path

/-- The path that has not yet moved. -/
def start (place : Cursor) : Path := ⟨place, [], [], []⟩

def pos (p : Path) : Nat := p.place.pos

/-- The path after the next character. -/
def advance (p : Path) : Path := { p with place := p.place.next, trail := [] }

/-- The path after the next character, if that passes the test. -/
def advanceIf? (test : Char → Bool) (p : Path) : Option Path :=
  if p.place.rest.head?.any test then some p.advance else none

/-- The path after the characters of `t`, if they are next. -/
def along? : Text → Path → Option Path
  | [], p => some p
  | c :: t, p => (p.advanceIf? (· == c)).bind (along? t)

/-- The path after a mark, unless it has passed the mark at this place. -/
def pass? (mark : Nat) (p : Path) : Option Path :=
  if p.trail.contains mark then none else some { p with trail := mark :: p.trail }

/-- Enters a group. -/
def enter (p : Path) : Path := { p with starts := p.pos :: p.starts }

/-- Leaves the innermost open group and records what it has matched. -/
def leave (number : Nat) (p : Path) : Path :=
  { p with
    captures := (number, ⟨p.starts.headD p.pos, p.pos⟩) :: p.captures
    starts := p.starts.tail }

/-- The extent that a group matched last. -/
def group? (p : Path) (number : Nat) : Option Extent := p.captures.lookup number

/-! ## One path per place -/

/-- The paths found so far, the latest first, and which offsets they have come to:
bit `i` of `seen` stands for the offset `base + i`. -/
structure Found where
  base : Nat
  seen : Nat
  latest : List Path

namespace Found

def none (base : Nat) : Found := ⟨base, 0, []⟩

/-- Whether a path to the offset has been found. -/
def has (f : Found) (pos : Nat) : Bool := f.seen.testBit (pos - f.base)

/-- Adds a path as the last choice. -/
def add (f : Found) (p : Path) : Found :=
  { f with seen := f.seen ||| (1 <<< (p.pos - f.base)), latest := p :: f.latest }

/-- Adds a path unless another one to the same offset has been found. -/
def addNew (f : Found) (p : Path) : Found := if f.has p.pos then f else f.add p

/-- The paths in the order of preference. -/
def toList (f : Found) : List Path := f.latest.reverse

end Found

/-- The least offset that one of the paths has come to. -/
def lowest : List Path → Nat
  | [] => 0
  | [p] => p.pos
  | p :: rest => min p.pos (lowest rest)

/-- The first path to each offset. -/
def distinct : List Path → List Path
  | [] => []
  | [p] => [p]
  | paths => (paths.foldl Found.addNew (Found.none (lowest paths))).toList

/-! ## Repetition -/

/-- All that repeating a step leads to from the path `p`, added to what has been
found. A step that consumes nothing is not repeated. The number bounds the length
of the way; it is enough that it exceeds the number of characters left. -/
def sweep (step : Path → List Path) (greedy : Bool) : Nat → Path → Found → Found
  | 0, _, found => found
  | n + 1, p, found =>
      if found.has p.pos then found
      else if greedy then
        ((step p).foldl
          (fun found q => if p.pos < q.pos then sweep step greedy n q found else found)
          found).add p
      else
        (step p).foldl
          (fun found q => if p.pos < q.pos then sweep step greedy n q found else found)
          (found.add p)

/-- The paths that repeat a step any number of times from one of the given paths. -/
def iterate (step : Path → List Path) (greedy : Bool) (paths : List Path) : List Path :=
  (paths.foldl (fun found p => sweep step greedy (p.place.rest.length + 1) p found)
    (Found.none (lowest paths))).toList

/-- The paths after each of the next characters as long as they pass the test and do
not come to an offset that `stop` holds for, in front of `shorter`. `p` gives what
stays the same. -/
def runOf (test : Char → Bool) (stop : Nat → Bool) (p : Path) :
    (shorter : List Path) → (pos : Nat) → Text → List Path
  | shorter, _, [] => shorter
  | shorter, pos, c :: rest =>
      let after := pos + c.utf8Size
      if test c && !stop after then
        runOf test stop p ({ p with place := ⟨some c, after, rest⟩, trail := [] } :: shorter)
          after rest
      else shorter

/-- The path and those that continue it by characters that pass the test, up to an
offset that `stop` holds for, in the order of preference. -/
def runFrom (test : Char → Bool) (stop : Nat → Bool) (greedy : Bool) (p : Path) : List Path :=
  let longestFirst := runOf test stop p [p] p.pos p.place.rest
  if greedy then longestFirst else longestFirst.reverse

/-- The paths that consume any number of characters that pass the test, after one of
the given paths. A path that comes to an offset found before is not followed, as
all that it leads to has been found as well. -/
def run (test : Char → Bool) (greedy : Bool) : List Path → List Path
  | [] => []
  | [p] => runFrom test (fun _ => false) greedy p
  | paths =>
      (paths.foldl
        (fun found p =>
          if found.has p.pos then found
          else (runFrom test found.has greedy p).foldl Found.add found)
        (Found.none (lowest paths))).toList

/-! ## Membership -/

theorem mem_toList {f : Found} {p : Path} : p ∈ f.toList ↔ p ∈ f.latest := by
  simp [Found.toList]

theorem mem_addNew {f : Found} {p q : Path} (h : q ∈ (f.addNew p).latest) :
    q = p ∨ q ∈ f.latest := by
  unfold Found.addNew at h
  split at h
  · exact .inr h
  · simpa [Found.add] using h

theorem mem_foldl_addNew {paths : List Path} {f : Found} {q : Path}
    (h : q ∈ (paths.foldl Found.addNew f).latest) : q ∈ paths ∨ q ∈ f.latest := by
  induction paths generalizing f with
  | nil => exact .inr h
  | cons p paths ih =>
      rcases ih h with h | h
      · exact .inl (List.mem_cons_of_mem _ h)
      · rcases mem_addNew h with rfl | h
        · exact .inl List.mem_cons_self
        · exact .inr h

theorem mem_of_mem_distinct {paths : List Path} {q : Path} (h : q ∈ distinct paths) :
    q ∈ paths := by
  unfold distinct at h
  split at h
  · exact h
  · exact h
  · rcases mem_foldl_addNew (mem_toList.1 h) with h | h
    · exact h
    · simp [Found.none] at h

/-- A property that holds of a path and that the step keeps holds of all that
repeating the step leads to. -/
theorem sweep_mem {step : Path → List Path} {greedy : Bool} {P : Path → Prop}
    (keeps : ∀ p q, P p → q ∈ step p → P q) {n : Nat} {p : Path} {found : Found}
    (hp : P p) (hf : ∀ q ∈ found.latest, P q) :
    ∀ q ∈ (sweep step greedy n p found).latest, P q := by
  induction n generalizing p found with
  | zero => simpa [sweep] using hf
  | succ n ih =>
      have fold : ∀ (qs : List Path) (g : Found), (∀ q ∈ qs, P q) → (∀ q ∈ g.latest, P q) →
          ∀ q ∈ (qs.foldl (fun found q =>
            if p.pos < q.pos then sweep step greedy n q found else found) g).latest, P q := by
        intro qs
        induction qs with
        | nil => intro g _ hg; simpa using hg
        | cons q qs ihq =>
            intro g hqs hg
            simp only [List.foldl_cons]
            apply ihq _ (fun r hr => hqs r (List.mem_cons_of_mem _ hr))
            split
            · exact ih (hqs q List.mem_cons_self) hg
            · exact hg
      have add : ∀ g : Found, (∀ q ∈ g.latest, P q) → ∀ q ∈ (g.add p).latest, P q := by
        intro g hg q hq
        rcases List.mem_cons.1 hq with rfl | hq
        · exact hp
        · exact hg q hq
      simp only [sweep]
      split
      · exact hf
      split
      · exact add _ (fold _ _ (fun q hq => keeps p q hp hq) hf)
      · exact fold _ _ (fun q hq => keeps p q hp hq) (add _ hf)

end Path

end TableLexer.Regex
