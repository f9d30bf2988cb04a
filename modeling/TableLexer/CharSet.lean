import TableLexer.Text.Literal

/-!
# Sets of characters

A set of characters is a list of intervals of code points, in ascending order and
with at least one code point between two neighbours. In this form every set is
written in one way, so that equal sets are equal lists. Sets are combined without
going through more of their intervals than are asked for.

* `covers_range`: an interval has the code points between its ends.
* `contains_singleton`: a set made from one character has no other.
* `contains_union`, `contains_unions`: a union has the members of its parts.
-/

namespace TableLexer

namespace CharSet

/-- The intervals ascend from `least` on, with a code point between two neighbours. -/
def Ascending : (least : Nat) → List (Nat × Nat) → Prop
  | _, [] => True
  | least, (lo, hi) :: rest => least ≤ lo ∧ lo ≤ hi ∧ Ascending (hi + 2) rest

theorem Ascending.mono {k n : Nat} {xs : List (Nat × Nat)} (h : Ascending n xs) (hle : k ≤ n) :
    Ascending k xs :=
  match xs with
  | [] => trivial
  | _ :: _ => ⟨Nat.le_trans hle h.1, h.2⟩

end CharSet

/-- A set of characters, as ascending intervals of code points. -/
structure CharSet where
  intervals : List (Nat × Nat)
  ascending : CharSet.Ascending 0 intervals
  deriving DecidableEq, Repr

namespace CharSet

/-! ## Membership -/

/-- The largest code point. -/
def maxCode : Nat := 0x10FFFF

/-- Whether a code point lies in one of the intervals. The search ends at the
first interval that starts above the code point. -/
def coversIn : List (Nat × Nat) → Nat → Bool
  | [], _ => false
  | (lo, hi) :: rest, n => if n < lo then false else n ≤ hi || coversIn rest n

/-- Whether a code point belongs to the set. -/
def covers (s : CharSet) (n : Nat) : Bool := coversIn s.intervals n

/-- Whether a character belongs to the set. -/
def contains (s : CharSet) (c : Char) : Bool := s.covers c.toNat

def isEmpty (s : CharSet) : Bool := s.intervals.isEmpty

/-- The greatest code point of a set, and `0` if there is none. -/
def greatest (s : CharSet) : Nat := s.intervals.getLast?.elim 0 Prod.snd

/-- The only member of a set with one member. -/
def single? (s : CharSet) : Option Char :=
  match s.intervals with
  | [(lo, hi)] => if lo = hi ∧ lo.isValidChar then some (Char.ofNat lo) else none
  | _ => none

theorem Ascending.le_of_covers {k n : Nat} {xs : List (Nat × Nat)} (h : Ascending k xs)
    (hn : coversIn xs n = true) : k ≤ n := by
  cases xs with
  | nil => cases hn
  | cons x xs =>
    obtain ⟨hk, -, -⟩ := h
    simp only [coversIn] at hn
    split at hn
    · cases hn
    · omega

theorem Ascending.covers_cons {k lo hi n : Nat} {xs : List (Nat × Nat)}
    (h : Ascending k ((lo, hi) :: xs)) :
    coversIn ((lo, hi) :: xs) n = true ↔ (lo ≤ n ∧ n ≤ hi) ∨ coversIn xs n = true := by
  obtain ⟨-, hle, hrest⟩ := h
  have hfar : coversIn xs n = true → hi + 2 ≤ n := hrest.le_of_covers
  simp only [coversIn]
  split <;> grind

/-! ## Sets from intervals -/

/-- Leaves out the intervals that are empty or do not stand behind those before them. -/
def keepAscending : (least : Nat) → List (Nat × Nat) → List (Nat × Nat)
  | _, [] => []
  | least, (lo, hi) :: rest =>
      if least ≤ lo ∧ lo ≤ hi then (lo, hi) :: keepAscending (hi + 2) rest
      else keepAscending least rest

theorem ascending_keepAscending (least : Nat) (xs : List (Nat × Nat)) :
    Ascending least (keepAscending least xs) := by
  fun_induction keepAscending least xs with
  | case1 => trivial
  | case2 least lo hi rest h ih => exact ⟨h.1, h.2, ih⟩
  | case3 least lo hi rest h ih => exact ih

/-- The set of the given intervals. Those that are not in order are left out. -/
def ofIntervals (xs : List (Nat × Nat)) : CharSet :=
  ⟨keepAscending 0 xs, ascending_keepAscending 0 xs⟩

def empty : CharSet := ⟨[], trivial⟩

instance : Inhabited CharSet := ⟨empty⟩

/-- The code points from `lo` to `hi`. -/
def range (lo hi : Nat) : CharSet :=
  if h : lo ≤ hi then ⟨[(lo, hi)], Nat.zero_le _, h, trivial⟩ else empty

def singleton (c : Char) : CharSet :=
  ⟨[(c.toNat, c.toNat)], Nat.zero_le _, Nat.le_refl _, trivial⟩

/-- All characters. -/
def full : CharSet := range 0 maxCode

theorem covers_range {lo hi n : Nat} : (range lo hi).covers n = true ↔ lo ≤ n ∧ n ≤ hi := by
  simp only [covers, range]
  split <;> simp only [coversIn, empty] <;> grind

theorem contains_full (c : Char) : full.contains c = true := by
  refine covers_range.mpr ⟨Nat.zero_le _, ?_⟩
  show c.toNat ≤ 0x10FFFF
  have hvalid : c.toNat < 0xD800 ∨ 0xDFFF < c.toNat ∧ c.toNat < 0x110000 := c.valid
  omega

theorem contains_singleton {c d : Char} : (singleton c).contains d = true ↔ d = c := by
  have hone : (singleton c).contains d = true ↔ c.toNat ≤ d.toNat ∧ d.toNat ≤ c.toNat := by
    rw [← covers_range, range, dif_pos (Nat.le_refl _)]
    rfl
  rw [hone]
  constructor
  · intro h
    exact Char.toNat_inj.1 (by omega)
  · rintro rfl
    exact ⟨Nat.le_refl _, Nat.le_refl _⟩

/-! ## Unions -/

/-- Puts an interval in front of the union that `more` makes of further intervals with a
list. Intervals that overlap or touch become one. -/
def merge (more : List (Nat × Nat) → List (Nat × Nat)) (lo hi : Nat) :
    List (Nat × Nat) → List (Nat × Nat)
  | [] => (lo, hi) :: more []
  | (a, b) :: rest =>
      if hi + 1 < a then (lo, hi) :: more ((a, b) :: rest)
      else if b + 1 < lo then (a, b) :: merge more lo hi rest
      else if b < hi then merge more (min lo a) hi rest
      else more ((min lo a, b) :: rest)

/-- The code points of two lists of intervals. -/
def unionIn : List (Nat × Nat) → List (Nat × Nat) → List (Nat × Nat)
  | [] => fun ys => ys
  | (lo, hi) :: rest => merge (unionIn rest) lo hi

section

variable {more : List (Nat × Nat) → List (Nat × Nat)} {k lo hi : Nat} {xs ys : List (Nat × Nat)}

theorem Ascending.merge (hmore : ∀ k ys, k ≤ hi + 2 → Ascending k ys → Ascending k (more ys))
    (hk : k ≤ lo) (hle : lo ≤ hi) (hys : Ascending k ys) :
    Ascending k (CharSet.merge more lo hi ys) := by
  induction ys generalizing k lo with
  | nil => exact ⟨hk, hle, hmore _ _ (Nat.le_refl _) trivial⟩
  | cons y ys ih =>
    obtain ⟨a, b⟩ := y
    obtain ⟨ha, hab, hrest⟩ := hys
    simp only [CharSet.merge]
    split
    · exact ⟨hk, hle, hmore _ _ (Nat.le_refl _) ⟨by omega, hab, hrest⟩⟩
    split
    · exact ⟨ha, hab, ih (by omega) hle hrest⟩
    split
    · exact ih (by omega) (by omega) (hrest.mono (by omega))
    · exact hmore _ _ (by omega) ⟨by omega, by omega, hrest⟩

theorem covers_merge {n : Nat} (hmore : ∀ k ys, k ≤ hi + 2 → Ascending k ys → Ascending k (more ys))
    (hcovers : ∀ k ys, k ≤ hi + 2 → Ascending k ys →
      (coversIn (more ys) n = true ↔ coversIn xs n = true ∨ coversIn ys n = true))
    (hk : k ≤ lo) (hle : lo ≤ hi) (hys : Ascending k ys) :
    coversIn (merge more lo hi ys) n = true ↔
      (lo ≤ n ∧ n ≤ hi) ∨ coversIn xs n = true ∨ coversIn ys n = true := by
  induction ys generalizing k lo with
  | nil =>
    have hall := Ascending.merge hmore hk hle hys
    rw [merge, Ascending.covers_cons hall, hcovers _ [] (Nat.le_refl _) trivial]
  | cons y ys ih =>
    obtain ⟨a, b⟩ := y
    have hall := Ascending.merge hmore hk hle hys
    have hcons := hys.covers_cons (n := n)
    obtain ⟨ha, hab, hrest⟩ := hys
    simp only [merge] at hall ⊢
    split at hall <;> rename_i h₁
    · rw [if_pos h₁, Ascending.covers_cons hall,
        hcovers _ ((a, b) :: ys) (Nat.le_refl _) ⟨by omega, hab, hrest⟩]
    rw [if_neg h₁]
    split at hall <;> rename_i h₂
    · have hbehind := ih (by omega : b + 2 ≤ lo) hle hrest
      rw [if_pos h₂, Ascending.covers_cons hall, hbehind, hcons]
      grind
    rw [if_neg h₂]
    split at hall <;> rename_i h₃
    · have hjoined := ih (by omega : k ≤ min lo a) (by omega) (hrest.mono (by omega))
      rw [if_pos h₃, hjoined, hcons]
      grind
    · have hjoined : Ascending k ((min lo a, b) :: ys) := ⟨by omega, by omega, hrest⟩
      rw [if_neg h₃, hcovers k _ (by omega) hjoined, hjoined.covers_cons, hcons]
      grind

end

theorem Ascending.unionIn {k : Nat} {xs ys : List (Nat × Nat)} (hxs : Ascending k xs)
    (hys : Ascending k ys) : Ascending k (CharSet.unionIn xs ys) := by
  induction xs generalizing k ys with
  | nil => exact hys
  | cons x xs ih =>
    obtain ⟨hk, hle, hrest⟩ := hxs
    exact .merge (fun _ _ hk' hys' => ih (hrest.mono hk') hys') hk hle hys

theorem covers_unionIn {k n : Nat} {xs ys : List (Nat × Nat)} (hxs : Ascending k xs)
    (hys : Ascending k ys) :
    coversIn (unionIn xs ys) n = true ↔ coversIn xs n = true ∨ coversIn ys n = true := by
  induction xs generalizing k ys with
  | nil => simp [unionIn, coversIn]
  | cons x xs ih =>
    have hcons := hxs.covers_cons (n := n)
    obtain ⟨hk, hle, hrest⟩ := hxs
    rw [unionIn, covers_merge (fun _ _ hk' hys' => (hrest.mono hk').unionIn hys')
      (fun _ _ hk' hys' => ih (hrest.mono hk') hys') hk hle hys, hcons, or_assoc]

def union (s t : CharSet) : CharSet :=
  ⟨unionIn s.intervals t.intervals, s.ascending.unionIn t.ascending⟩

def unions (sets : List CharSet) : CharSet := sets.foldr union empty

/-- Adds the code points from `lo` to `hi`. -/
def insert (s : CharSet) (lo hi : Nat) : CharSet := s.union (range lo hi)

theorem contains_union {s t : CharSet} {c : Char} :
    (s.union t).contains c = true ↔ s.contains c = true ∨ t.contains c = true :=
  covers_unionIn s.ascending t.ascending

theorem contains_unions {sets : List CharSet} {c : Char} :
    (unions sets).contains c = true ↔ ∃ s ∈ sets, s.contains c = true := by
  induction sets with
  | nil => simp [unions, empty, contains, covers, coversIn]
  | cons s sets ih =>
    rw [show unions (s :: sets) = s.union (unions sets) from rfl, contains_union, ih]
    simp

/-! ## Further combinations -/

/-- The code points from `start` on that lie between the intervals. -/
def gaps : Nat → List (Nat × Nat) → List (Nat × Nat)
  | start, [] => if start ≤ maxCode then [(start, maxCode)] else []
  | start, (lo, hi) :: rest =>
      if start < lo then (start, lo - 1) :: gaps (hi + 1) rest else gaps (hi + 1) rest

theorem Ascending.gaps {start : Nat} {xs : List (Nat × Nat)} (h : Ascending start xs) :
    Ascending start (CharSet.gaps start xs) := by
  induction xs generalizing start with
  | nil =>
    rw [CharSet.gaps]
    split
    · next hle => exact ⟨Nat.le_refl _, hle, trivial⟩
    · trivial
  | cons x xs ih =>
    obtain ⟨lo, hi⟩ := x
    obtain ⟨hstart, hle, hrest⟩ := h
    have hgaps := ih (hrest.mono (Nat.le_succ (hi + 1)))
    rw [CharSet.gaps]
    split
    · exact ⟨Nat.le_refl _, by omega, hgaps.mono (by omega)⟩
    · exact hgaps.mono (by omega)

def complement (s : CharSet) : CharSet := ⟨gaps 0 s.intervals, s.ascending.gaps⟩

def inter (s t : CharSet) : CharSet := (s.complement.union t.complement).complement

def diff (s t : CharSet) : CharSet := s.inter t.complement

/-- The code points in exactly one of the two sets. -/
def symmDiff (s t : CharSet) : CharSet := (s.diff t).union (t.diff s)

/-! ## Written form

Tables are written as numbers to base 16, with a dash between the ends of an
interval and blanks or new lines between intervals. -/

/-- The value of a digit to base 16, upper or lower case. -/
def hexValue (c : Char) : Nat :=
  if c.toNat < 0x41 then c.toNat - 0x30
  else if c.toNat < 0x61 then c.toNat - 0x41 + 10
  else c.toNat - 0x61 + 10

/-- Reads intervals. `lo` is the lower end, once its dash has been read, and `n` the
number read since then, if a digit of it has been. -/
def readHex : Text → (lo n : Option Nat) → List (Nat × Nat)
  | [], lo, n => (n.map fun hi => (lo.getD hi, hi)).toList
  | c :: rest, lo, n =>
      if c = ' ' || c = '\n' then
        match n with
        | some hi => (lo.getD hi, hi) :: readHex rest none none
        | none => readHex rest none none
      else if c = '-' then readHex rest n none
      else readHex rest lo (some (16 * n.getD 0 + hexValue c))

/-- The set written as `text`. -/
def ofHex (text : String) : CharSet := ofIntervals (readHex (.ofString text) none none)

end CharSet

end TableLexer
