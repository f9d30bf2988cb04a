/-!
# Compact spans

An interval of byte offsets whose ends are words of 32 bits, for consumers that
keep many of them and accept texts of less than four gibibytes. The ends are kept
as they are given; a span whose end lies below its start has no length.

* `Span.ofBounds_eq_ok_iff`: bounds are accepted exactly when both fit a word.
* `Span.contains_iff`, `Span.merge_contains`: membership, and that merging loses
  no offset.
-/

namespace TableLexer

/-- The interval from `start` up to `stop`. -/
structure Span where
  start : UInt32
  stop : UInt32
  deriving DecidableEq, Repr, Inhabited

/-- The bound of a span that does not fit a word of 32 bits. The start is looked
at first. -/
inductive SpanError where
  | startTooLarge (bound : Nat)
  | endTooLarge (bound : Nat)
  deriving DecidableEq, Repr

/-- A number to base 16 with capital letters. -/
def capitalHex (n : Nat) : String := String.ofList ((Nat.toDigits 16 n).map Char.toUpper)

def SpanError.message : SpanError → String
  | .startTooLarge n =>
      let digits := capitalHex n
      s!"span start {n} (0x{digits}) exceeds u32::MAX (0xFFFFFFFF)"
  | .endTooLarge n =>
      let digits := capitalHex n
      s!"span end {n} (0x{digits}) exceeds u32::MAX (0xFFFFFFFF)"

namespace Span

/-- The empty span at offset zero. -/
def empty : Span := ⟨0, 0⟩

/-- The span with the given bounds, if both fit. -/
def ofBounds (start stop : Nat) : Except SpanError Span :=
  if UInt32.size ≤ start then .error (.startTooLarge start)
  else if UInt32.size ≤ stop then .error (.endTooLarge stop)
  else .ok ⟨start.toUInt32, stop.toUInt32⟩

/-- The number of bytes, unless the end lies below the start. -/
def length? (s : Span) : Option UInt32 :=
  if s.stop < s.start then none else some (s.stop - s.start)

def isEmpty (s : Span) : Bool := s.start == s.stop

def contains (s : Span) (offset : UInt32) : Bool := s.start ≤ offset && offset < s.stop

/-- The smallest span that covers both. -/
def merge (s t : Span) : Span := ⟨min s.start t.start, max s.stop t.stop⟩

/-- The written form: the two bounds with two dots between them. -/
def render (s : Span) : String := s!"{s.start}..{s.stop}"

theorem ofBounds_eq_ok_iff {start stop : Nat} :
    (∃ s, ofBounds start stop = .ok s) ↔ start < UInt32.size ∧ stop < UInt32.size := by
  unfold ofBounds
  split
  · simp; omega
  split
  · simp; omega
  · simp; omega

theorem contains_iff {s : Span} {offset : UInt32} :
    s.contains offset = true ↔ s.start ≤ offset ∧ offset < s.stop := by
  simp [contains]

theorem merge_contains {s t : Span} {offset : UInt32} (h : s.contains offset = true) :
    (s.merge t).contains offset = true := by
  rw [contains_iff] at h ⊢
  simp only [UInt32.le_iff_toNat_le, UInt32.lt_iff_toNat_lt] at h ⊢
  simp only [merge]
  constructor
  · rw [show min s.start t.start = if s.start ≤ t.start then s.start else t.start from rfl]
    split
    · exact h.1
    · next hn => rw [UInt32.le_iff_toNat_le] at hn; omega
  · rw [show max s.stop t.stop = if s.stop ≤ t.stop then t.stop else s.stop from rfl]
    split
    · next hn => rw [UInt32.le_iff_toNat_le] at hn; omega
    · exact h.2

end Span

end TableLexer
