import TableLexer.Pattern.Fragment
import TableLexer.Pattern.Matcher

/-!
# Pools of matchers

A pool compiles the patterns of one table, all with the same flags and fragments.
Patterns with the same expansion are compiled once and share a *slot*.

* `Pool.compile_slot`: the matcher that is returned stands in the pool at its slot.
* `Pool.compile_pattern`: it is the matcher of the expansion.
-/

namespace TableLexer

/-- The matchers compiled so far, by slot. -/
structure Pool where
  flags : PatternFlags
  fragments : Fragments
  matchers : List Matcher
  deriving Repr, Inhabited

/-- A matcher of a pool with its slot. -/
structure Pooled where
  slot : Nat
  matcher : Matcher
  deriving DecidableEq, Repr, Inhabited

namespace Pool

def new (flags : PatternFlags) (fragments : Fragments) : Pool := ⟨flags, fragments, []⟩

/-- The number of patterns compiled. -/
def count (p : Pool) : Nat := p.matchers.length

/-- The matcher of an expanded pattern, if it has been compiled. -/
def find? (expanded : Text) : (slot : Nat) → List Matcher → Option Pooled
  | _, [] => none
  | slot, m :: rest =>
      if m.pattern = expanded then some ⟨slot, m⟩ else find? expanded (slot + 1) rest

/-- The matcher of a pattern, with the pool afterwards. -/
def compile (p : Pool) (pattern : Text) : Except PatternError (Pooled × Pool) := do
  let expanded ← p.fragments.expand pattern
  match find? expanded 0 p.matchers with
  | some found => .ok (found, p)
  | none => do
      let matcher ← Matcher.compile expanded p.flags
      .ok (⟨p.count, matcher⟩, { p with matchers := p.matchers ++ [matcher] })

theorem find?_eq_some {expanded : Text} {slot : Nat} {ms : List Matcher} {found : Pooled}
    (h : find? expanded slot ms = some found) :
    slot ≤ found.slot ∧ ms[found.slot - slot]? = some found.matcher ∧
      found.matcher.pattern = expanded := by
  induction ms generalizing slot with
  | nil => simp [find?] at h
  | cons m ms ih =>
      simp only [find?] at h
      split at h
      · next hp =>
          cases h
          simp [hp]
      · obtain ⟨hle, hget, hpat⟩ := ih h
        refine ⟨by omega, ?_, hpat⟩
        rw [show found.slot - slot = found.slot - (slot + 1) + 1 by omega]
        simpa using hget

theorem compile_slot {p q : Pool} {pattern : Text} {found : Pooled}
    (h : p.compile pattern = .ok (found, q)) : q.matchers[found.slot]? = some found.matcher := by
  unfold compile at h
  cases he : p.fragments.expand pattern with
  | error e => simp [he, bind, Except.bind] at h
  | ok expanded =>
      simp only [he, bind, Except.bind] at h
      split at h
      · next f hf =>
          cases h
          simpa using (find?_eq_some hf).2.1
      · cases hm : Matcher.compile expanded p.flags with
        | error e => simp [hm] at h
        | ok m =>
            simp only [hm, Except.ok.injEq, Prod.mk.injEq] at h
            obtain ⟨rfl, rfl⟩ := h
            simp [count]

theorem compile_pattern {p q : Pool} {pattern : Text} {found : Pooled}
    (h : p.compile pattern = .ok (found, q)) :
    p.fragments.expand pattern = .ok found.matcher.pattern := by
  unfold compile at h
  cases he : p.fragments.expand pattern with
  | error e => simp [he, bind, Except.bind] at h
  | ok expanded =>
      simp only [he, bind, Except.bind] at h
      split at h
      · next f hf =>
          cases h
          rw [(find?_eq_some hf).2.2]
      · cases hm : Matcher.compile expanded p.flags with
        | error e => simp [hm] at h
        | ok m =>
            simp only [hm, Except.ok.injEq, Prod.mk.injEq] at h
            obtain ⟨rfl, rfl⟩ := h
            unfold Matcher.compile at hm
            split at hm
            · cases hm; rfl
            · simp at hm

end Pool

end TableLexer
