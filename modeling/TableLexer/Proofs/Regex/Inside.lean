import TableLexer.Proofs.Regex.Words
import TableLexer.Table

/-!
# Matches lie in the text

A match never leaves the text behind the place where it has started: it ends between
characters, and so do all of its groups.

Results:
1. `Match.Reads.inside`: so it is with a match that goes by a word.
2. `matchAt?_inside`: a match starts at the place of the search, and it and its groups
   are cut between characters, the groups inside of it.
-/

namespace TableLexer

/-- The extent starts and ends at places of the text between the places `o` and `d`. -/
def Extent.Within (o d : Cursor) (e : Extent) : Prop :=
  ∃ first last, o.Precedes first ∧ first.pos = e.start ∧ first.Precedes last ∧
    last.pos = e.stop ∧ last.Precedes d

theorem Extent.Spells.within {o d : Cursor} {t : Text} {e : Extent} (h : e.Spells o t d) :
    e.Within o d := by
  obtain ⟨first, last, hf, hfp, ht, hlp, hl⟩ := h
  exact ⟨first, last, hf, hfp, ⟨t, ht⟩, hlp, hl⟩

namespace Regex

/-- The match starts at the place `c` and ends at a later one, and its groups lie
inside. -/
structure Match.Inside (c : Cursor) (m : Match) (d : Cursor) : Prop where
  start : m.whole.start = c.pos
  passes : c.Precedes d
  stop : m.whole.stop = d.pos
  groups : ∀ e, some e ∈ m.groups → e.Within c d

theorem Match.Inside.isEmpty_eq_false {m : Match} {c d : Cursor} (h : m.Inside c d)
    (hlt : c.pos < d.pos) : m.whole.isEmpty = false := by
  rw [Extent.isEmpty, h.start, h.stop]
  exact beq_false_of_ne (Nat.ne_of_lt hlt)

theorem Match.Reads.inside {c d : Cursor} {w : List Event} {m : Match} (h : m.Reads c w d) :
    m.Inside c d where
  start := congrArg Extent.start h.whole
  passes := ⟨_, h.passes⟩
  stop := congrArg Extent.stop h.whole
  groups := by
    intro e he
    obtain ⟨i, hi⟩ := List.mem_iff_getElem?.mp he
    obtain ⟨t, -, hspells⟩ := h.groups i e hi
    exact hspells.within

/-- The preferred match at a place lies in the text behind it. -/
theorem matchAt?_inside {r : Regex} {place : Cursor} {m : Match}
    (h : r.matchAt? place = some m) : ∃ d, m.Inside place d := by
  obtain ⟨w, -, d, hread⟩ := matchAt?_reads h
  exact ⟨d, hread.inside⟩

end Regex

/-- So does the match of a rule. -/
theorem Rule.matchAt?_inside {rule : Rule} {place : Cursor} {m : Regex.Match}
    (h : rule.matchAt? place = some m) : ∃ d, m.Inside place d := by
  unfold Rule.matchAt? at h
  split at h
  · exact Regex.matchAt?_inside h
  · cases h
    exact ⟨place, rfl, .refl place, rfl, by simp⟩

end TableLexer
