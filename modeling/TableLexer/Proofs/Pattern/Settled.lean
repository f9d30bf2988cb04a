import TableLexer.Proofs.Pattern.Expansion

/-!
# An expanded pattern is settled

In a *settled* text reading meets no reference, so expansion leaves it as it is, whatever the
fragments are. The expansion of a pattern is settled: a reference becomes a group, and at the
two ends of the group nothing new begins. Behind a fragment that ends in a lone backslash the
closing parenthesis is read as escaped, but it is not what a reference begins with, so what
follows it is read as before.

Results:
1. `Settled.append`: the seam behind a fragment.
2. `Settled.odd`: in a settled text a backslash escapes every opening of a reference.
3. `Fragments.Fills.settled`, `Fragments.expand_again`: what has been expanded is settled.
-/

namespace TableLexer

/-! ## Definitions -/

/-- Reading the text from left to right meets no reference. -/
inductive Settled : Text → Prop
  | nil : Settled []
  | backslash : Settled ['\\']
  | escaped {c : Char} {rest : Text} (h : Settled rest) : Settled ('\\' :: c :: rest)
  | plain {c : Char} {rest : Text} (hc : c ≠ '\\') (ho : ¬ Piece.Opens (c :: rest))
      (h : Settled rest) : Settled (c :: rest)

/-- The number of backslashes at the end of the text. -/
def backslashes (text : Text) : Nat := (text.reverse.takeWhile (· = '\\')).length

namespace Settled

/-! ## Reading a settled text -/

theorem expands {q : Text} (h : Settled q) (f : Fragments) : f.Expands q q := by
  induction h with
  | nil => exact ⟨[], .nil, .nil⟩
  | backslash => exact ⟨[.plain '\\'], .backslash, .plain '\\' .nil⟩
  | @escaped c rest _ ih =>
    obtain ⟨l, hr, hf⟩ := ih
    exact ⟨.escaped c :: l, .escaped hr, .escaped c hf⟩
  | @plain c rest hc ho _ ih =>
    obtain ⟨l, hr, hf⟩ := ih
    exact ⟨.plain c :: l, .plain hc ho hr, .plain c hf⟩

theorem cons {c : Char} {q : Text} (h : Settled q) (hslash : c ≠ '\\') (hbrace : c ≠ '\x7b') :
    Settled (c :: q) :=
  .plain hslash (fun ho => hbrace (Piece.opens_cons.mp ho).1) h

/-- Two settled texts can be joined where the second begins with a character that is neither a
backslash nor part of an opening, also if the first ends in a lone backslash. -/
theorem append {x q : Text} {c : Char} (hx : Settled x) (hq : Settled q) (hslash : c ≠ '\\')
    (hbrace : c ≠ '\x7b') (hcolon : c ≠ ':') : Settled (x ++ c :: q) := by
  induction hx with
  | nil => exact hq.cons hslash hbrace
  | backslash => exact .escaped hq
  | escaped _ ih => exact .escaped ih
  | @plain d rest hd ho _ ih =>
    show Settled (d :: (rest ++ c :: q))
    refine .plain hd ?_ ih
    rw [Piece.opens_cons] at ho ⊢
    rintro ⟨rfl, hhead⟩
    rw [List.head?_append, Option.or_eq_some_iff] at hhead
    rcases hhead with hhead | ⟨-, hhead⟩
    · exact ho ⟨rfl, hhead⟩
    · exact hcolon (Option.some.inj hhead)

/-! ## Openings in a settled text -/

theorem backslashes_le (text : Text) : backslashes text ≤ text.length := by
  simpa [backslashes] using (List.takeWhile_sublist (l := text.reverse) (· = '\\')).length_le

/-- A character before a text counts if it is a backslash and the text has nothing else. -/
theorem backslashes_cons (c : Char) (text : Text) :
    backslashes (c :: text) =
      if backslashes text = text.length ∧ c = '\\' then backslashes text + 1
      else backslashes text := by
  simp only [backslashes, List.reverse_cons, List.takeWhile_append, List.length_reverse]
  by_cases hall : (text.reverse.takeWhile (· = '\\')).length = text.length
  · by_cases hc : c = '\\' <;> simp [hall, hc]
  · simp [hall]

/-- In a settled text a backslash that is not escaped itself stands before every opening of a
reference: the two characters of an escape both count, or neither does. -/
theorem odd {q pre rest : Text} (h : Settled q) (hq : q = pre ++ '\x7b' :: ':' :: rest) :
    backslashes pre % 2 = 1 := by
  induction h generalizing pre with
  | nil => simp at hq
  | backslash => cases pre <;> simp at hq
  | @escaped c r _ ih =>
    match pre with
    | [] => exact absurd (List.cons.inj hq).1 (by decide)
    | [d] =>
      obtain ⟨rfl, -⟩ := List.cons.inj hq
      decide
    | d :: e :: pre =>
      obtain ⟨hd, hq⟩ := List.cons.inj hq
      obtain ⟨-, hq⟩ := List.cons.inj hq
      have hodd := ih hq
      have hle := backslashes_le pre
      simp only [backslashes_cons, List.length_cons]
      grind
  | @plain c r hc ho _ ih =>
    match pre with
    | [] => exact absurd ⟨rest, hq⟩ ho
    | d :: pre =>
      obtain ⟨hd, hq⟩ := List.cons.inj hq
      rw [backslashes_cons, if_neg fun h => hc (hd.trans h.2)]
      exact ih hq

end Settled

namespace Fragments

variable {f : Fragments}

/-- The expansion of a pattern is settled, and does not begin with a colon if the pattern does
not. A colon behind a brace would be one of the pattern, where a reference would begin. -/
theorem Fills.settled {p q : Text} {l : List Piece} (h : f.Fills l q) (hr : Piece.Reads p l) :
    Settled q ∧ (q.head? = some ':' → p.head? = some ':') := by
  induction h generalizing p with
  | nil =>
    cases hr
    exact ⟨.nil, id⟩
  | plain c h ih =>
    cases hr with
    | backslash =>
      cases h
      exact ⟨.backslash, id⟩
    | plain hc ho hr =>
      obtain ⟨hq, hhead⟩ := ih hr
      rw [Piece.opens_cons] at ho
      exact ⟨.plain hc (fun h => ho ((Piece.opens_cons.mp h).imp_right hhead)) hq, id⟩
  | escaped c _ ih =>
    cases hr with
    | escaped hr => exact ⟨.escaped (ih hr).1, id⟩
  | reference _ _ hread _ _ ihx ih =>
    cases hr with
    | reference _ hr =>
      have hgroup := (ihx hread).1.append (ih hr).1 (c := ')') (by decide) (by decide) (by decide)
      refine ⟨?_, fun h => absurd (Option.some.inj h) (by decide)⟩
      rw [List.append_assoc]
      exact ((hgroup.cons (c := ':') (by decide) (by decide)).cons (c := '?') (by decide)
        (by decide)).cons (c := '(') (by decide) (by decide)

/-- A settled pattern is what expansion leaves as it is. -/
theorem expand_eq_self {p : Text} : f.expand p = .ok p ↔ Settled p := by
  constructor
  · intro h
    obtain ⟨l, hr, hfills⟩ := expand_ok_iff.mp h
    exact (hfills.settled hr).1
  · exact fun h => expand_ok_iff.mpr (h.expands f)

/-- What has been expanded is left as it is, by any fragments, and in it a backslash escapes
every opening of a reference. -/
theorem expand_again (f g : Fragments) {p q : Text} (h : f.expand p = .ok q) :
    g.expand q = .ok q ∧
      ∀ pre rest, q = pre ++ '\x7b' :: ':' :: rest → backslashes pre % 2 = 1 := by
  obtain ⟨l, hr, hfills⟩ := expand_ok_iff.mp h
  have hq : Settled q := (hfills.settled hr).1
  exact ⟨expand_ok_iff.mpr (hq.expands g), fun pre rest => hq.odd⟩

/-- A fragment that ends in a backslash, referred to behind a brace. -/
theorem expand_again_backslash :
    let f : Fragments := ⟨[("end".toList, "\\\\x\\".toList)]⟩
    let q := "\x7b(?:\\\\x\\):end\x7d".toList
    f.expand "\x7b\x7b:end\x7d:end\x7d".toList = .ok q ∧ f.expand q = .ok q := by
  intro f q
  have h : f.expand "\x7b\x7b:end\x7d:end\x7d".toList = .ok q := by decide +kernel
  exact ⟨h, (expand_again f f h).1⟩

end Fragments

end TableLexer
