import TableLexer.Pattern.Fragment

/-!
# Reading a pattern

A pattern is read from left to right: a backslash together with the character after it, a
reference up to the first closing brace, and any other character by itself. So whether a
brace begins a reference depends on what has been read before it, and on nothing else.

Result: `Piece.reads_iff`. Reading is what cutting a pattern into pieces does, so every pattern
is read in exactly one way.
-/

namespace TableLexer

namespace Piece

/-! ## Definitions -/

/-- The text begins as a reference does. -/
def Opens (p : Text) : Prop := ∃ rest, p = '\x7b' :: ':' :: rest

/-- Reading the text from left to right gives the pieces. -/
inductive Reads : Text → List Piece → Prop
  | nil : Reads [] []
  /-- A backslash that has nothing after it stands for itself. -/
  | backslash : Reads ['\\'] [.plain '\\']
  | escaped {c : Char} {rest : Text} {l : List Piece} (h : Reads rest l) :
      Reads ('\\' :: c :: rest) (.escaped c :: l)
  | reference {name rest : Text} {l : List Piece} (hname : '\x7d' ∉ name) (h : Reads rest l) :
      Reads ('\x7b' :: ':' :: (name ++ '\x7d' :: rest)) (.reference name :: l)
  | unclosed {rest : Text} (hrest : '\x7d' ∉ rest) :
      Reads ('\x7b' :: ':' :: rest) [.unclosed rest]
  | plain {c : Char} {rest : Text} {l : List Piece} (hc : c ≠ '\\') (ho : ¬ Opens (c :: rest))
      (h : Reads rest l) : Reads (c :: rest) (.plain c :: l)

theorem opens_cons {c : Char} {rest : Text} :
    Opens (c :: rest) ↔ c = '\x7b' ∧ rest.head? = some ':' := by
  constructor
  · rintro ⟨r, hr⟩
    obtain ⟨rfl, rfl⟩ := List.cons.inj hr
    exact ⟨rfl, rfl⟩
  · rintro ⟨rfl, hrest⟩
    obtain ⟨r, rfl⟩ := List.head?_eq_some_iff.mp hrest
    exact ⟨r, rfl⟩

/-! ## Cutting is reading -/

theorem cutFrom_name (acc name rest : Text) (hname : '\x7d' ∉ name) :
    cutFrom (some acc) (name ++ '\x7d' :: rest)
      = .reference (acc.reverse ++ name) :: cutFrom none rest := by
  induction name generalizing acc with
  | nil => simp [cutFrom]
  | cons c name ih =>
    obtain ⟨hc, hname⟩ := not_or.mp (mt List.mem_cons.mpr hname)
    rw [List.cons_append, cutFrom, if_neg (Ne.symm hc), ih _ hname]
    simp

theorem cutFrom_unclosed (acc rest : Text) (hrest : '\x7d' ∉ rest) :
    cutFrom (some acc) rest = [.unclosed (acc.reverse ++ rest)] := by
  induction rest generalizing acc with
  | nil => simp [cutFrom]
  | cons c rest ih =>
    obtain ⟨hc, hrest⟩ := not_or.mp (mt List.mem_cons.mpr hrest)
    rw [cutFrom, if_neg (Ne.symm hc), ih _ hrest]
    simp

theorem cut_plain {c : Char} {rest : Text} (hc : c ≠ '\\') (ho : ¬ Opens (c :: rest)) :
    cut (c :: rest) = .plain c :: cut rest := by
  unfold cut
  rw [cutFrom]
  · exact fun h => absurd h hc
  · exact fun d r h => absurd h hc
  · rintro r rfl rfl
    exact ho ⟨r, rfl⟩

theorem Reads.cut_eq {p : Text} {l : List Piece} (h : Reads p l) : cut p = l := by
  induction h with
  | nil => rfl
  | backslash => rfl
  | @escaped c rest l _ ih => rw [cut, cutFrom, ← ih, cut]
  | @reference name rest l hname _ ih =>
    rw [cut, cutFrom, cutFrom_name _ _ _ hname, ← ih]
    rfl
  | unclosed hrest =>
    rw [cut, cutFrom, cutFrom_unclosed _ _ hrest]
    rfl
  | plain hc ho _ ih => rw [cut_plain hc ho, ih]

/-- The pieces, written down again, are read as what they are, also where a reference has
been begun. -/
theorem reads_write_cutFrom (name : Option Text) (p : Text) (h : ∀ n ∈ name, '\x7d' ∉ n) :
    Reads ((cutFrom name p).flatMap write) (cutFrom name p) := by
  fun_induction cutFrom name p with
  | case1 => exact .nil
  | case2 => exact .backslash
  | case3 c rest ih => exact .escaped (ih (by simp))
  | case4 rest ih => exact ih fun n hn => by cases hn; exact List.not_mem_nil
  | case5 c rest hlone hescape hopen ih =>
    refine .plain ?_ ?_ (ih (by simp))
    · rintro rfl
      cases rest with
      | nil => exact hlone rfl rfl
      | cons d rest => exact hescape d rest rfl rfl
    · rintro ⟨r, hr⟩
      have hr : c :: (cutFrom none rest).flatMap write = '\x7b' :: ':' :: r := hr
      rw [write_cutFrom] at hr
      obtain ⟨rfl, rfl⟩ := List.cons.inj hr
      exact hopen r rfl rfl
  | case6 name =>
    have hname : '\x7d' ∉ name.reverse := mt List.mem_reverse.mp (h name rfl)
    simpa [write] using Reads.unclosed hname
  | case7 name rest ih =>
    have hname : '\x7d' ∉ name.reverse := mt List.mem_reverse.mp (h name rfl)
    simpa [write] using Reads.reference hname (ih (by simp))
  | case8 name c rest hc ih =>
    refine ih fun n hn => ?_
    cases hn
    exact mt List.mem_cons.mp (not_or.mpr ⟨Ne.symm hc, h name rfl⟩)

theorem reads_cut (p : Text) : Reads p (cut p) := by
  simpa [write_cutFrom, cut] using reads_write_cutFrom none p (by simp)

/-- Every pattern is read in exactly one way. -/
theorem reads_iff {p : Text} {l : List Piece} : Reads p l ↔ cut p = l :=
  ⟨Reads.cut_eq, fun h => h ▸ reads_cut p⟩

end Piece

end TableLexer
