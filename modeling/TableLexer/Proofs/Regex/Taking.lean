import TableLexer.Proofs.Pattern.Reading
import TableLexer.Proofs.Unicode.Query
import TableLexer.Regex.Parser

/-!
# What reading a pattern takes

Each function that reads a part of a pattern takes the text of that part and leaves the rest.
Two things are said of the text taken. Its characters stand for themselves, belong to escapes
or stand in comments, so that reading backslash by backslash goes along with it, and outside
of classes in brackets no reference begins in it. And a closing parenthesis behind the text
does not change what is taken, unless the text ends in a comment, in which the parenthesis
and all behind it on the same line are lost.

Results:
1. `Takes.trans`: functions that read one after the other.
2. `takes_skip`: blanks and comments.
-/

namespace TableLexer.Regex

/-! ## Definitions -/

/-- Reading goes from the first text on to the second, with which it ends: over characters that
stand for themselves, escapes and, where `verbose`, comments. Only where `lax`, a character
may be the beginning of a reference. -/
inductive Crosses (verbose lax : Bool) : Text → Text → Prop
  | refl (rest : Text) : Crosses verbose lax rest rest
  | plain {c : Char} {rest rest' : Text} (hc : c ≠ '\\') (ho : lax = true ∨ ¬ Piece.Opens (c :: rest))
      (h : Crosses verbose lax rest rest') : Crosses verbose lax (c :: rest) rest'
  | escaped {c : Char} {rest rest' : Text} (h : Crosses verbose lax rest rest') :
      Crosses verbose lax ('\\' :: c :: rest) rest'
  | comment {body rest rest' : Text} (hv : verbose = true) (hbody : '\n' ∉ body)
      (h : Crosses verbose lax rest rest') :
      Crosses verbose lax ('#' :: (body ++ '\n' :: rest)) rest'
  /-- A comment need not be ended. -/
  | openComment {body : Text} (hv : verbose = true) (hbody : '\n' ∉ body) :
      Crosses verbose lax ('#' :: body) []

/-- The text is empty or begins with a closing parenthesis. -/
def Closes (t : Text) : Prop := ∀ c ∈ t.head?, c = ')'

/-- What `g` makes of the text `rest` is what `put` makes of the text `rest'` that it leaves, also
with a closing parenthesis and more behind both, unless a comment has not ended. -/
structure Takes (verbose lax : Bool) {β : Type} (g put : Text → β) (rest rest' : Text) : Prop where
  crosses : Crosses verbose lax rest rest'
  behind : (∀ t, Closes t → g (rest ++ t) = put (rest' ++ t)) ∨
    (rest' = [] ∧ ∀ t, Closes t → '\n' ∉ t → g (rest ++ t) = put [])

/-! ## Crossing -/

namespace Crosses

variable {v l : Bool} {p q r : Text}

theorem trans (h : Crosses v l p q) (h' : Crosses v l q r) : Crosses v l p r := by
  induction h with
  | refl => exact h'
  | plain hc ho _ ih => exact .plain hc ho (ih h')
  | escaped _ ih => exact .escaped (ih h')
  | comment hv hbody _ ih => exact .comment hv hbody (ih h')
  | openComment hv hbody =>
    cases h'
    exact .openComment hv hbody

theorem suffix (h : Crosses v l p q) : q <:+ p := by
  induction h with
  | refl => exact List.suffix_rfl
  | plain _ _ _ ih => exact ih.trans (List.suffix_cons _ _)
  | escaped _ ih => exact (ih.trans (List.suffix_cons _ _)).trans (List.suffix_cons _ _)
  | @comment body rest _ _ _ _ ih =>
    refine ih.trans ⟨'#' :: (body ++ ['\n']), ?_⟩
    simp
  | openComment => exact List.nil_suffix

end Crosses

theorem closes_nil : Closes [] := by
  simp [Closes]

/-- A function that is given a bound on its steps does not depend on the bound, if each step leaves
less to do and the bound is at least what there is to do. -/
theorem eq_of_bounded {α β : Type} (f : Nat → α → β) (size : α → Nat)
    (hdone : ∀ bound x, size x = 0 → f 0 x = f bound x)
    (hstep : ∀ bound bound' x, (∀ y, size y < size x → f bound y = f bound' y) →
      f (bound + 1) x = f (bound' + 1) x)
    {bound bound' : Nat} {x : α} (h : size x ≤ bound) (h' : size x ≤ bound') :
    f bound x = f bound' x := by
  induction bound generalizing bound' x with
  | zero => exact hdone bound' x (Nat.le_zero.mp h)
  | succ bound ih =>
    cases bound' with
    | zero => exact (hdone _ x (Nat.le_zero.mp h')).symm
    | succ bound' =>
      exact hstep bound bound' x fun y hy =>
        ih (Nat.le_of_lt_succ (Nat.lt_of_lt_of_le hy h))
          (Nat.le_of_lt_succ (Nat.lt_of_lt_of_le hy h'))

/-- What begins a text does not begin with a closing parenthesis where there was nothing. -/
theorem Closes.head?_append {p t : Text} {c : Char} (ht : Closes t) (hp : p.head? ≠ some c)
    (hc : c ≠ ')') : (p ++ t).head? ≠ some c := by
  cases p with
  | nil => exact fun h => hc (ht c h)
  | cons d p => exact hp

/-! ## Taking -/

namespace Takes

variable {v l : Bool} {β γ : Type} {g put : Text → β} {j k h put' : Text → γ} {p q r : Text}
  {c : Char}

theorem eq (hg : Takes v l g put p q) : g p = put q := by
  rcases hg.behind with hb | ⟨hq, hb⟩
  · simpa using hb [] closes_nil
  · simpa [hq] using hb [] closes_nil List.not_mem_nil

theorem suffix (hg : Takes v l g put p q) : q <:+ p := hg.crosses.suffix

/-- Nothing is taken. -/
theorem nothing (hg : ∀ t, Closes t → g (p ++ t) = put (p ++ t)) : Takes v l g put p p :=
  ⟨.refl p, .inl hg⟩

/-- Only what is made of the text counts, and of it with a closing parenthesis behind. -/
theorem congr (hk : ∀ t, Closes t → k (p ++ t) = j (p ++ t)) (hg : Takes v l j put' p q) :
    Takes v l k put' p q := by
  refine ⟨hg.crosses, ?_⟩
  rcases hg.behind with h | ⟨hq, h⟩
  · exact .inl fun t ht => (hk t ht).trans (h t ht)
  · exact .inr ⟨hq, fun t ht hn => (hk t ht).trans (h t ht hn)⟩

/-- The function `k` reads as `g` does and then as `h` does. Where all that is behind is lost to
`g`, it is lost to `k` as well. -/
theorem trans (hg : Takes v l g put p q) (hk : ∀ x y, g x = put y → k x = h y)
    (hh : Takes v l h put' q r) : Takes v l k put' p r := by
  refine ⟨hg.crosses.trans hh.crosses, ?_⟩
  rcases hg.behind with hg' | ⟨rfl, hg'⟩
  · rcases hh.behind with hh' | ⟨hr, hh'⟩
    · exact .inl fun t ht => (hk _ _ (hg' t ht)).trans (hh' t ht)
    · exact .inr ⟨hr, fun t ht hn => (hk _ _ (hg' t ht)).trans (hh' t ht hn)⟩
  · have hr : r = [] := List.suffix_nil.mp hh.suffix
    subst hr
    exact .inr ⟨rfl, fun t ht hn => (hk _ _ (hg' t ht hn)).trans hh.eq⟩

/-- The function `k` makes something else of what `g` reads. -/
theorem map (hg : Takes v l g put p q) (hk : ∀ x y, g x = put y → k x = put' y) :
    Takes v l k put' p q :=
  hg.trans hk (.nothing fun _ _ => rfl)

/-- One more step in front changes nothing behind. -/
theorem behind_of_front (front : Text) (hk : ∀ x, k (front ++ x) = h x)
    (hh : Takes v l h put' p q) (hcross : Crosses v l (front ++ p) p) :
    Takes v l k put' (front ++ p) q := by
  refine ⟨hcross.trans hh.crosses, ?_⟩
  rcases hh.behind with hh' | ⟨hq, hh'⟩
  · refine .inl fun t ht => ?_
    rw [List.append_assoc, hk]
    exact hh' t ht
  · refine .inr ⟨hq, fun t ht hn => ?_⟩
    rw [List.append_assoc, hk]
    exact hh' t ht hn

theorem plain (hc : c ≠ '\\') (ho : c ≠ '\x7b' ∨ p.head? ≠ some ':')
    (hk : ∀ x, k (c :: x) = h x) (hh : Takes v l h put' p q) : Takes v l k put' (c :: p) q := by
  refine behind_of_front [c] hk hh (.plain hc (.inr ?_) (.refl p))
  intro hopen
  obtain ⟨hbrace, hcolon⟩ := Piece.opens_cons.mp hopen
  exact ho.elim (· hbrace) (· hcolon)

/-- In a class any character but a backslash is taken. -/
theorem member (hc : c ≠ '\\') (hk : ∀ x, k (c :: x) = h x) (hh : Takes v true h put' p q) :
    Takes v true k put' (c :: p) q :=
  behind_of_front [c] hk hh (.plain hc (.inl rfl) (.refl p))

theorem escaped (hk : ∀ x, k ('\\' :: c :: x) = h x) (hh : Takes v l h put' p q) :
    Takes v l k put' ('\\' :: c :: p) q :=
  behind_of_front ['\\', c] hk hh (.escaped (.refl p))

end Takes

/-! ## Blanks and comments -/

namespace Mode

theorem isBlank_ne {c : Char} (h : isBlank c = true) : c ≠ '\\' ∧ c ≠ '\x7b' := by
  constructor <;> rintro rfl <;>
    exact Bool.false_ne_true ((Unicode.isBlank_graphic (by decide)).symm.trans h)

theorem dropIgnored_hash (rest : Text) :
    dropIgnored false ('#' :: rest) = dropIgnored true rest := by
  simp [dropIgnored, Unicode.isBlank_graphic]

theorem dropIgnored_openComment {body : Text} (hbody : '\n' ∉ body) :
    dropIgnored true body = [] := by
  induction body with
  | nil => rfl
  | cons c body ih =>
    obtain ⟨hc, hbody⟩ := not_or.mp (mt List.mem_cons.mpr hbody)
    simp [dropIgnored, Ne.symm hc, ih hbody]

theorem dropIgnored_comment {body : Text} (rest : Text) (hbody : '\n' ∉ body) :
    dropIgnored true (body ++ '\n' :: rest) = dropIgnored false rest := by
  induction body with
  | nil => simp [dropIgnored]
  | cons c body ih =>
    obtain ⟨hc, hbody⟩ := not_or.mp (mt List.mem_cons.mpr hbody)
    simp [dropIgnored, Ne.symm hc, ih hbody]

theorem takes_openComment (l : Bool) {body : Text} (hbody : '\n' ∉ body) :
    Takes true l (dropIgnored false) id ('#' :: body) (dropIgnored false ('#' :: body)) := by
  rw [dropIgnored_hash, dropIgnored_openComment hbody]
  refine ⟨.openComment rfl hbody, .inr ⟨rfl, fun t _ hn => ?_⟩⟩
  rw [List.cons_append, dropIgnored_hash]
  exact dropIgnored_openComment (mt List.mem_append.mp (not_or.mpr ⟨hbody, hn⟩))

theorem takes_comment {l : Bool} {body rest : Text} (hbody : '\n' ∉ body)
    (h : Takes true l (dropIgnored false) id rest (dropIgnored false rest)) :
    Takes true l (dropIgnored false) id ('#' :: (body ++ '\n' :: rest))
      (dropIgnored false ('#' :: (body ++ '\n' :: rest))) := by
  have hlong : ∀ x, dropIgnored false (('#' :: (body ++ ['\n'])) ++ x)
      = dropIgnored false x := by
    intro x
    rw [List.cons_append, dropIgnored_hash, List.append_assoc]
    exact dropIgnored_comment x hbody
  have hsplit : '#' :: (body ++ '\n' :: rest) = ('#' :: (body ++ ['\n'])) ++ rest := by
    simp
  rw [hsplit, hlong]
  refine .behind_of_front _ hlong h ?_
  rw [← hsplit]
  exact .comment rfl hbody (.refl rest)

/-- Blanks and comments. The induction carries along what is taken behind the first line, which is
needed where a comment ends. -/
theorem takes_dropIgnored (l : Bool) (rest : Text) :
    Takes true l (dropIgnored false) id rest (dropIgnored false rest) := by
  suffices h : Takes true l (dropIgnored false) id rest (dropIgnored false rest) ∧
      ('\n' ∉ rest ∨ ∃ body after, rest = body ++ '\n' :: after ∧ '\n' ∉ body ∧
        Takes true l (dropIgnored false) id after (dropIgnored false after)) from h.1
  induction rest with
  | nil =>
    refine ⟨.nothing fun t ht => ?_, .inl List.not_mem_nil⟩
    cases t with
    | nil => rfl
    | cons c t =>
      obtain rfl := ht c rfl
      simp [dropIgnored, Unicode.isBlank_graphic]
  | cons c rest ih =>
    obtain ⟨ih, hline⟩ := ih
    constructor
    · by_cases hblank : isBlank c = true
      · have hdrop : ∀ x, dropIgnored false (c :: x) = dropIgnored false x := by
          simp [dropIgnored, hblank]
        rw [hdrop]
        exact .plain (isBlank_ne hblank).1 (.inl (isBlank_ne hblank).2) hdrop ih
      by_cases hhash : c = '#'
      · subst hhash
        rcases hline with hline | ⟨body, after, rfl, hbody, hafter⟩
        · exact takes_openComment l hline
        · exact takes_comment hbody hafter
      · have hdrop : ∀ x, dropIgnored false (c :: x) = c :: x := by
          simp [dropIgnored, hblank, hhash]
        rw [hdrop]
        exact .nothing fun t _ => hdrop _
    · by_cases hend : c = '\n'
      · subst hend
        exact .inr ⟨[], rest, rfl, List.not_mem_nil, ih⟩
      rcases hline with hline | ⟨body, after, rfl, hbody, hafter⟩
      · exact .inl (mt List.mem_cons.mp (not_or.mpr ⟨Ne.symm hend, hline⟩))
      · exact .inr ⟨c :: body, after, rfl,
          mt List.mem_cons.mp (not_or.mpr ⟨Ne.symm hend, hbody⟩), hafter⟩

variable (m : Mode) (l : Bool) (rest : Text)

theorem takes_skip : Takes m.verbose l m.skip id rest (m.skip rest) := by
  cases hv : m.verbose with
  | true =>
    have hskip : m.skip = dropIgnored false := by
      funext x
      rw [skip, if_pos hv]
    rw [hskip]
    exact takes_dropIgnored l rest
  | false =>
    have hskip : ∀ x, m.skip x = x := by
      intro x
      rw [skip, hv, if_neg Bool.false_ne_true]
    rw [hskip]
    exact .nothing fun t _ => hskip _

theorem skip_suffix : m.skip rest <:+ rest := (m.takes_skip true rest).suffix

theorem length_skip_le : (m.skip rest).length ≤ rest.length := (m.skip_suffix rest).length_le

variable {rest}

/-- What is skipped does not begin with a character that counts. -/
theorem skip_cons {c : Char} (hblank : isBlank c = false) (hhash : c ≠ '#') :
    m.skip (c :: rest) = c :: rest := by
  cases hv : m.verbose <;> simp [skip, hv, dropIgnored, hblank, hhash]

theorem skip_graphic {c : Char} (h : 0x20 < c.toNat ∧ c.toNat < 0x7F ∧ c ≠ '#') :
    m.skip (c :: rest) = c :: rest :=
  m.skip_cons (Unicode.isBlank_graphic ⟨h.1, h.2.1⟩) h.2.2

theorem dropIgnored_eq_cons {c : Char} {comment : Bool} {p : Text}
    (h : dropIgnored comment p = c :: rest) : isBlank c = false ∧ c ≠ '#' := by
  fun_induction dropIgnored comment p with
  | case1 => cases h
  | case2 d p ih => exact ih h
  | case3 d p hblank ih => exact ih h
  | case4 p hblank ih => exact ih h
  | case5 d p hblank hhash =>
    cases h
    exact ⟨by simpa using hblank, hhash⟩

/-- In front of what is left after skipping nothing is skipped. -/
theorem skip_cons_of_skip {c : Char} {p : Text} (h : m.skip p = c :: rest) (x : Text) :
    m.skip (c :: x) = c :: x := by
  cases hv : m.verbose with
  | false => simp [skip, hv]
  | true =>
    rw [skip, if_pos hv] at h
    obtain ⟨hblank, hhash⟩ := dropIgnored_eq_cons h
    exact m.skip_cons hblank hhash

theorem skip_closes {t : Text} (ht : Closes t) : m.skip t = t := by
  cases t with
  | nil => cases hv : m.verbose <;> simp [skip, hv, dropIgnored]
  | cons c t =>
    obtain rfl := ht c rfl
    exact m.skip_graphic (by decide)

theorem skip_skip_append {t : Text} (ht : Closes t) :
    m.skip (m.skip rest ++ t) = m.skip rest ++ t := by
  cases hrest : m.skip rest with
  | nil => exact m.skip_closes ht
  | cons c tail => exact m.skip_cons_of_skip hrest (tail ++ t)

/-- Where a character is left, what is behind is not skipped. -/
theorem skip_append {c : Char} {p t : Text} (h : m.skip p = c :: rest) (ht : Closes t) :
    m.skip (p ++ t) = c :: (rest ++ t) := by
  rcases (m.takes_skip true p).behind with hb | ⟨hq, -⟩
  · rw [hb t ht, h]
    rfl
  · exact absurd (h.symm.trans hq) (List.cons_ne_nil _ _)

theorem skip_skip : m.skip (m.skip rest) = m.skip rest := by
  have happend : m.skip (m.skip rest ++ []) = m.skip rest ++ [] := m.skip_skip_append closes_nil
  rwa [List.append_nil] at happend

end Mode

/-- What is skipped first. -/
theorem Takes.skip {γ : Type} {m : Mode} {l : Bool} {k h put' : Text → γ} {p q : Text}
    (hk : ∀ x, k x = h (m.skip x)) (hh : Takes m.verbose l h put' (m.skip p) q) :
    Takes m.verbose l k put' p q := by
  refine (m.takes_skip l p).trans (fun x y hxy => ?_) hh
  rw [hk, hxy]
  rfl

/-- What goes on over characters of one kind, and skips behind each of them, takes them. -/
theorem takes_run {σ τ : Type} {m : Mode} {l : Bool} (run : σ → Text → τ × Text)
    {next : σ → Char → σ} {done : σ → τ} {kind : Char → Bool}
    (hkind : ∀ c, kind c = true → c ≠ '\\' ∧ c ≠ '\x7b') (hclose : kind ')' = false)
    (hnil : ∀ s, run s [] = (done s, []))
    (hin : ∀ s c x, kind c = true → run s (c :: x) = run (next s c) (m.skip x))
    (hout : ∀ s c x, kind c = false → run s (c :: x) = (done s, c :: x))
    {s : σ} {found : τ} {p q : Text} (h : run s p = (found, q)) :
    Takes m.verbose l (run s) (fun r => (found, r)) p q := by
  induction hlen : p.length using Nat.strongRecOn generalizing p s with
  | _ length ih =>
  subst hlen
  cases p with
  | nil =>
    cases (hnil s).symm.trans h
    refine .nothing fun t ht => ?_
    cases t with
    | nil => exact hnil s
    | cons c t =>
      obtain rfl := ht c rfl
      exact hout s ')' t hclose
  | cons c p =>
    cases hc : kind c with
    | true =>
      rw [hin s c p hc] at h
      exact .plain (hkind c hc).1 (.inl (hkind c hc).2) (fun x => hin s c x hc)
        (.skip (fun _ => rfl) (ih _ (Nat.lt_succ_of_le (m.length_skip_le p)) h rfl))
    | false =>
      cases (hout s c p hc).symm.trans h
      exact .nothing fun t _ => hout s c (p ++ t) hc

end TableLexer.Regex
