import Mathlib.Data.List.Perm.Subperm
import TableLexer.Proofs.Pattern.Bytes

/-!
# Expansion is substitution

What the expansion of a pattern is, is said without an order of steps: the pattern is read,
every reference is filled with the expansion of its fragment in a group, and all other
pieces stay as they are. A pattern has an expansion if and only if whatever its references
lead to is closed, named as names are, defined and free of circles; otherwise the first
reference that is at fault decides the error, and first is from left to right and depth first.

The expansion of a fragment is shorter than what it is filled into. So a pattern that has an
expansion leads into no circle, and the names on a path without a circle are at most as many
as the definitions: this is why the bound of `Fragments.expandIn` is never come to.

Results:
1. `Expands.sound`, `Fault.not_solid`: no pattern has an expansion and an error.
2. `expandIn_answers`: what is given is the expansion or the error, within the bound.
3. `expand_spec`: the same as equivalences, and what the chain of a circle is.
-/

namespace TableLexer

namespace Fragments

/-! ## Definitions -/

/-- Filling the references among the pieces with the expansions of their fragments gives the
text. -/
inductive Fills (f : Fragments) : List Piece → Text → Prop
  | nil : Fills f [] []
  | plain (c : Char) {l : List Piece} {q : Text} (h : Fills f l q) :
      Fills f (.plain c :: l) (c :: q)
  | escaped (c : Char) {l : List Piece} {q : Text} (h : Fills f l q) :
      Fills f (.escaped c :: l) ('\\' :: c :: q)
  | reference {name body x q : Text} {pieces l : List Piece} (hname : isName name = true)
      (hbody : f.get? name = some body) (hread : Piece.Reads body pieces) (hx : Fills f pieces x)
      (h : Fills f l q) :
      Fills f (.reference name :: l) ("(?:".toList ++ x ++ ')' :: q)

/-- The text is the expansion of the pattern. -/
def Expands (f : Fragments) (p q : Text) : Prop := ∃ l, Piece.Reads p l ∧ f.Fills l q

/-- The name stands in a reference of the pattern. -/
def Refers (p name : Text) : Prop := ∃ l, Piece.Reads p l ∧ .reference name ∈ l

/-- From the first pattern the references with these names, one after the other, lead to the
second. -/
inductive Leads (f : Fragments) : Text → List Text → Text → Prop
  | nil (p : Text) : Leads f p [] p
  | cons {p name body w : Text} {names : List Text} (hr : Refers p name)
      (hbody : f.get? name = some body) (h : Leads f body names w) : Leads f p (name :: names) w

/-- Some path of references that begins in the pattern ends with the name. -/
def Reaches (f : Fragments) (p name : Text) : Prop := ∃ names w, f.Leads p names w ∧ Refers w name

/-- The piece is no reference, or one that is closed and named as names are, to a fragment
that is defined and does not reach itself. -/
def Allows (f : Fragments) : Piece → Prop
  | .plain _ => True
  | .escaped _ => True
  | .reference name => isName name = true ∧ ∃ body, f.get? name = some body ∧ ¬ f.Reaches body name
  | .unclosed _ => False

/-- All references in the pattern, and in what they lead to, are allowed. -/
def Sound (f : Fragments) (p : Text) : Prop :=
  ∀ names w l, f.Leads p names w → Piece.Reads w l → ∀ piece ∈ l, f.Allows piece

/-- The piece of the pattern `whole`, met inside the fragments `active`, is at fault. -/
inductive Fault (f : Fragments) : List Text → Text → Piece → PatternError → Prop
  | unclosed {active : List Text} {whole rest : Text} :
      Fault f active whole (.unclosed rest) (.unterminatedFragment whole)
  | invalid {active : List Text} {whole name : Text} (hname : isName name = false) :
      Fault f active whole (.reference name) (.invalidFragmentName name)
  | cycle {active : List Text} {whole name : Text} (hname : isName name = true)
      (hactive : name ∈ active) :
      Fault f active whole (.reference name) (.fragmentCycle (active ++ [name]))
  | undefined {active : List Text} {whole name : Text} (hname : isName name = true)
      (hbody : f.get? name = none) :
      Fault f active whole (.reference name) (.undefinedFragment name)
  /-- In the fragment the first piece that cannot be filled is at fault. -/
  | inside {active : List Text} {whole name body q : Text} {pre post : List Piece} {bad : Piece}
      {e : PatternError} (hname : isName name = true) (hactive : name ∉ active)
      (hbody : f.get? name = some body) (hread : Piece.Reads body (pre ++ bad :: post))
      (hpre : f.Fills pre q) (h : Fault f (active ++ [name]) body bad e) :
      Fault f active whole (.reference name) e

/-- The first piece of the pattern that cannot be filled is at fault. -/
def Offends (f : Fragments) (active : List Text) (p : Text) (e : PatternError) : Prop :=
  ∃ pre bad post q, Piece.Reads p (pre ++ bad :: post) ∧ f.Fills pre q ∧ f.Fault active p bad e

/-- From the pattern on, each name of the chain is referred to where the one before it leads;
the last one is the first to come again. -/
def Circles (f : Fragments) (p : Text) (chain : List Text) : Prop :=
  ∃ names name w, chain = names ++ [name] ∧ f.Leads p names w ∧ Refers w name ∧ names.Nodup ∧
    name ∈ names

/-- The answer is what the pieces are filled to, or the error of the first that cannot be
filled. -/
def Answers (f : Fragments) (active : List Text) (whole : Text) (l : List Piece) :
    Except PatternError Text → Prop
  | .ok q => f.Fills l q
  | .error e => ∃ pre bad post q, l = pre ++ bad :: post ∧ f.Fills pre q ∧
      f.Fault active whole bad e

/-- The answer is the expansion of the fragment with the name, or its error. -/
def Resolves (f : Fragments) (active : List Text) (whole name : Text) :
    Except PatternError Text → Prop
  | .ok x => ∃ body, f.get? name = some body ∧ f.Expands body x
  | .error e => f.Fault active whole (.reference name) e

variable {f : Fragments}

/-! ## What references lead to -/

theorem Leads.snoc {p w name body : Text} {names : List Text} (h : f.Leads p names w)
    (hr : Refers w name) (hbody : f.get? name = some body) :
    f.Leads p (names ++ [name]) body := by
  induction h with
  | nil p => exact .cons hr hbody (.nil body)
  | cons hr' hbody' _ ih => exact .cons hr' hbody' (ih hr)

/-- Every fragment on a path is defined, and leads to where the path ends. -/
theorem Leads.of_mem {p w name : Text} {names : List Text} (h : f.Leads p names w)
    (hm : name ∈ names) : ∃ body rest, f.get? name = some body ∧ f.Leads body rest w := by
  induction h with
  | nil p => exact absurd hm List.not_mem_nil
  | cons hr hbody h ih =>
    rcases List.mem_cons.mp hm with rfl | hm
    · exact ⟨_, _, hbody, h⟩
    · exact ih hm

theorem get?_mem {name body : Text} (h : f.get? name = some body) :
    name ∈ f.defs.map Prod.fst := by
  obtain ⟨l₁, l₂, hl, -⟩ := List.lookup_eq_some_iff.mp h
  rw [hl]
  simp

theorem Leads.length_le {p w : Text} {names : List Text} (h : f.Leads p names w)
    (hnodup : names.Nodup) : names.length ≤ f.size := by
  have hsub : names ⊆ f.defs.map Prod.fst := fun name hm => by
    obtain ⟨body, rest, hbody, -⟩ := h.of_mem hm
    exact get?_mem hbody
  simpa [size] using (List.subperm_of_subset hnodup hsub).length_le

theorem nodup_snoc {names : List Text} {name : Text} (hnodup : names.Nodup) (h : name ∉ names) :
    (names ++ [name]).Nodup :=
  (List.perm_append_singleton name names).nodup_iff.mpr (List.nodup_cons.mpr ⟨h, hnodup⟩)

theorem Sound.inside {p name body : Text} (h : f.Sound p) (hr : Refers p name)
    (hbody : f.get? name = some body) : f.Sound body :=
  fun _ _ _ hl => h _ _ _ (.cons hr hbody hl)

/-! ## The expansion of a pattern -/

/-- What a reference is filled with is the expansion of its fragment, and shorter than the
whole. -/
theorem Fills.body {l : List Piece} {q name : Text} (h : f.Fills l q)
    (hm : .reference name ∈ l) :
    isName name = true ∧
      ∃ body x, f.get? name = some body ∧ f.Expands body x ∧ x.length < q.length := by
  induction h with
  | nil => exact absurd hm List.not_mem_nil
  | plain c _ ih =>
    obtain ⟨hname, body, x, hbody, hx, hlt⟩ := ih (by simpa using hm)
    exact ⟨hname, body, x, hbody, hx, Nat.lt_succ_of_lt hlt⟩
  | escaped c _ ih =>
    obtain ⟨hname, body, x, hbody, hx, hlt⟩ := ih (by simpa using hm)
    exact ⟨hname, body, x, hbody, hx, by simp only [List.length_cons]; omega⟩
  | reference hname hbody hread hx _ _ ih =>
    rcases List.mem_cons.mp hm with hm | hm
    · cases hm
      exact ⟨hname, _, _, hbody, ⟨_, hread, hx⟩, by simp; omega⟩
    · obtain ⟨hname', body', x', hbody', hx', hlt⟩ := ih hm
      exact ⟨hname', body', x', hbody', hx', by simp; omega⟩

theorem Fills.unclosed_notMem {l : List Piece} {q rest : Text} (h : f.Fills l q) :
    .unclosed rest ∉ l := by
  induction h <;> simp_all

theorem Fills.unique {l : List Piece} {q q' : Text} (h : f.Fills l q) (h' : f.Fills l q') :
    q = q' := by
  induction h generalizing q' with
  | nil => cases h'; rfl
  | plain c _ ih => cases h' with | plain _ h' => rw [ih h']
  | escaped c _ ih => cases h' with | escaped _ h' => rw [ih h']
  | reference _ hbody hread _ _ ihx ih =>
    cases h' with
    | reference _ hbody' hread' hx' h' =>
      obtain rfl := Option.some.inj (hbody.symm.trans hbody')
      obtain rfl := hread.cut_eq.symm.trans hread'.cut_eq
      rw [ihx hx', ih h']

theorem Expands.unique {p q q' : Text} (h : f.Expands p q) (h' : f.Expands p q') : q = q' := by
  obtain ⟨l, hr, h⟩ := h
  obtain ⟨l', hr', h'⟩ := h'
  obtain rfl := hr.cut_eq.symm.trans hr'.cut_eq
  exact h.unique h'

theorem Expands.fills {p q : Text} {l : List Piece} (h : f.Expands p q) (hr : Piece.Reads p l) :
    f.Fills l q := by
  obtain ⟨l', hr', h⟩ := h
  obtain rfl := hr.cut_eq.symm.trans hr'.cut_eq
  exact h

/-- What a pattern with an expansion leads to has an expansion, which is no longer. -/
theorem Expands.leads {p q w : Text} {names : List Text} (h : f.Expands p q)
    (hl : f.Leads p names w) : ∃ x, f.Expands w x ∧ x.length ≤ q.length := by
  induction hl generalizing q with
  | nil p => exact ⟨q, h, Nat.le_refl _⟩
  | cons hr hbody _ ih =>
    obtain ⟨l, hr, hm⟩ := hr
    obtain ⟨-, body, x, hbody', hx, hlt⟩ := (h.fills hr).body hm
    obtain rfl := Option.some.inj (hbody.symm.trans hbody')
    obtain ⟨y, hy, hle⟩ := ih hx
    exact ⟨y, hy, by omega⟩

/-- A fragment that has an expansion does not reach itself: it would be shorter than itself. -/
theorem Expands.not_reaches {name body x : Text} (h : f.Expands body x)
    (hbody : f.get? name = some body) : ¬ f.Reaches body name := by
  rintro ⟨names, w, hl, l, hr, hm⟩
  obtain ⟨y, hy, hle⟩ := h.leads hl
  obtain ⟨-, body', x', hbody', hx', hlt⟩ := (hy.fills hr).body hm
  obtain rfl := Option.some.inj (hbody.symm.trans hbody')
  obtain rfl := h.unique hx'
  omega

theorem Fills.allows {l : List Piece} {q : Text} (h : f.Fills l q) :
    ∀ piece ∈ l, f.Allows piece := by
  rintro (c | c | name | rest) hm
  · trivial
  · trivial
  · obtain ⟨hname, body, x, hbody, hx, -⟩ := h.body hm
    exact ⟨hname, body, hbody, hx.not_reaches hbody⟩
  · exact h.unclosed_notMem hm

theorem Expands.sound {p q : Text} (h : f.Expands p q) : f.Sound p := by
  intro names w l hl hr
  obtain ⟨x, hx, -⟩ := h.leads hl
  exact (hx.fills hr).allows

/-! ## The error of a pattern -/

/-- The piece is allowed, and if it is a reference, its fragment is sound. -/
def Solid (f : Fragments) (piece : Piece) : Prop :=
  f.Allows piece ∧ ∀ name body, piece = .reference name → f.get? name = some body → f.Sound body

theorem Sound.solid {p : Text} {l : List Piece} (h : f.Sound p) (hr : Piece.Reads p l) :
    ∀ piece ∈ l, f.Solid piece := by
  refine fun piece hm => ⟨h [] p l (.nil p) hr piece hm, ?_⟩
  rintro name body rfl hbody
  exact h.inside ⟨l, hr, hm⟩ hbody

theorem Fills.solid {l : List Piece} {q : Text} (h : f.Fills l q) :
    ∀ piece ∈ l, f.Solid piece := by
  refine fun piece hm => ⟨h.allows piece hm, ?_⟩
  rintro name body rfl hbody
  obtain ⟨-, body', x, hbody', hx, -⟩ := h.body hm
  obtain rfl := Option.some.inj (hbody.symm.trans hbody')
  exact hx.sound

/-- A piece that is at fault is not solid. Where the fault is a circle, the path to the piece
leads back from the fragment of this name to the piece. -/
theorem Fault.not_solid {active : List Text} {p w : Text} {bad : Piece} {e : PatternError}
    {l : List Piece} (h : f.Fault active w bad e) (hl : f.Leads p active w)
    (hr : Piece.Reads w l) (hm : bad ∈ l) : ¬ f.Solid bad := by
  induction h generalizing l with
  | unclosed => exact fun hs => hs.1
  | invalid hname => exact fun hs => Bool.false_ne_true (hname.symm.trans hs.1.1)
  | cycle hname hactive =>
    rintro ⟨⟨-, body, hbody, hfree⟩, -⟩
    obtain ⟨body', rest, hbody', hback⟩ := hl.of_mem hactive
    obtain rfl := Option.some.inj (hbody.symm.trans hbody')
    exact hfree ⟨rest, _, hback, l, hr, hm⟩
  | undefined hname hbody =>
    rintro ⟨⟨-, body, hbody', -⟩, -⟩
    exact Option.some_ne_none _ (hbody'.symm.trans hbody)
  | inside hname hactive hbody hread hpre _ ih =>
    intro hs
    exact ih (hl.snoc ⟨l, hr, hm⟩ hbody) hread List.mem_append_cons_self
      ((hs.2 _ _ rfl hbody).solid hread _ List.mem_append_cons_self)

/-- The first piece that is not solid is the same however the pieces are cut in two. -/
theorem bad_unique {pre pre' post post' : List Piece} {bad bad' : Piece} {q q' : Text}
    (heq : pre ++ bad :: post = pre' ++ bad' :: post') (hpre : f.Fills pre q)
    (hpre' : f.Fills pre' q') (hbad : ¬ f.Solid bad) (hbad' : ¬ f.Solid bad') : bad = bad' := by
  classical
  have hfirst (pre post : List Piece) {bad : Piece} {q : Text} (hpre : f.Fills pre q)
      (hbad : ¬ f.Solid bad) :
      (pre ++ bad :: post).find? (fun piece => ¬ f.Solid piece) = some bad :=
    List.find?_eq_some_iff_append.mpr
      ⟨by simpa using hbad, pre, post, rfl, fun piece hm => by simpa using hpre.solid piece hm⟩
  have h' := hfirst pre' post' hpre' hbad'
  rw [← heq, hfirst pre post hpre hbad] at h'
  exact Option.some.inj h'

theorem Fault.unique {active : List Text} {p w : Text} {bad : Piece} {e e' : PatternError}
    {l : List Piece} (h : f.Fault active w bad e) (h' : f.Fault active w bad e')
    (hl : f.Leads p active w) (hr : Piece.Reads w l) (hm : bad ∈ l) : e = e' := by
  induction h generalizing e' l with
  | unclosed => cases h'; rfl
  | invalid hname => cases h' <;> simp_all
  | cycle hname hactive =>
    obtain ⟨body, -, hbody, -⟩ := hl.of_mem hactive
    cases h' <;> simp_all
  | undefined hname hbody =>
    cases h' with
    | cycle hname' hactive =>
      obtain ⟨body, -, hbody', -⟩ := hl.of_mem hactive
      simp_all
    | _ => simp_all
  | inside hname hactive hbody hread hpre h ih =>
    cases h' with
    | invalid hname' => simp_all
    | cycle hname' hactive' => exact absurd hactive' hactive
    | undefined hname' hbody' => simp_all
    | inside hname' hactive' hbody' hread' hpre' h' =>
      obtain rfl := Option.some.inj (hbody.symm.trans hbody')
      have hl := hl.snoc ⟨l, hr, hm⟩ hbody
      obtain rfl := bad_unique (hread.cut_eq.symm.trans hread'.cut_eq) hpre hpre'
        (h.not_solid hl hread List.mem_append_cons_self)
        (h'.not_solid hl hread' List.mem_append_cons_self)
      exact ih h' hl hread List.mem_append_cons_self

theorem Offends.unique {active : List Text} {p w : Text} {e e' : PatternError}
    (h : f.Offends active w e) (h' : f.Offends active w e') (hl : f.Leads p active w) :
    e = e' := by
  obtain ⟨pre, bad, post, q, hr, hpre, h⟩ := h
  obtain ⟨pre', bad', post', q', hr', hpre', h'⟩ := h'
  obtain rfl := bad_unique (hr.cut_eq.symm.trans hr'.cut_eq) hpre hpre'
    (h.not_solid hl hr List.mem_append_cons_self)
    (h'.not_solid hl hr' List.mem_append_cons_self)
  exact h.unique h' hl hr List.mem_append_cons_self

theorem Offends.not_sound {active : List Text} {p w : Text} {e : PatternError}
    (h : f.Offends active w e) (hl : f.Leads p active w) : ¬ f.Sound w := by
  obtain ⟨pre, bad, post, q, hr, -, h⟩ := h
  exact fun hs =>
    h.not_solid hl hr List.mem_append_cons_self (hs.solid hr _ List.mem_append_cons_self)

/-- A circle is reported with the path to it. -/
theorem Fault.circles {active chain : List Text} {p w : Text} {bad : Piece} {l : List Piece}
    (h : f.Fault active w bad (.fragmentCycle chain)) (hl : f.Leads p active w)
    (hnodup : active.Nodup) (hr : Piece.Reads w l) (hm : bad ∈ l) : f.Circles p chain := by
  generalize he : PatternError.fragmentCycle chain = e at h
  induction h generalizing l with
  | unclosed => cases he
  | invalid => cases he
  | undefined => cases he
  | cycle hname hactive =>
    cases he
    exact ⟨_, _, _, rfl, hl, ⟨l, hr, hm⟩, hnodup, hactive⟩
  | inside hname hactive hbody hread _ _ ih =>
    exact ih (hl.snoc ⟨l, hr, hm⟩ hbody) (nodup_snoc hnodup hactive) hread
      List.mem_append_cons_self he

/-! ## What is given -/

theorem Answers.cons {active : List Text} {whole : Text} {l : List Piece}
    {r : Except PatternError Text} (h : f.Answers active whole l r) (piece : Piece)
    (fill : Text → Text) (hfill : ∀ l q, f.Fills l q → f.Fills (piece :: l) (fill q)) :
    f.Answers active whole (piece :: l) (fill <$> r) := by
  cases r with
  | ok q => exact hfill l q h
  | error e =>
    obtain ⟨pre, bad, post, q, rfl, hq, h⟩ := h
    exact ⟨piece :: pre, bad, post, fill q, rfl, hfill pre q hq, h⟩

theorem substitute_answers {resolve : Text → Except PatternError Text} {active : List Text}
    {whole : Text} {l : List Piece}
    (href : ∀ name, .reference name ∈ l → isName name = true →
      f.Resolves active whole name (resolve name)) :
    f.Answers active whole l (substitute resolve whole l) := by
  induction l with
  | nil => exact .nil
  | cons piece l ih =>
    have ih := ih fun name hm => href name (List.mem_cons_of_mem _ hm)
    cases piece with
    | plain c =>
      rw [substitute_plain]
      exact ih.cons (.plain c) (c :: ·) fun l q => .plain c
    | escaped c =>
      rw [substitute_escaped]
      exact ih.cons (.escaped c) ('\\' :: c :: ·) fun l q => .escaped c
    | unclosed rest => exact ⟨[], _, l, [], rfl, .nil, .unclosed⟩
    | reference name =>
      rw [substitute_reference]
      split
      · next hname =>
        have href := href name List.mem_cons_self hname
        cases hx : resolve name with
        | error e =>
          rw [hx] at href
          exact ⟨[], _, l, [], rfl, .nil, href⟩
        | ok x =>
          rw [hx] at href
          obtain ⟨body, hbody, pieces, hread, hx⟩ := href
          exact ih.cons (.reference name) ("(?:".toList ++ x ++ ')' :: ·) fun l q =>
            .reference hname hbody hread hx
      · next hname => exact ⟨[], _, l, [], rfl, .nil, .invalid (by simpa using hname)⟩

theorem resolve_resolves {expand : List Text → Text → Except PatternError Text}
    {active : List Text} {name : Text} (whole : Text) (hname : isName name = true)
    (hexpand : ∀ body, name ∉ active → f.get? name = some body →
      f.Answers (active ++ [name]) body (Piece.cut body) (expand (active ++ [name]) body)) :
    f.Resolves active whole name (f.resolve expand active name) := by
  by_cases hactive : name ∈ active
  · rw [resolve, if_pos (by simpa using hactive)]
    exact .cycle hname hactive
  · rw [resolve, if_neg (by simpa using hactive)]
    cases hbody : f.get? name with
    | none => exact .undefined hname hbody
    | some body =>
      have h := hexpand body hactive hbody
      dsimp only
      cases hx : expand (active ++ [name]) body with
      | ok x =>
        rw [hx] at h
        exact ⟨body, hbody, _, Piece.reads_cut body, h⟩
      | error e =>
        rw [hx] at h
        obtain ⟨pre, bad, post, q, hcut, hpre, h⟩ := h
        exact .inside hname hactive hbody (Piece.reads_iff.mpr hcut) hpre h

/-- The bound on the depth is not come to: no fragment is entered where it is used up, as the
names of the path are different and defined. -/
theorem expandIn_answers {p w : Text} {active : List Text} {depth : Nat}
    (hl : f.Leads p active w) (hnodup : active.Nodup)
    (hdepth : f.size ≤ active.length + depth) :
    f.Answers active w (Piece.cut w) (f.expandIn depth active w) := by
  induction depth generalizing active w with
  | zero =>
    refine substitute_answers fun name hm hname =>
      resolve_resolves w hname fun body hactive hbody => ?_
    have hlen := (hl.snoc ⟨_, Piece.reads_cut w, hm⟩ hbody).length_le (nodup_snoc hnodup hactive)
    rw [List.length_append, List.length_singleton] at hlen
    omega
  | succ depth ih =>
    refine substitute_answers fun name hm hname =>
      resolve_resolves w hname fun body hactive hbody => ?_
    refine ih (hl.snoc ⟨_, Piece.reads_cut w, hm⟩ hbody) (nodup_snoc hnodup hactive) ?_
    rw [List.length_append, List.length_singleton]
    omega

/-- What is given is the expansion of the pattern, or the error of what offends first. -/
theorem expandIn_cases {depth : Nat} (p : Text) (hdepth : f.size ≤ depth) :
    (∃ q, f.expandIn depth [] p = .ok q ∧ f.Expands p q) ∨
      ∃ e, f.expandIn depth [] p = .error e ∧ f.Offends [] p e := by
  have h := expandIn_answers (.nil p) List.nodup_nil (by simpa using hdepth)
  cases hr : f.expandIn depth [] p with
  | ok q =>
    rw [hr] at h
    exact .inl ⟨q, rfl, _, Piece.reads_cut p, h⟩
  | error e =>
    rw [hr] at h
    obtain ⟨pre, bad, post, q, hcut, hpre, h⟩ := h
    exact .inr ⟨e, rfl, pre, bad, post, q, Piece.reads_iff.mpr hcut, hpre, h⟩

theorem expandIn_ok_iff {depth : Nat} {p q : Text} (hdepth : f.size ≤ depth) :
    f.expandIn depth [] p = .ok q ↔ f.Expands p q := by
  rcases expandIn_cases p hdepth with ⟨q', hr, h'⟩ | ⟨e, hr, h'⟩
  · rw [hr]
    exact ⟨fun he => Except.ok.inj he ▸ h', fun h => congrArg _ (h'.unique h)⟩
  · rw [hr]
    exact ⟨nofun, fun h => absurd h.sound (h'.not_sound (.nil p))⟩

theorem expandIn_error_iff {depth : Nat} {p : Text} {e : PatternError} (hdepth : f.size ≤ depth) :
    f.expandIn depth [] p = .error e ↔ f.Offends [] p e := by
  rcases expandIn_cases p hdepth with ⟨q, hr, h'⟩ | ⟨e', hr, h'⟩
  · rw [hr]
    exact ⟨nofun, fun h => absurd h'.sound (h.not_sound (.nil p))⟩
  · rw [hr]
    exact ⟨fun he => Except.error.inj he ▸ h', fun h => congrArg _ (h'.unique h (.nil p))⟩

theorem expand_ok_iff {p q : Text} : f.expand p = .ok q ↔ f.Expands p q :=
  expandIn_ok_iff (Nat.le_refl _)

theorem expand_error_iff {p : Text} {e : PatternError} :
    f.expand p = .error e ↔ f.Offends [] p e :=
  expandIn_error_iff (Nat.le_refl _)

/-- A pattern has an expansion if and only if all that it leads to is allowed. -/
theorem exists_expands_iff {p : Text} : (∃ q, f.Expands p q) ↔ f.Sound p := by
  refine ⟨fun ⟨_, h⟩ => h.sound, fun h => ?_⟩
  rcases expandIn_cases p (Nat.le_refl _) with ⟨q, -, hq⟩ | ⟨e, -, he⟩
  · exact ⟨q, hq⟩
  · exact absurd h (he.not_sound (.nil p))

theorem Offends.circles {p : Text} {chain : List Text}
    (h : f.Offends [] p (.fragmentCycle chain)) : f.Circles p chain := by
  obtain ⟨pre, bad, post, q, hr, -, h⟩ := h
  exact h.circles (.nil p) List.nodup_nil hr List.mem_append_cons_self

/-- Expansion is substitution. It ends without the bound on the depth; it gives the expansion
of the pattern, which there is if and only if all references that are met are allowed, and
otherwise the error of the first that is not; a circle is reported with the path to it. Over
the bytes of the pattern the same is given, and no slice of the pattern fails. -/
theorem expand_spec (f : Fragments) (p : Text) :
    (∀ depth, f.size ≤ depth → f.expandIn depth [] p = f.expand p) ∧
    (∀ q, f.expand p = .ok q ↔ f.Expands p q) ∧
    ((∃ q, f.expand p = .ok q) ↔ f.Sound p) ∧
    (∀ e, f.expand p = .error e ↔ f.Offends [] p e) ∧
    (∀ chain, f.expand p = .error (.fragmentCycle chain) → f.Circles p chain) ∧
    f.scan p = some (f.expand p) := by
  refine ⟨fun depth hdepth => ?_, fun q => expand_ok_iff, ?_, fun e => expand_error_iff,
    fun chain h => (expand_error_iff.mp h).circles, f.scan_eq p⟩
  · cases h : f.expand p with
    | ok q => exact (expandIn_ok_iff hdepth).mpr (expand_ok_iff.mp h)
    | error e => exact (expandIn_error_iff hdepth).mpr (expand_error_iff.mp h)
  · simp only [expand_ok_iff, exists_expands_iff]

/-- Two fragments that refer to each other. -/
theorem expand_spec_circle :
    let f : Fragments := ⟨[("a".toList, "x\x7b:b\x7d".toList), ("b".toList, "\x7b:a\x7d".toList)]⟩
    f.Circles "\x7b:a\x7d".toList ["a".toList, "b".toList, "a".toList] := by
  intro f
  exact (expand_spec f _).2.2.2.2.1 _ (by decide +kernel)

end Fragments

end TableLexer
