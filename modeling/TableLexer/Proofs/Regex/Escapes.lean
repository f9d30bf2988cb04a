import TableLexer.Proofs.Regex.Taking

/-!
# What an escape takes

The functions that read digits and names behind a backslash are given a bound on their steps,
which is always larger than the text is long. So each of them is first freed of the bound.

Result: `Escape.takes_read`.
-/

namespace TableLexer.Regex

namespace Escape

variable {m : Mode} {l : Bool} {rest rest' : Text} {c : Char}

/-! ## Digits -/

theorem digit?_ne {d : Nat} (h : digit? c = some d) : c ≠ '\\' ∧ c ≠ '\x7b' ∧ c ≠ ':' := by
  refine ⟨?_, ?_, ?_⟩ <;> rintro rfl <;> cases h

theorem takes_fixedHex {count value n : Nat}
    (h : fixedHex m count value rest = some (n, rest')) :
    Takes m.verbose l (fixedHex m count value) (fun r => some (n, r)) rest rest' := by
  induction count generalizing value rest with
  | zero =>
    cases h
    exact .nothing fun t _ => rfl
  | succ count ih =>
    cases rest with
    | nil => cases h
    | cons c rest =>
      unfold fixedHex at h
      split at h
      · next d hd =>
        have hk : ∀ x, fixedHex m (count + 1) value (c :: x)
            = fixedHex m count (16 * value + d) (m.skip x) := by
          intro x
          rw [fixedHex, hd]
        exact .plain (digit?_ne hd).1 (.inl (digit?_ne hd).2.1) hk
          (.skip (fun _ => rfl) (ih h))
      · cases h

theorem bracedHex_fuel {fuel fuel' digits value : Nat} (h : rest.length < fuel)
    (h' : rest.length < fuel') :
    bracedHex m fuel digits value rest = bracedHex m fuel' digits value rest := by
  refine eq_of_bounded (fun fuel x => bracedHex m fuel x.1 x.2.1 x.2.2) (fun x => x.2.2.length + 1)
    (fun _ _ h => absurd h (Nat.succ_ne_zero _)) ?_ (x := (digits, value, rest)) h h'
  rintro fuel fuel' ⟨digits, value, _ | ⟨c, rest⟩⟩ ih
  · rfl
  · simp only [bracedHex]
    split
    · rfl
    · split
      · exact ih (_, _, m.skip rest) (Nat.lt_succ_of_le (Nat.succ_le_succ (m.length_skip_le rest)))
      · rfl

/-- The digits up to a closing brace, without a bound. -/
def hexRun (m : Mode) (digits value : Nat) (rest : Text) : Option (Nat × Text) :=
  bracedHex m (rest.length + 1) digits value rest

theorem hexRun_eq {fuel digits value : Nat} (h : rest.length < fuel) :
    bracedHex m fuel digits value rest = hexRun m digits value rest :=
  bracedHex_fuel h (Nat.lt_succ_self _)

theorem hexRun_close (digits value : Nat) (rest : Text) :
    hexRun m digits value ('\x7d' :: rest) =
      if digits = 0 then none else some (value, m.skip rest) :=
  rfl

theorem hexRun_digit {d : Nat} (digits value : Nat) (rest : Text) (hc : c ≠ '\x7d')
    (hd : digit? c = some d) :
    hexRun m digits value (c :: rest) = hexRun m (digits + 1) (16 * value + d) (m.skip rest) := by
  rw [hexRun, bracedHex, if_neg hc, hd]
  exact hexRun_eq (Nat.lt_succ_of_le (m.length_skip_le rest))

theorem takes_hexRun {digits value n : Nat} (h : hexRun m digits value rest = some (n, rest')) :
    Takes m.verbose l (hexRun m digits value) (fun r => some (n, r)) rest rest' := by
  induction hlen : rest.length using Nat.strongRecOn generalizing rest digits value with
  | _ length ih =>
  subst hlen
  cases rest with
  | nil => cases h
  | cons c rest =>
    by_cases hclose : c = '\x7d'
    · subst hclose
      rw [hexRun_close] at h
      split at h
      · cases h
      · next hdigits =>
        cases h
        have hk : ∀ x, hexRun m digits n ('\x7d' :: x) = some (n, m.skip x) := by
          intro x
          rw [hexRun_close, if_neg hdigits]
        exact .plain (by decide) (.inl (by decide)) hk
          (.skip (h := fun x => some (n, x)) (fun _ => rfl) (.nothing fun _ _ => rfl))
    · cases hd : digit? c with
      | none =>
        rw [hexRun, bracedHex, if_neg hclose, hd] at h
        cases h
      | some d =>
        rw [hexRun_digit _ _ _ hclose hd] at h
        have hlt : (m.skip rest).length < (c :: rest).length :=
          Nat.lt_succ_of_le (m.length_skip_le rest)
        exact .plain (digit?_ne hd).1 (.inl (digit?_ne hd).2.1)
          (fun x => hexRun_digit _ _ x hclose hd) (.skip (fun _ => rfl) (ih _ hlt h rfl))

/-- The character with the code point that has been read. -/
def ofCode (byte : Bool) (x : Nat × Text) : Option (Escape × Text) :=
  (char? x.1).map fun c => (.char c byte, x.2)

theorem ofCode_eq_some {byte : Bool} {x : Nat × Text} {e : Escape}
    (h : ofCode byte x = some (e, rest')) : x.2 = rest' ∧ ∀ r, ofCode byte (x.1, r) = some (e, r) := by
  obtain ⟨c, hc, he⟩ := Option.map_eq_some_iff.mp h
  cases he
  exact ⟨rfl, fun r => by rw [ofCode, hc]; rfl⟩

theorem readHex_skip (m : Mode) (width : Nat) (rest : Text) :
    readHex m width rest = readHex m width (m.skip rest) := by
  rw [readHex, readHex, m.skip_skip]

theorem readHex_brace (m : Mode) (width : Nat) (rest : Text) :
    readHex m width ('\x7b' :: rest) = (hexRun m 0 0 (m.skip rest)).bind (ofCode false) := by
  rw [← hexRun_eq (Nat.lt_succ_of_le (m.length_skip_le rest)), readHex,
    m.skip_graphic (by decide)]
  show (bracedHex m (rest.length + 1) 0 0 (m.skip rest)).bind _ = _
  congr 1
  funext x
  cases hc : char? x.1 <;> simp [ofCode, hc]

theorem readHex_fixed {width : Nat} (hskip : m.skip rest = rest) (h : rest.head? ≠ some '\x7b') :
    readHex m width rest = (fixedHex m width 0 rest).bind (ofCode (width = 2)) := by
  rw [readHex, hskip]
  split
  · exact absurd rfl h
  · show (fixedHex m width 0 rest).bind _ = _
    congr 1
    funext x
    cases hc : char? x.1 <;> simp [ofCode, hc]

theorem takes_readHex {width : Nat} {e : Escape} (h : readHex m width rest = some (e, rest')) :
    Takes m.verbose l (readHex m width) (fun r => some (e, r)) rest rest' := by
  refine .skip (readHex_skip m width) ?_
  rw [readHex_skip] at h
  by_cases hbrace : (m.skip rest).head? = some '\x7b'
  · obtain ⟨after, hafter⟩ := List.head?_eq_some_iff.mp hbrace
    rw [hafter] at h ⊢
    rw [readHex_brace] at h
    obtain ⟨⟨n, r⟩, hrun, hchar⟩ := Option.bind_eq_some_iff.mp h
    obtain ⟨rfl, hcode⟩ := ofCode_eq_some hchar
    have hcolon : after.head? ≠ some ':' := by
      intro hhead
      obtain ⟨tail, rfl⟩ := List.head?_eq_some_iff.mp hhead
      rw [m.skip_graphic (by decide)] at hrun
      cases hrun
    refine .plain (by decide) (.inr hcolon) (readHex_brace m width) ?_
    refine .skip (h := fun y => (hexRun m 0 0 y).bind (ofCode false)) (fun _ => rfl) ?_
    refine (takes_hexRun hrun).map fun x y hxy => ?_
    rw [hxy]
    exact hcode y
  · refine .congr (j := fun y => (fixedHex m width 0 y).bind (ofCode (width = 2)))
      (fun t ht => readHex_fixed (m.skip_skip_append ht) (ht.head?_append hbrace (by decide))) ?_
    rw [readHex_fixed m.skip_skip hbrace] at h
    obtain ⟨⟨n, r⟩, hrun, hchar⟩ := Option.bind_eq_some_iff.mp h
    obtain ⟨rfl, hcode⟩ := ofCode_eq_some hchar
    refine (takes_fixedHex hrun).map fun x y hxy => ?_
    rw [hxy]
    exact hcode y

/-! ## Names of classes -/

theorem bracedName_fuel {fuel fuel' : Nat} {name : Text} (h : rest.length < fuel)
    (h' : rest.length < fuel') : bracedName m fuel name rest = bracedName m fuel' name rest := by
  refine eq_of_bounded (fun fuel x => bracedName m fuel x.1 x.2) (fun x => x.2.length + 1)
    (fun _ _ h => absurd h (Nat.succ_ne_zero _)) ?_ (x := (name, rest)) h h'
  rintro fuel fuel' ⟨name, _ | ⟨c, rest⟩⟩ ih
  · rfl
  · simp only [bracedName]
    split
    · rfl
    · exact ih (_, m.skip rest) (Nat.lt_succ_of_le (Nat.succ_le_succ (m.length_skip_le rest)))

/-- The name up to a closing brace, without a bound. -/
def nameRun (m : Mode) (name rest : Text) : Option (Text × Text) :=
  bracedName m (rest.length + 1) name rest

theorem nameRun_eq {fuel : Nat} {name : Text} (h : rest.length < fuel) :
    bracedName m fuel name rest = nameRun m name rest :=
  bracedName_fuel h (Nat.lt_succ_self _)

theorem nameRun_close (name rest : Text) :
    nameRun m name ('\x7d' :: rest) = some (name.reverse, rest) :=
  rfl

theorem nameRun_cons (name rest : Text) (hc : c ≠ '\x7d') :
    nameRun m name (c :: rest) = nameRun m (c :: name) (m.skip rest) := by
  rw [nameRun, bracedName, if_neg hc]
  exact nameRun_eq (Nat.lt_succ_of_le (m.length_skip_le rest))

/-- What is crossed are the characters of the name. -/
theorem takes_nameRun {name found : Text} (h : nameRun m name rest = some (found, rest'))
    (hslash : '\\' ∉ found) (hbrace : '\x7b' ∉ found) :
    name.reverse <+: found ∧
      Takes m.verbose l (nameRun m name) (fun r => some (found, r)) rest rest' := by
  induction hlen : rest.length using Nat.strongRecOn generalizing rest name with
  | _ length ih =>
  subst hlen
  cases rest with
  | nil => cases h
  | cons c rest =>
    by_cases hclose : c = '\x7d'
    · subst hclose
      rw [nameRun_close] at h
      cases h
      exact ⟨List.prefix_rfl,
        .plain (by decide) (.inl (by decide)) (nameRun_close name) (.nothing fun _ _ => rfl)⟩
    · rw [nameRun_cons _ _ hclose] at h
      obtain ⟨hfront, htakes⟩ := ih _ (Nat.lt_succ_of_le (m.length_skip_le rest)) h rfl
      rw [List.reverse_cons] at hfront
      have hmem : c ∈ found := hfront.subset (by simp)
      refine ⟨(List.prefix_append _ _).trans hfront, ?_⟩
      exact .plain (ne_of_mem_of_not_mem hmem hslash) (.inl (ne_of_mem_of_not_mem hmem hbrace))
        (fun x => nameRun_cons name x hclose) (.skip (fun _ => rfl) htakes)

/-- The class that a name stands for, in the mode in force. -/
def ofClass (m : Mode) (negated : Bool) (s : CharSet) (rest : Text) : Option (Escape × Text) := do
  let s ← m.negate? negated (m.fold s)
  some (.set s, rest)

theorem ofClass_eq_some {negated : Bool} {s : CharSet} {e : Escape}
    (h : ofClass m negated s rest = some (e, rest')) :
    rest = rest' ∧ ∀ r, ofClass m negated s r = some (e, r) := by
  obtain ⟨t, ht, he⟩ := Option.bind_eq_some_iff.mp h
  cases he
  exact ⟨rfl, fun r => by rw [ofClass, ht]; rfl⟩

theorem readNamed_skip (m : Mode) (negated : Bool) (rest : Text) :
    readNamed m negated rest = readNamed m negated (m.skip rest) := by
  rw [readNamed, readNamed, m.skip_skip]

theorem readNamed_ascii (negated : Bool) (rest : Text) (hm : m.unicode = false) :
    readNamed m negated rest = none := by
  rw [readNamed, hm]
  rfl

theorem readNamed_nil (negated : Bool) : readNamed m negated [] = none := by
  rw [readNamed, m.skip_closes closes_nil]
  cases m.unicode <;> rfl

theorem readNamed_brace (negated : Bool) (rest : Text) (hm : m.unicode = true) :
    readNamed m negated ('\x7b' :: rest) =
      (nameRun m [] (m.skip rest)).bind fun x =>
        (Unicode.resolve? x.1).bind fun s => ofClass m negated s x.2 := by
  rw [← nameRun_eq (Nat.lt_succ_of_le (m.length_skip_le rest))]
  simp [readNamed, hm, m.skip_graphic, ofClass]

theorem readNamed_letter (negated : Bool) (hm : m.unicode = true)
    (hskip : m.skip (c :: rest) = c :: rest) (hc : c ≠ '\x7b') :
    readNamed m negated (c :: rest) =
      if c = '\\' then none
      else (Unicode.findClass? [c]).bind fun s => ofClass m negated s (m.skip rest) := by
  simp [readNamed, hm, hskip, ofClass]

/-- A class of a name in braces. The name of a class does not begin with a colon, so it is no
reference. -/
theorem takes_bracedClass {negated : Bool} {e : Escape} (hm : m.unicode = true)
    (h : readNamed m negated ('\x7b' :: rest) = some (e, rest')) :
    Takes m.verbose l (readNamed m negated) (fun r => some (e, r)) ('\x7b' :: rest) rest' := by
  rw [readNamed_brace _ _ hm] at h
  obtain ⟨⟨name, r⟩, hrun, h⟩ := Option.bind_eq_some_iff.mp h
  obtain ⟨s, hs, hclass⟩ := Option.bind_eq_some_iff.mp h
  obtain ⟨rfl, hall⟩ := ofClass_eq_some hclass
  obtain ⟨hslash, hbrace, hhead⟩ := Unicode.resolve?_plain hs
  have hcolon : rest.head? ≠ some ':' := by
    intro hafter
    obtain ⟨tail, rfl⟩ := List.head?_eq_some_iff.mp hafter
    rw [m.skip_graphic (by decide), nameRun_cons _ _ (by decide)] at hrun
    obtain ⟨more, rfl⟩ := (takes_nameRun (l := true) hrun hslash hbrace).1
    exact hhead rfl
  refine .plain (by decide) (.inr hcolon) (fun x => readNamed_brace negated x hm) ?_
  refine .skip (h := fun y => (nameRun m [] y).bind fun x =>
    (Unicode.resolve? x.1).bind fun s => ofClass m negated s x.2) (fun _ => rfl) ?_
  refine (takes_nameRun hrun hslash hbrace).2.map fun x y hxy => ?_
  rw [hxy]
  simp [hs, hall]

/-- A class of one letter. -/
theorem takes_letterClass {negated : Bool} {e : Escape} (hm : m.unicode = true)
    (hkept : ∀ x, m.skip (c :: x) = c :: x) (hbrace : c ≠ '\x7b')
    (h : readNamed m negated (c :: rest) = some (e, rest')) :
    Takes m.verbose l (readNamed m negated) (fun r => some (e, r)) (c :: rest) rest' := by
  rw [readNamed_letter _ hm (hkept rest) hbrace] at h
  split at h
  · cases h
  next hslash =>
  obtain ⟨s, hs, hclass⟩ := Option.bind_eq_some_iff.mp h
  obtain ⟨rfl, hall⟩ := ofClass_eq_some hclass
  have hk : ∀ x, readNamed m negated (c :: x) = ofClass m negated s (m.skip x) := by
    intro x
    rw [readNamed_letter _ hm (hkept x) hbrace, if_neg hslash, hs]
    rfl
  refine .plain hslash (.inl hbrace) hk ?_
  exact .skip (h := ofClass m negated s) (fun _ => rfl) (.nothing fun _ _ => hall _)

theorem takes_readNamed {negated : Bool} {e : Escape}
    (h : readNamed m negated rest = some (e, rest')) :
    Takes m.verbose l (readNamed m negated) (fun r => some (e, r)) rest rest' := by
  cases hm : m.unicode with
  | false =>
    rw [readNamed_ascii _ _ hm] at h
    cases h
  | true =>
    refine .skip (readNamed_skip m negated) ?_
    rw [readNamed_skip] at h
    cases hskip : m.skip rest with
    | nil =>
      rw [hskip, readNamed_nil] at h
      cases h
    | cons c after =>
      rw [hskip] at h
      by_cases hbrace : c = '\x7b'
      · subst hbrace
        exact takes_bracedClass hm h
      · exact takes_letterClass hm (m.skip_cons_of_skip hskip) hbrace h

/-! ## Boundaries -/

/-- A character of the name of a boundary. -/
def isNamePart (c : Char) : Bool := c.isAlpha || c = '-'

theorem isNamePart_ne (h : isNamePart c = true) : c ≠ '\\' ∧ c ≠ '\x7b' ∧ c ≠ ':' := by
  refine ⟨?_, ?_, ?_⟩ <;> rintro rfl <;> cases h

theorem boundaryName_fuel {fuel fuel' : Nat} {name : Text} (h : rest.length ≤ fuel)
    (h' : rest.length ≤ fuel') : boundaryName m fuel name rest = boundaryName m fuel' name rest := by
  refine eq_of_bounded (fun fuel x => boundaryName m fuel x.1 x.2) (fun x => x.2.length) ?_ ?_
    (x := (name, rest)) h h'
  · rintro fuel ⟨name, rest⟩ hdone
    obtain rfl := List.eq_nil_of_length_eq_zero hdone
    cases fuel <;> rfl
  · rintro fuel fuel' ⟨name, _ | ⟨c, rest⟩⟩ ih
    · rfl
    · simp only [boundaryName]
      split
      · exact ih (_, m.skip rest) (Nat.lt_succ_of_le (m.length_skip_le rest))
      · rfl

/-- The name of a boundary, without a bound. -/
def boundaryRun (m : Mode) (name rest : Text) : Text × Text := boundaryName m rest.length name rest

theorem boundaryRun_part (name rest : Text) (hc : isNamePart c = true) :
    boundaryRun m name (c :: rest) = boundaryRun m (c :: name) (m.skip rest) := by
  rw [boundaryRun, List.length_cons, boundaryName]
  refine (if_pos hc).trans ?_
  exact boundaryName_fuel (m.length_skip_le rest) (Nat.le_refl _)

theorem boundaryRun_other (name rest : Text) (hc : isNamePart c = false) :
    boundaryRun m name (c :: rest) = (name.reverse, c :: rest) := by
  rw [boundaryRun, List.length_cons, boundaryName]
  exact if_neg (ne_true_of_eq_false hc)

theorem takes_boundaryRun {name found : Text} (h : boundaryRun m name rest = (found, rest')) :
    Takes m.verbose l (boundaryRun m name) (fun r => (found, r)) rest rest' :=
  takes_run (boundaryRun m) (fun _ hc => ⟨(isNamePart_ne hc).1, (isNamePart_ne hc).2.1⟩) (by decide)
    (fun _ => rfl) (fun name _ rest => boundaryRun_part name rest)
    (fun name _ rest => boundaryRun_other name rest) h

/-- The boundary with a name that has been read, up to the closing brace. -/
def ofBoundary (a : Alphabet) : Text × Text → Option (Escape × Text)
  | (name, '\x7d' :: rest) => (boundary? a name).map fun l => (.look l, rest)
  | _ => none

/-- A boundary with a name, behind the opening brace. -/
def namedBoundary (m : Mode) (rest : Text) : Option (Escape × Text) :=
  ofBoundary (alphabet m) (boundaryRun m [] (m.skip rest))

theorem takes_namedBoundary {e : Escape} (h : namedBoundary m rest = some (e, rest')) :
    Takes m.verbose l (namedBoundary m) (fun r => some (e, r)) rest rest' := by
  unfold namedBoundary at h
  match hrun : boundaryRun m [] (m.skip rest) with
  | (name, []) =>
    rw [hrun] at h
    cases h
  | (name, c :: after) =>
    rw [hrun] at h
    by_cases hc : c = '\x7d'
    · subst hc
      obtain ⟨look, hlook, he⟩ := Option.map_eq_some_iff.mp h
      cases he
      refine .skip (h := fun y => ofBoundary (alphabet m) (boundaryRun m [] y)) (fun _ => rfl) ?_
      refine (takes_boundaryRun hrun).trans (h := fun r => ofBoundary (alphabet m) (name, r))
        (fun x y hxy => congrArg _ hxy) ?_
      refine .plain (by decide) (.inl (by decide)) (h := fun r => some (.look look, r))
        (fun r => ?_) (.nothing fun _ _ => rfl)
      rw [ofBoundary, hlook]
      rfl
    · unfold ofBoundary at h
      split at h
      · next heq =>
        cases heq
        exact absurd rfl hc
      · cases h

theorem readBoundary_plain (h : rest.head? ≠ some '\x7b') :
    readBoundary m rest = some (.look (.wordBoundary (alphabet m)), rest) := by
  unfold readBoundary
  split
  · exact absurd rfl h
  · rfl

theorem readBoundary_brace {after : Text} (h : m.skip rest = c :: after) :
    readBoundary m ('\x7b' :: rest) =
      if isNamePart c then namedBoundary m rest
      else some (.look (.wordBoundary (alphabet m)), '\x7b' :: rest) := by
  simp only [readBoundary, h, isNamePart, namedBoundary, boundaryRun, List.length_cons]
  rfl

theorem takes_readBoundary {e : Escape} (h : readBoundary m rest = some (e, rest')) :
    Takes m.verbose l (readBoundary m) (fun r => some (e, r)) rest rest' := by
  by_cases hbrace : rest.head? = some '\x7b'
  · obtain ⟨after, rfl⟩ := List.head?_eq_some_iff.mp hbrace
    cases hskip : m.skip after with
    | nil =>
      rw [readBoundary, hskip] at h
      cases h
    | cons c tail =>
      have hall : ∀ t, Closes t → m.skip (after ++ t) = c :: (tail ++ t) :=
        fun t ht => m.skip_append hskip ht
      rw [readBoundary_brace hskip] at h
      split at h
      · next hc =>
        have hcolon : after.head? ≠ some ':' := by
          intro hhead
          obtain ⟨more, rfl⟩ := List.head?_eq_some_iff.mp hhead
          rw [m.skip_graphic (by decide)] at hskip
          cases hskip
          exact (isNamePart_ne hc).2.2 rfl
        refine .congr (j := fun x => namedBoundary m x.tail) (fun t ht => ?_)
          (.plain (by decide) (.inr hcolon) (fun _ => rfl) (takes_namedBoundary h))
        exact (readBoundary_brace (hall t ht)).trans (if_pos hc)
      · next hc =>
        cases h
        exact .nothing fun t ht => (readBoundary_brace (hall t ht)).trans (if_neg hc)
  · rw [readBoundary_plain hbrace] at h
    cases h
    exact .nothing fun t ht => readBoundary_plain (ht.head?_append hbrace (by decide))

/-! ## All escapes -/

/-- An escape behind its backslash: the character that says what it is, and what is read behind
it. -/
theorem takes_read {e : Escape} (h : read m rest = some (e, rest')) :
    ∃ c after, rest = c :: after ∧
      Takes m.verbose l (fun x => read m (c :: x)) (fun r => some (e, r)) after rest' := by
  cases rest with
  | nil => cases h
  | cons c rest =>
    refine ⟨c, rest, rfl, ?_⟩
    unfold read at h
    dsimp only at h
    by_cases hc : isEscapable c = true
    · rw [if_pos hc] at h
      cases h
      exact .nothing fun t _ => if_pos hc
    rw [if_neg hc] at h
    split at h
    case h_1 | h_2 | h_3 => exact (takes_readHex h).congr fun _ _ => rfl
    case h_4 | h_5 => exact (takes_readNamed h).congr fun _ _ => rfl
    case h_9 | h_10 | h_11 =>
      obtain ⟨s, hs, he⟩ := Option.map_eq_some_iff.mp h
      cases he
      exact .nothing fun t _ => Option.map_eq_some_iff.mpr ⟨s, hs, rfl⟩
    case h_20 => exact (takes_readBoundary h).congr fun _ _ => rfl
    case h_24 => cases h
    all_goals
      cases h
      exact .nothing fun t _ => rfl

end Escape

end TableLexer.Regex
