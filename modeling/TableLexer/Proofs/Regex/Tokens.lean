import TableLexer.Proofs.Regex.Brackets
import TableLexer.Regex.Parser

/-!
# What a step of the reader takes

A step of the reader takes a token and applies it. Which token it is depends only on the mode
and the text, and what becomes of the reader only on the token. Outside of classes in brackets
no token takes the beginning of a reference: a brace opens a number of repetitions, digits of a
character or a name, and none of these begins with a colon.

Results:
1. `Parser.step_eq`: a step takes a token and applies it.
2. `Parser.takes_token?`: the text of a token.
-/

namespace TableLexer.Regex

/-- Text without a backslash or a brace is crossed. -/
theorem Crosses.of_plain {v l : Bool} {front : Text} (h : ∀ c ∈ front, c ≠ '\\' ∧ c ≠ '\x7b')
    (p : Text) : Crosses v l (front ++ p) p := by
  induction front with
  | nil => exact .refl p
  | cons c front ih =>
    obtain ⟨⟨hslash, hbrace⟩, hfront⟩ := List.forall_mem_cons.mp h
    exact .plain hslash (.inr fun ho => hbrace (Piece.opens_cons.mp ho).1) (ih hfront)

namespace Parser

variable {m : Mode} {l : Bool} {rest rest' : Text} {c : Char}

/-! ## Counts -/

theorem isDigit_ne (h : c.isDigit = true) : c ≠ '\\' ∧ c ≠ '\x7b' := by
  refine ⟨?_, ?_⟩ <;> rintro rfl <;> cases h

theorem readDigits_fuel {fuel fuel' : Nat} {value : Option Nat} (h : rest.length ≤ fuel)
    (h' : rest.length ≤ fuel') : readDigits m fuel value rest = readDigits m fuel' value rest := by
  refine eq_of_bounded (fun fuel x => readDigits m fuel x.1 x.2) (fun x => x.2.length) ?_ ?_
    (x := (value, rest)) h h'
  · rintro fuel ⟨value, rest⟩ hdone
    obtain rfl := List.eq_nil_of_length_eq_zero hdone
    cases fuel <;> rfl
  · rintro fuel fuel' ⟨value, _ | ⟨c, rest⟩⟩ ih
    · rfl
    · simp only [readDigits]
      split
      · exact ih (_, m.skip rest) (Nat.lt_succ_of_le (m.length_skip_le rest))
      · rfl

/-- The digits of a number, without a bound. -/
def digitRun (m : Mode) (value : Option Nat) (rest : Text) : Option Nat × Text :=
  readDigits m rest.length value rest

theorem digitRun_digit (value : Option Nat) (rest : Text) (hc : c.isDigit = true) :
    digitRun m value (c :: rest) =
      digitRun m (some (10 * value.getD 0 + (c.toNat - '0'.toNat))) (m.skip rest) := by
  rw [digitRun, List.length_cons, readDigits, if_pos hc]
  exact readDigits_fuel (m.length_skip_le rest) (Nat.le_refl _)

theorem digitRun_other (value : Option Nat) (rest : Text) (hc : c.isDigit = false) :
    digitRun m value (c :: rest) = (value, c :: rest) := by
  rw [digitRun, List.length_cons, readDigits, if_neg (ne_true_of_eq_false hc)]

theorem takes_digitRun {value found : Option Nat} (h : digitRun m value rest = (found, rest')) :
    Takes m.verbose l (digitRun m value) (fun r => (found, r)) rest rest' :=
  takes_run (digitRun m) (fun _ => isDigit_ne) (by decide) (fun _ => rfl)
    (fun value _ rest => digitRun_digit value rest)
    (fun value _ rest => digitRun_other value rest) h

/-- White space is dropped around a number in any mode. -/
theorem takes_dropBlank (v l : Bool) (rest : Text) :
    Takes v l (List.dropWhile isBlank) id rest (rest.dropWhile isBlank) := by
  induction rest with
  | nil =>
    refine .nothing fun t ht => ?_
    cases t with
    | nil => rfl
    | cons c t =>
      obtain rfl := ht c rfl
      exact List.dropWhile_cons_of_neg (ne_true_of_eq_false (Unicode.isBlank_graphic (by decide)))
  | cons c rest ih =>
    by_cases hblank : isBlank c = true
    · have hdrop : ∀ x, (c :: x).dropWhile isBlank = x.dropWhile isBlank :=
        fun _ => List.dropWhile_cons_of_pos hblank
      rw [hdrop]
      exact .plain (Mode.isBlank_ne hblank).1 (.inl (Mode.isBlank_ne hblank).2) hdrop ih
    · have hdrop : ∀ x, (c :: x).dropWhile isBlank = c :: x :=
        fun _ => List.dropWhile_cons_of_neg hblank
      rw [hdrop]
      exact .nothing fun t _ => hdrop _

/-- A number that has been read, with the white space behind it dropped. -/
def ofDigits (x : Option Nat × Text) : Option (Option Nat × Text) :=
  if x.1.any (4294967296 ≤ ·) then none else some (x.1, x.2.dropWhile isBlank)

theorem readCount_eq (m : Mode) (rest : Text) :
    readCount m rest = ofDigits (readDigits m rest.length none (rest.dropWhile isBlank)) :=
  rfl

theorem takes_readCount {value : Option Nat} (h : readCount m rest = some (value, rest')) :
    Takes m.verbose l (readCount m) (fun r => some (value, r)) rest rest' := by
  have hrun : ∀ x, readCount m x = ofDigits (digitRun m none (x.dropWhile isBlank)) := fun x =>
    congrArg ofDigits (readDigits_fuel (List.dropWhile_suffix _).length_le (Nat.le_refl _))
  rw [hrun] at h
  refine (takes_dropBlank m.verbose l rest).trans (h := fun y => ofDigits (digitRun m none y))
    (fun x y hxy => by rw [hrun, hxy]; rfl) ?_
  match hdigits : digitRun m none (rest.dropWhile isBlank) with
  | (found, after) =>
    rw [hdigits, ofDigits] at h
    split at h
    · cases h
    next hsmall =>
    cases h
    refine (takes_digitRun hdigits).trans (h := fun r => ofDigits (found, r))
      (fun x y hxy => congrArg ofDigits hxy) ?_
    exact (takes_dropBlank m.verbose l after).map fun x y hxy => by
      rw [ofDigits, if_neg hsmall, hxy]
      rfl

/-- Both bounds of a repetition, at the closing brace. -/
def closeBounds (low : Nat) (most : Option Nat) : Text → Option (Nat × Option Nat × Text)
  | '\x7d' :: rest => most.bind fun high => if low ≤ high then some (low, some high, rest) else none
  | _ => none

/-- What follows the comma of a repetition. -/
def afterComma (m : Mode) (low : Nat) : Text → Option (Nat × Option Nat × Text)
  | '\x7d' :: rest => some (low, none, rest)
  | rest => (readCount m rest).bind fun x => closeBounds low x.1 x.2

/-- What follows the smaller bound of a repetition. -/
def afterLeast (m : Mode) (low : Nat) : Text → Option (Nat × Option Nat × Text)
  | ',' :: rest => afterComma m low (m.skip rest)
  | '\x7d' :: rest => some (low, some low, rest)
  | _ => none

/-- The bounds of a repetition, where nothing is to be skipped. -/
def boundsRun (m : Mode) (rest : Text) : Option (Nat × Option Nat × Text) :=
  (readCount m rest).bind fun x => x.1.bind fun low => afterLeast m low x.2

theorem afterComma_count {low : Nat} (h : rest.head? ≠ some '\x7d') :
    afterComma m low rest = (readCount m rest).bind fun x => closeBounds low x.1 x.2 := by
  unfold afterComma
  split
  · exact absurd rfl h
  · rfl

/-- The number of a count and the text behind it, as the two bounds. -/
theorem closeBounds_eq (low : Nat) (x : Option Nat × Text) :
    closeBounds low x.1 x.2 = (do
      let most ← x.1
      match x.2 with
      | '\x7d' :: rest => if low ≤ most then some (low, some most, rest) else none
      | _ => none) := by
  obtain ⟨most, rest⟩ := x
  cases most with
  | none =>
    unfold closeBounds
    split <;> rfl
  | some high => rfl

theorem readBounds_eq (m : Mode) (rest : Text) : readBounds m rest = boundsRun m (m.skip rest) := by
  unfold readBounds
  split
  · next hskip =>
    rw [hskip]
    rfl
  show (readCount m (m.skip rest)).bind _ = _
  rw [boundsRun]
  congr 1
  funext ⟨least, after⟩
  dsimp only
  cases least with
  | none =>
    split
    · split <;> rfl
    · rfl
    · rfl
  | some low =>
    split
    · next tail =>
      show _ = afterComma m low (m.skip tail)
      split
      · next hskip =>
        rw [hskip]
        rfl
      · next hskip =>
        rw [hskip]
        rfl
      · next hclose =>
        rw [afterComma_count]
        · show (readCount m (m.skip tail)).bind _ = _
          congr 1
          funext x
          exact (closeBounds_eq low x).symm
        · intro hhead
          obtain ⟨more, hmore⟩ := List.head?_eq_some_iff.mp hhead
          exact hclose more hmore
    · rfl
    · next hcomma hclose =>
      show none = afterLeast m low after
      unfold afterLeast
      split
      · exact absurd rfl (hcomma _)
      · exact absurd rfl (hclose _)
      · rfl

variable {least low : Nat} {most high : Option Nat}

theorem takes_closeBounds (h : closeBounds low high rest = some (least, most, rest')) :
    Takes m.verbose l (closeBounds low high) (fun r => some (least, most, r)) rest rest' := by
  unfold closeBounds at h
  split at h
  · next tail =>
    obtain ⟨n, rfl, hn⟩ := Option.bind_eq_some_iff.mp h
    split at hn
    · next hle =>
      cases hn
      exact .plain (by decide) (.inl (by decide)) (h := fun r => some (_, some n, r))
        (fun _ => if_pos hle) (.nothing fun _ _ => rfl)
    · cases hn
  · cases h

theorem takes_afterComma (h : afterComma m low rest = some (least, most, rest')) :
    Takes m.verbose l (afterComma m low) (fun r => some (least, most, r)) rest rest' := by
  by_cases hclose : rest.head? = some '\x7d'
  · obtain ⟨tail, rfl⟩ := List.head?_eq_some_iff.mp hclose
    cases h
    exact .plain (by decide) (.inl (by decide)) (fun _ => rfl) (.nothing fun _ _ => rfl)
  · refine .congr (j := fun x => (readCount m x).bind fun x => closeBounds low x.1 x.2)
      (fun t ht => afterComma_count (ht.head?_append hclose (by decide))) ?_
    rw [afterComma_count hclose] at h
    obtain ⟨⟨high, after⟩, hcount, h⟩ := Option.bind_eq_some_iff.mp h
    refine (takes_readCount hcount).trans (h := closeBounds low high) (fun x y hxy => ?_)
      (takes_closeBounds h)
    rw [hxy]
    rfl

theorem takes_afterLeast (h : afterLeast m low rest = some (least, most, rest')) :
    Takes m.verbose l (afterLeast m low) (fun r => some (least, most, r)) rest rest' := by
  unfold afterLeast at h
  split at h
  · exact .plain (by decide) (.inl (by decide)) (fun _ => rfl)
      (.skip (fun _ => rfl) (takes_afterComma h))
  · cases h
    exact .plain (by decide) (.inl (by decide)) (fun _ => rfl) (.nothing fun _ _ => rfl)
  · cases h

theorem takes_readBounds (h : readBounds m rest = some (least, most, rest')) :
    Takes m.verbose l (readBounds m) (fun r => some (least, most, r)) rest rest' := by
  refine .skip (readBounds_eq m) ?_
  rw [readBounds_eq] at h
  obtain ⟨⟨first, after⟩, hcount, h⟩ := Option.bind_eq_some_iff.mp h
  obtain ⟨low, rfl, h⟩ := Option.bind_eq_some_iff.mp h
  refine (takes_readCount hcount).trans (h := afterLeast m low) (fun x y hxy => ?_)
    (takes_afterLeast h)
  rw [boundsRun, hxy]
  rfl

/-- The bounds of a repetition do not begin with a colon. -/
theorem head?_of_readBounds (h : readBounds m rest = some (least, most, rest')) :
    rest.head? ≠ some ':' := by
  intro hhead
  obtain ⟨tail, rfl⟩ := List.head?_eq_some_iff.mp hhead
  rw [readBounds_eq, m.skip_graphic (by decide), boundsRun, readCount_eq,
    List.dropWhile_cons_of_neg (ne_true_of_eq_false (Unicode.isBlank_graphic (by decide))),
    List.length_cons, readDigits,
    if_neg (by decide)] at h
  cases h

/-! ## Groups -/

theorem readFlags_end {cleared : Bool} {flags : Flags} (hc : c = ':' ∨ c = ')') (rest : Text) :
    readFlags cleared flags (c :: rest) =
      if cleared && !(flags.head?.any fun flag => !flag.2) then none
      else some (flags.reverse, decide (c = ':'), rest) := by
  unfold readFlags
  exact if_pos (by simpa using hc)

theorem readFlags_dash {cleared : Bool} {flags : Flags} (rest : Text) :
    readFlags cleared flags ('-' :: rest) = if cleared then none else readFlags true flags rest :=
  rfl

/-- A character that is a flag and has not been read yet. -/
def isNewFlag (flags : Flags) (c : Char) : Bool :=
  ['i', 'm', 's', 'U', 'u', 'R', 'x'].contains c && !(flags.any (·.1 = c))

theorem readFlags_flag {cleared : Bool} {flags : Flags} (hend : ¬ (c = ':' ∨ c = ')'))
    (hdash : c ≠ '-') (rest : Text) :
    readFlags cleared flags (c :: rest) =
      if isNewFlag flags c then readFlags cleared ((c, !cleared) :: flags) rest else none := by
  rw [readFlags, if_neg (by simpa using hend), if_neg hdash]
  rfl

theorem isNewFlag_ne {flags : Flags} (h : isNewFlag flags c = true) :
    c ≠ '\\' ∧ c ≠ '\x7b' ∧ c ≠ 'P' ∧ c ≠ '<' := by
  have hmem := (Bool.and_eq_true_iff.mp h).1
  refine ⟨?_, ?_, ?_, ?_⟩ <;> rintro rfl <;> exact absurd hmem (by decide)

theorem takes_readFlags {cleared opens : Bool} {flags found : Flags}
    (h : readFlags cleared flags rest = some (found, opens, rest')) :
    Takes m.verbose l (readFlags cleared flags) (fun r => some (found, opens, r)) rest rest' := by
  induction rest generalizing cleared flags with
  | nil => cases h
  | cons c rest ih =>
    by_cases hend : c = ':' ∨ c = ')'
    · rw [readFlags_end hend] at h
      split at h
      · cases h
      · next hgood =>
        cases h
        refine .plain ?_ (.inl ?_) (h := fun r => some (flags.reverse, decide (c = ':'), r))
          (fun x => (readFlags_end hend x).trans (if_neg hgood)) (.nothing fun _ _ => rfl)
        all_goals rcases hend with rfl | rfl <;> decide
    by_cases hdash : c = '-'
    · subst hdash
      rw [readFlags_dash] at h
      split at h
      · cases h
      · next hcleared =>
        exact .plain (by decide) (.inl (by decide))
          (fun x => (readFlags_dash x).trans (if_neg hcleared)) (ih h)
    · rw [readFlags_flag hend hdash] at h
      split at h
      · next hnew =>
        exact .plain (isNewFlag_ne hnew).1 (.inl (isNewFlag_ne hnew).2.1)
          (fun x => (readFlags_flag hend hdash x).trans (if_pos hnew)) (ih h)
      · cases h

/-- Flags do not begin as a name does. -/
theorem head?_of_readFlags {cleared opens : Bool} {flags found : Flags}
    (h : readFlags cleared flags rest = some (found, opens, rest')) :
    ∃ c tail, rest = c :: tail ∧ c ≠ 'P' ∧ c ≠ '<' := by
  cases rest with
  | nil => cases h
  | cons c rest =>
    refine ⟨c, rest, rfl, ?_⟩
    by_cases hend : c = ':' ∨ c = ')'
    · constructor <;> rcases hend with rfl | rfl <;> decide
    by_cases hdash : c = '-'
    · subst hdash
      decide
    · rw [readFlags_flag hend hdash] at h
      split at h
      · next hnew => exact (isNewFlag_ne hnew).2.2
      · cases h

theorem continuesName_ne (h : continuesName c = true) : c ≠ '\\' ∧ c ≠ '\x7b' := by
  constructor
  · rintro rfl
    rw [continuesName, startsName, Unicode.not_alphabetic.1, Unicode.not_number.1] at h
    exact absurd h (by decide)
  · rintro rfl
    rw [continuesName, startsName, Unicode.not_alphabetic.2, Unicode.not_number.2] at h
    exact absurd h (by decide)

theorem startsName_continues (h : startsName c = true) : continuesName c = true := by
  simp [continuesName, h]

/-- The characters of a name. -/
def IsGroupName (name : Text) : Prop :=
  ∃ first others, name = first :: others ∧ startsName first = true ∧
    others.all continuesName = true

theorem IsGroupName.ne {name : Text} (h : IsGroupName name) : ∀ c ∈ name, c ≠ '\\' ∧ c ≠ '\x7b' := by
  obtain ⟨first, others, rfl, hfirst, hothers⟩ := h
  exact List.forall_mem_cons.mpr ⟨continuesName_ne (startsName_continues hfirst),
    fun c hc => continuesName_ne (List.all_eq_true.mp hothers c hc)⟩

theorem readName_eq_some {name : Text} :
    readName rest = some (name, rest') ↔
      IsGroupName name ∧ '>' ∉ name ∧ rest = name ++ '>' :: rest' := by
  constructor
  · intro h
    unfold readName at h
    dsimp only at h
    split at h
    · next first others c tail htake hdrop =>
      split at h
      · next hgood =>
        cases h
        have hhead := List.head?_dropWhile_not (· ≠ '>') rest
        rw [hdrop] at hhead
        obtain rfl : c = '>' := by simpa using hhead
        refine ⟨⟨first, others, htake, Bool.and_eq_true_iff.mp hgood⟩, fun hmem => ?_, ?_⟩
        · simpa using List.all_eq_true.mp (List.all_takeWhile (p := (· ≠ '>'))) _ hmem
        · rw [← hdrop, List.takeWhile_append_dropWhile]
      · cases h
    · cases h
  · rintro ⟨⟨first, others, rfl, hfirst, hothers⟩, hend, rfl⟩
    have hall : ∀ c ∈ first :: others, decide (c ≠ '>') = true := by
      intro c hc
      exact decide_eq_true (ne_of_mem_of_not_mem hc hend)
    have htake : (first :: others ++ '>' :: rest').takeWhile (· ≠ '>') = first :: others := by
      rw [List.takeWhile_append_of_pos hall]
      exact List.append_nil _
    have hdrop : (first :: others ++ '>' :: rest').dropWhile (· ≠ '>') = '>' :: rest' := by
      rw [List.dropWhile_append_of_pos hall]
      rfl
    simp only [readName, htake, hdrop, hfirst, hothers]
    rfl

theorem takes_readName {name : Text} (h : readName rest = some (name, rest')) :
    Takes m.verbose l readName (fun r => some (name, r)) rest rest' := by
  obtain ⟨hname, hend, rfl⟩ := readName_eq_some.mp h
  have hread : ∀ x, readName ((name ++ ['>']) ++ x) = some (name, x) := fun x =>
    readName_eq_some.mpr ⟨hname, hend, List.append_assoc ..⟩
  have hplain : ∀ c ∈ name ++ ['>'], c ≠ '\\' ∧ c ≠ '\x7b' := by
    intro c hc
    rcases List.mem_append.mp hc with hc | hc
    · exact hname.ne c hc
    · rw [List.mem_singleton.mp hc]
      decide
  have htext : name ++ '>' :: rest' = (name ++ ['>']) ++ rest' := by simp
  rw [htext]
  exact .behind_of_front _ hread (.nothing fun _ _ => rfl) (.of_plain hplain _)

/-- The opening that flags make. -/
def ofFlags : Flags × Bool × Text → Option (Opening × Text)
  | (flags, opens, rest) =>
      if opens then some (.plain flags, rest)
      else if flags.isEmpty then none
      else some (.flags flags, rest)

/-- A name behind the opening angle bracket. -/
def angleRun : Text → Option (Opening × Text)
  | [] => none
  | c :: rest =>
      if c = '=' || c = '!' then none
      else (readName (c :: rest)).map fun x => (.named x.1, x.2)

/-- An opening, where nothing is to be skipped. -/
def openingRun : Text → Option (Opening × Text)
  | '?' :: 'P' :: '<' :: rest => (readName rest).map fun x => (.named x.1, x.2)
  | '?' :: '<' :: c :: rest => angleRun (c :: rest)
  | '?' :: rest => (readFlags false [] rest).bind ofFlags
  | rest => some (.numbered, rest)

theorem readOpening_eq (m : Mode) (rest : Text) :
    readOpening m rest = openingRun (m.skip rest) := by
  unfold readOpening
  generalize m.skip rest = x
  split
  · rfl
  · rfl
  · rw [openingRun]
    · rfl
    all_goals assumption
  · rw [openingRun]
    all_goals assumption

theorem openingRun_angle (rest : Text) : openingRun ('?' :: '<' :: rest) = angleRun rest := by
  cases rest <;> rfl

theorem openingRun_flags (hname : c ≠ 'P') (hangle : c ≠ '<') (rest : Text) :
    openingRun ('?' :: c :: rest) = (readFlags false [] (c :: rest)).bind ofFlags := by
  rw [openingRun]
  · rintro r h
    exact hname (List.cons.inj h).1
  · rintro d r h
    exact hangle (List.cons.inj h).1

theorem openingRun_numbered (h : rest.head? ≠ some '?') :
    openingRun rest = some (.numbered, rest) := by
  unfold openingRun
  split
  · exact absurd rfl h
  · exact absurd rfl h
  · exact absurd rfl h
  · rfl

variable {o : Opening}

theorem takes_angleRun (h : angleRun rest = some (o, rest')) :
    Takes m.verbose l angleRun (fun r => some (o, r)) rest rest' := by
  cases rest with
  | nil => cases h
  | cons c rest =>
    rw [angleRun] at h
    split at h
    · cases h
    · next hc =>
      obtain ⟨⟨name, after⟩, hname, ho⟩ := Option.map_eq_some_iff.mp h
      cases ho
      refine .congr (j := fun y => (readName y).map fun x => (.named x.1, x.2))
        (fun t _ => by rw [List.cons_append, angleRun, if_neg hc])
        ((takes_readName hname).map fun x y hxy => ?_)
      rw [hxy]
      rfl

theorem takes_ofFlags {opens : Bool} (h : ofFlags (flags, opens, rest) = some (o, rest')) :
    rest = rest' ∧ ∀ r, ofFlags (flags, opens, r) = some (o, r) := by
  unfold ofFlags at h ⊢
  dsimp only at h ⊢
  split at h
  · next hopens =>
    cases h
    exact ⟨rfl, fun _ => if_pos hopens⟩
  · next hopens =>
    split at h
    · cases h
    · next hempty =>
      cases h
      exact ⟨rfl, fun _ => (if_neg hopens).trans (if_neg hempty)⟩

theorem takes_openingRun (h : openingRun rest = some (o, rest')) :
    Takes m.verbose l openingRun (fun r => some (o, r)) rest rest' := by
  unfold openingRun at h
  split at h
  · obtain ⟨⟨name, after⟩, hname, ho⟩ := Option.map_eq_some_iff.mp h
    cases ho
    refine .plain (by decide) (.inl (by decide)) (fun _ => rfl) (.plain (by decide)
      (.inl (by decide)) (h := fun x => openingRun ('?' :: 'P' :: x)) (fun _ => rfl)
      (.plain (by decide) (.inl (by decide))
        (h := fun x => (readName x).map fun x => (.named x.1, x.2)) (fun _ => rfl) ?_))
    refine (takes_readName hname).map fun x y hxy => ?_
    rw [hxy]
    rfl
  · exact .plain (by decide) (.inl (by decide)) (fun _ => rfl)
      (.plain (by decide) (.inl (by decide)) (h := angleRun) openingRun_angle (takes_angleRun h))
  · next tail hname hangle =>
    obtain ⟨⟨flags, opens, after⟩, hflags, ho⟩ := Option.bind_eq_some_iff.mp h
    obtain ⟨rfl, hall⟩ := takes_ofFlags ho
    obtain ⟨c, more, rfl, hne, hne'⟩ := head?_of_readFlags hflags
    refine .congr (j := fun x => (readFlags false [] x.tail).bind ofFlags)
      (fun t _ => openingRun_flags hne hne' (more ++ t)) ?_
    refine .plain (by decide) (.inl (by decide)) (fun _ => rfl)
      ((takes_readFlags hflags).map fun x y hxy => ?_)
    show (readFlags false [] x).bind ofFlags = _
    rw [hxy]
    exact hall y
  · next hname hangle hflags =>
    cases h
    refine .nothing fun t ht => openingRun_numbered (ht.head?_append ?_ (by decide))
    intro hhead
    obtain ⟨tail, rfl⟩ := List.head?_eq_some_iff.mp hhead
    exact hflags tail rfl

theorem takes_readOpening (h : readOpening m rest = some (o, rest')) :
    Takes m.verbose l (readOpening m) (fun r => some (o, r)) rest rest' := by
  rw [readOpening_eq] at h
  exact .skip (readOpening_eq m) (takes_openingRun h)

/-! ## Tokens -/

/-- What one step of the reader takes. -/
inductive Token where
  | opening (o : Opening)
  | closing
  | bar
  | item (tree : Tree) (height : Nat)
  | repetition (min : Nat) (max : Option Nat) (lazy : Bool)

/-- A repetition, with the question mark behind it if there is one. -/
def ofBounds (min : Nat) (max : Option Nat) (rest : Text) : Option (Token × Text) :=
  some (.repetition min max (takeLazy rest).1, (takeLazy rest).2)

/-- The token in front, where nothing is to be skipped. -/
def token? (m : Mode) : Text → Option (Token × Text)
  | [] => none
  | c :: rest =>
      match c with
      | '(' => (readOpening m rest).map fun x => (.opening x.1, x.2)
      | ')' => some (.closing, rest)
      | '|' => some (.bar, rest)
      | '[' => (Bracket.read m rest).map fun x => (.item (.leaf (.set x.1.set)) x.1.height, x.2)
      | '?' => ofBounds 0 (some 1) rest
      | '*' => ofBounds 0 none rest
      | '+' => ofBounds 1 none rest
      | '\x7b' => (readBounds m rest).bind fun x => ofBounds x.1 x.2.1 (m.skip x.2.2)
      | '\\' => (Escape.read m rest).bind fun x => (ofEscape? m x.1).map fun tree => (.item tree 0, x.2)
      | '.' => (dot? m).map fun tree => (.item tree 0, rest)
      | '^' => some (.item (lineStart m) 0, rest)
      | '$' => some (.item (lineEnd m) 0, rest)
      | c => some (.item (literal m c) 0, rest)

/-- What becomes of the reader. -/
def State.accept? (s : State) : Token → Option State
  | .opening o => s.enter? o
  | .closing => s.closeGroup?
  | .bar => some { s with frame := s.frame.endChoice }
  | .item tree height => some (s.push ⟨tree, height, false⟩)
  | .repetition min max lazy => s.repeatLast? min max lazy

/-- The characters that do not stand for themselves. -/
def isSign (c : Char) : Bool :=
  ['(', ')', '|', '[', '?', '*', '+', '\x7b', '\\', '.', '^', '$'].contains c

theorem token?_literal (h : isSign c = false) (rest : Text) :
    token? m (c :: rest) = some (.item (literal m c) 0, rest) := by
  dsimp only [token?]
  split
  all_goals first | rfl | cases h

theorem step_eq (s : State) (rest : Text) :
    step s rest =
      (token? s.mode rest).bind fun x => (s.accept? x.1).map fun s' => (s', x.2) := by
  cases rest with
  | nil => rfl
  | cons c rest =>
    dsimp only [step]
    split
    · dsimp only [token?]
      cases readOpening s.mode rest with
      | none => rfl
      | some x =>
        show Option.bind (s.enter? x.1) _ = Option.map _ (s.enter? x.1)
        cases s.enter? x.1 <;> rfl
    · rfl
    · rfl
    · dsimp only [token?]
      cases Bracket.read s.mode rest <;> rfl
    · rfl
    · rfl
    · rfl
    · dsimp only [token?]
      cases readBounds s.mode rest with
      | none => rfl
      | some x =>
        show Option.bind (s.repeatLast? _ _ _) _ = Option.map _ (s.repeatLast? _ _ _)
        cases s.repeatLast? _ _ _ <;> rfl
    · dsimp only [token?]
      cases Escape.read s.mode rest with
      | none => rfl
      | some x =>
        show Option.bind (ofEscape? _ _) _ = Option.bind (Option.map _ (ofEscape? _ _)) _
        cases ofEscape? _ _ <;> rfl
    · dsimp only [token?]
      cases dot? s.mode <;> rfl
    · rfl
    · rfl
    · cases hsign : isSign c with
      | false =>
        rw [token?_literal hsign]
        rfl
      | true => simp_all [isSign]

variable {token : Token}

theorem takes_ofBounds {least : Nat} {most : Option Nat}
    (h : ofBounds least most rest = some (token, rest')) :
    Takes m.verbose l (ofBounds least most) (fun r => some (token, r)) rest rest' := by
  by_cases hlazy : rest.head? = some '?'
  · obtain ⟨tail, rfl⟩ := List.head?_eq_some_iff.mp hlazy
    cases h
    exact .plain (by decide) (.inl (by decide)) (fun _ => rfl) (.nothing fun _ _ => rfl)
  · have hgreedy : ∀ {x : Text}, x.head? ≠ some '?' →
        ofBounds least most x = some (.repetition least most false, x) := by
      intro x hx
      cases x with
      | nil => rfl
      | cons c x =>
        have hc : c ≠ '?' := fun hc => hx (congrArg some hc)
        simp [ofBounds, takeLazy, hc]
    rw [hgreedy hlazy] at h
    cases h
    exact .nothing fun t ht => hgreedy (ht.head?_append hlazy (by decide))

/-- What is taken behind the character that says what the token is. -/
theorem takes_front {g put : Text → Option (Token × Text)} (hslash : c ≠ '\\')
    (hopen : c ≠ '\x7b' ∨ rest.head? ≠ some ':') (hk : ∀ x, token? m (c :: x) = g x)
    (hg : Takes m.verbose l g put rest rest') :
    Takes m.verbose l (token? m) put (c :: rest) rest' ∧ rest'.length < (c :: rest).length :=
  ⟨.plain hslash hopen hk hg, Nat.lt_succ_of_le hg.suffix.length_le⟩

theorem takes_group {o : Opening} (h : readOpening m rest = some (o, rest')) :
    Takes m.verbose l (token? m) (fun r => some (.opening o, r)) ('(' :: rest) rest' ∧
      rest'.length < ('(' :: rest).length := by
  refine takes_front (by decide) (.inl (by decide))
    (g := fun x => (readOpening m x).map fun x => (.opening x.1, x.2)) (fun _ => rfl)
    ((takes_readOpening h).map fun x y hxy => ?_)
  rw [hxy]
  rfl

theorem takes_class {s : Bracket.Part} (h : Bracket.read m rest = some (s, rest')) :
    Takes m.verbose true (token? m) (fun r => some (.item (.leaf (.set s.set)) s.height, r))
        ('[' :: rest) rest' ∧ rest'.length < ('[' :: rest).length := by
  have htakes := Bracket.takes_read h
  refine ⟨.member (by decide)
    (h := fun x => (Bracket.read m x).map fun x => (.item (.leaf (.set x.1.set)) x.1.height, x.2))
    (fun _ => rfl) (htakes.map fun x y hxy => ?_), Nat.lt_succ_of_le htakes.suffix.length_le⟩
  rw [hxy]
  rfl

theorem takes_counted {least : Nat} {most : Option Nat} {after : Text}
    (hbounds : readBounds m rest = some (least, most, after))
    (h : ofBounds least most (m.skip after) = some (token, rest')) :
    Takes m.verbose l (token? m) (fun r => some (token, r)) ('\x7b' :: rest) rest' ∧
      rest'.length < ('\x7b' :: rest).length := by
  refine takes_front (by decide) (.inr (head?_of_readBounds hbounds))
    (g := fun x => (readBounds m x).bind fun x => ofBounds x.1 x.2.1 (m.skip x.2.2))
    (fun _ => rfl) ?_
  refine (takes_readBounds hbounds).trans (h := fun y => ofBounds least most (m.skip y))
    (fun x y hxy => ?_) (.skip (fun _ => rfl) (takes_ofBounds h))
  rw [hxy]
  rfl

theorem takes_escape {e : Escape} {tree : Tree} (he : Escape.read m rest = some (e, rest'))
    (htree : ofEscape? m e = some tree) :
    Takes m.verbose l (token? m) (fun r => some (.item tree 0, r)) ('\\' :: rest) rest' ∧
      rest'.length < ('\\' :: rest).length := by
  obtain ⟨d, tail, rfl, htakes⟩ := Escape.takes_read (l := l) he
  refine ⟨.escaped (h := fun x => (Escape.read m (d :: x)).bind fun x =>
    (ofEscape? m x.1).map fun tree => (.item tree 0, x.2)) (fun _ => rfl)
    (htakes.map fun x y hxy => ?_), ?_⟩
  · rw [hxy]
    simp [htree]
  · exact Nat.lt_succ_of_le (Nat.le_succ_of_le htakes.suffix.length_le)

/-- A token crosses its text, in which the beginning of a reference may stand only if the token
is a class in brackets. -/
theorem takes_token? (h : token? m rest = some (token, rest')) :
    Takes m.verbose (rest.head? = some '[') (token? m) (fun r => some (token, r)) rest rest' ∧
      rest'.length < rest.length := by
  cases rest with
  | nil => cases h
  | cons c rest =>
    cases hsign : isSign c with
    | false =>
      have hne : ∀ d, isSign d = true → c ≠ d := by
        rintro d hd rfl
        exact Bool.false_ne_true (hsign.symm.trans hd)
      rw [token?_literal hsign] at h
      cases h
      exact takes_front (hne _ (by decide)) (.inl (hne _ (by decide))) (token?_literal hsign)
        (.nothing fun _ _ => rfl)
    | true =>
    dsimp only [token?] at h
    split at h
    · obtain ⟨⟨o, after⟩, ho, hx⟩ := Option.map_eq_some_iff.mp h
      cases hx
      exact takes_group ho
    case h_4 =>
      obtain ⟨⟨s, after⟩, hs, hx⟩ := Option.map_eq_some_iff.mp h
      cases hx
      exact takes_class hs
    case h_5 | h_6 | h_7 =>
      exact takes_front (by decide) (.inl (by decide)) (fun _ => rfl) (takes_ofBounds h)
    case h_8 =>
      obtain ⟨⟨least, most, after⟩, hbounds, hx⟩ := Option.bind_eq_some_iff.mp h
      exact takes_counted hbounds hx
    case h_9 =>
      obtain ⟨⟨e, after⟩, he, hx⟩ := Option.bind_eq_some_iff.mp h
      obtain ⟨tree, htree, hx⟩ := Option.map_eq_some_iff.mp hx
      cases hx
      exact takes_escape he htree
    case h_10 =>
      obtain ⟨tree, htree, hx⟩ := Option.map_eq_some_iff.mp h
      cases hx
      exact takes_front (by decide) (.inl (by decide)) (fun _ => rfl)
        (.nothing fun _ _ => Option.map_eq_some_iff.mpr ⟨tree, htree, rfl⟩)
    case h_13 => simp_all [isSign]
    all_goals
      cases h
      exact takes_front (by decide) (.inl (by decide)) (fun _ => rfl) (.nothing fun _ _ => rfl)

end Parser

end TableLexer.Regex
