import TableLexer.Proofs.Regex.Escapes
import TableLexer.Regex.Bracket

/-!
# What a class in brackets takes

In a class any character may stand, also what begins a reference, so of the text of a class
only the backslashes count. A closing parenthesis behind the class is not seen: the reader
looks further than the character at hand only for a second dash or a closing bracket, and a
class has to be closed.

Result: `Bracket.takes_read`.
-/

namespace TableLexer.Regex

/-- Text without a backslash is crossed in a class. -/
theorem Crosses.of_notMem {v : Bool} {front : Text} (h : '\\' ∉ front) (p : Text) :
    Crosses v true (front ++ p) p := by
  induction front with
  | nil => exact .refl p
  | cons c front ih =>
    obtain ⟨hc, hfront⟩ := not_or.mp (mt List.mem_cons.mpr h)
    exact .plain (Ne.symm hc) (.inl rfl) (ih hfront)

namespace Mode

variable {m : Mode} {rest : Text} {c : Char}

theorem peekIgnored_append {comment : Bool} (h : peekIgnored comment rest = some c) (t : Text) :
    peekIgnored comment (rest ++ t) = some c := by
  fun_induction peekIgnored comment rest with
  | case1 => cases h
  | case2 comment d rest hblank ih =>
    rw [List.cons_append, peekIgnored, if_pos hblank]
    exact ih h
  | case3 comment d rest hblank hhash ih =>
    rw [List.cons_append, peekIgnored, if_neg hblank, if_pos hhash]
    exact ih h
  | case4 comment d rest hblank hhash =>
    rw [List.cons_append, peekIgnored, if_neg hblank, if_neg hhash]
    exact h

theorem dropIgnored_of_blank (h : ∀ c ∈ rest, isBlank c = true) (comment : Bool) :
    dropIgnored comment rest = [] := by
  induction rest generalizing comment with
  | nil => cases comment <;> rfl
  | cons c rest ih =>
    obtain ⟨hc, hrest⟩ := List.forall_mem_cons.mp h
    cases comment with
    | true => exact ih hrest _
    | false => simp [dropIgnored, hc, ih hrest]

theorem blank_of_peekIgnored (h : peekIgnored true rest = none) :
    ∀ c ∈ rest, isBlank c = true := by
  induction rest with
  | nil => exact fun _ hc => absurd hc List.not_mem_nil
  | cons c rest ih =>
    rw [peekIgnored] at h
    split at h
    · next hc => exact List.forall_mem_cons.mpr ⟨hc, ih h⟩
    · cases h

/-- Where nothing is found to look at, nothing is left. -/
theorem dropIgnored_of_peekIgnored (h : peekIgnored false rest = none) :
    dropIgnored false rest = [] := by
  induction rest with
  | nil => rfl
  | cons c rest ih =>
    rw [peekIgnored] at h
    split at h
    · next hc => simp [dropIgnored, hc, ih h]
    · next hc =>
      split at h
      · next hhash =>
        have hhash : c = '#' := by simpa using hhash
        simp [dropIgnored, hhash, dropIgnored_of_blank (blank_of_peekIgnored h)]
      · cases h

/-- More text behind does not change what follows next, if anything is left or a character has
been found that is neither white space nor begins a comment. -/
theorem peek_append (h : m.skip rest ≠ [] ∨ ∃ c, m.peek rest = some c ∧ isBlank c = false ∧ c ≠ '#')
    (t : Text) : m.peek (rest ++ t) = m.peek rest := by
  cases hv : m.verbose with
  | false =>
    cases rest with
    | nil => simp [skip, peek, hv] at h
    | cons d rest => simp [peek, hv]
  | true =>
    cases hpeek : peekIgnored false rest with
    | some d => simp [peek, hv, hpeek, peekIgnored_append hpeek t]
    | none =>
      rcases h with h | ⟨c, hc, hblank, hhash⟩
      · exact absurd (dropIgnored_of_peekIgnored hpeek) (by simpa [skip, hv] using h)
      · cases rest with
        | nil => simp [peek, hv, peekIgnored] at hc
        | cons d rest =>
          obtain rfl : d = c := by simpa [peek, hv, hpeek] using hc
          simp [peekIgnored, hblank, hhash] at hpeek

end Mode

namespace Bracket

variable {m : Mode} {rest rest' : Text} {c : Char}

/-! ## Items and ranges -/

theorem takes_readItem {e : Escape} (h : readItem m rest = some (e, rest')) :
    Takes m.verbose true (readItem m) (fun r => some (e, r)) rest rest' := by
  unfold readItem at h
  split at h
  · cases h
  · obtain ⟨c, after, rfl, htakes⟩ := Escape.takes_read (l := true) h
    exact .escaped (fun _ => rfl) htakes
  · next c rest hc =>
    cases h
    refine .member hc (h := fun r => some (.char c false, r)) (fun x => ?_)
      (.nothing fun _ _ => rfl)
    rw [readItem]
    exact hc

theorem length_lt_of_readItem {e : Escape} (h : readItem m rest = some (e, rest')) :
    rest'.length < rest.length := by
  unfold readItem at h
  split at h
  · cases h
  · obtain ⟨c, after, rfl, htakes⟩ := Escape.takes_read (l := true) h
    have hle : rest'.length ≤ after.length := htakes.suffix.length_le
    simp only [List.length_cons]
    omega
  · cases h
    exact Nat.lt_succ_self _

/-- An item as a member by itself. -/
def single (m : Mode) : Escape → Option CharSet
  | .char c _ => if memberAllowed m c then some (CharSet.singleton c) else none
  | .set s => some s
  | .look _ => none

/-- A dash in front of the text does not make a range. -/
def endsItem (m : Mode) (rest : Text) : Bool := m.peek rest = some ']' || m.peek rest = some '-'

/-- The range between two items. -/
def between (m : Mode) : Escape → Escape → Option Part
  | .char lo _, .char hi _ =>
      if lo ≤ hi && memberAllowed m lo && memberAllowed m hi then some ⟨.range lo.toNat hi.toNat, 0⟩
      else none
  | _, _ => none

/-- What follows the first item of a possible range. -/
def endRange (m : Mode) (first : Escape) : Text → Option (Part × Text)
  | [] => none
  | '-' :: after =>
      if endsItem m after then (single m first).map fun s => (⟨s, 0⟩, '-' :: after)
      else (readItem m (m.skip after)).bind fun x => (between m first x.1).map fun part => (part, x.2)
  | rest => (single m first).map fun s => (⟨s, 0⟩, rest)

theorem endRange_other {first : Escape} (hc : c ≠ '-') :
    endRange m first (c :: rest) = (single m first).map fun s => (⟨s, 0⟩, c :: rest) := by
  rw [endRange]
  · exact nofun
  · exact fun _ h => hc (List.cons.inj h).1

theorem readRange_eq (m : Mode) (rest : Text) :
    readRange m rest = (readItem m rest).bind fun x => endRange m x.1 (m.skip x.2) := by
  unfold readRange
  show (readItem m rest).bind _ = _
  congr 1
  funext ⟨first, after⟩
  dsimp only
  cases m.skip after with
  | nil => rfl
  | cons c tail =>
    by_cases hc : c = '-'
    · subst hc
      simp only [endRange, endsItem, single]
      congr 1
      show (readItem m (m.skip tail)).bind _ = _
      congr 1
      funext ⟨last, r⟩
      cases first <;> cases last <;> simp only [between] <;> try rfl
      split <;> rfl
    · rw [endRange_other hc]
      split
      · next hnil => cases hnil
      · next hdash => exact absurd (List.cons.inj hdash).1 hc
      · rfl

theorem endsItem_append (h : endsItem m rest = true ∨ m.skip rest ≠ []) (t : Text) :
    endsItem m (rest ++ t) = endsItem m rest := by
  have hpeek : m.peek (rest ++ t) = m.peek rest := by
    refine Mode.peek_append (h.symm.imp_right fun hends => ?_) t
    rcases (Bool.or_eq_true _ _).mp hends with hc | hc
    · exact ⟨']', of_decide_eq_true hc, Unicode.isBlank_graphic (by decide), by decide⟩
    · exact ⟨'-', of_decide_eq_true hc, Unicode.isBlank_graphic (by decide), by decide⟩
  rw [endsItem, hpeek, endsItem]

/-- The rest of a range. What follows its dash is looked at only once. -/
theorem takes_endRange {first : Escape} {part : Part}
    (h : endRange m first rest = some (part, rest')) :
    Takes m.verbose true (endRange m first) (fun r => some (part, r)) rest rest' := by
  unfold endRange at h
  split at h
  · cases h
  · next after =>
    split at h
    · next hends =>
      obtain ⟨s, hs, hpart⟩ := Option.map_eq_some_iff.mp h
      cases hpart
      refine .nothing fun t _ => ?_
      rw [List.cons_append, endRange, if_pos ((endsItem_append (.inl hends) t).trans hends), hs]
      rfl
    · next hends =>
      obtain ⟨⟨last, r⟩, hlast, hbetween⟩ := Option.bind_eq_some_iff.mp h
      obtain ⟨part, hpart, hr⟩ := Option.map_eq_some_iff.mp hbetween
      cases hr
      have hskip : m.skip after ≠ [] := by
        intro hnil
        rw [hnil] at hlast
        cases hlast
      refine .congr (j := fun x => (readItem m (m.skip x.tail)).bind fun x =>
        (between m first x.1).map fun part => (part, x.2)) (fun t _ => ?_) ?_
      · rw [List.cons_append, endRange, endsItem_append (.inr hskip), if_neg hends]
        rfl
      · refine .member (by decide) (fun _ => rfl) (.skip (h := fun x => (readItem m x).bind fun x =>
          (between m first x.1).map fun part => (part, x.2)) (fun _ => rfl) ?_)
        refine (takes_readItem hlast).map fun x y hxy => ?_
        simp [hxy, hpart]
  · next hnil hdash =>
    obtain ⟨s, hs, hpart⟩ := Option.map_eq_some_iff.mp h
    cases hpart
    refine .nothing fun t _ => ?_
    cases rest with
    | nil => exact absurd rfl hnil
    | cons c rest =>
      have hc : c ≠ '-' := fun hc => hdash rest (hc ▸ rfl)
      rw [List.cons_append, endRange_other hc, hs]
      rfl

theorem takes_readRange {part : Part} (h : readRange m rest = some (part, rest')) :
    Takes m.verbose true (readRange m) (fun r => some (part, r)) rest rest' := by
  rw [readRange_eq] at h
  obtain ⟨⟨first, r⟩, hfirst, hend⟩ := Option.bind_eq_some_iff.mp h
  refine (takes_readItem hfirst).trans (h := fun r => endRange m first (m.skip r))
    (fun x y hxy => ?_) (.skip (fun _ => rfl) (takes_endRange hend))
  rw [readRange_eq, hxy]
  rfl

theorem length_lt_of_readRange {part : Part} (h : readRange m rest = some (part, rest')) :
    rest'.length < rest.length := by
  rw [readRange_eq] at h
  obtain ⟨⟨first, r⟩, hfirst, hend⟩ := Option.bind_eq_some_iff.mp h
  have hle : rest'.length ≤ (m.skip r).length := (takes_endRange hend).suffix.length_le
  have hskip := m.length_skip_le r
  have hlt := length_lt_of_readItem hfirst
  omega

/-! ## Classes between colons -/

/-- A class between colons behind its opening bracket, up to its closing one. -/
def posixText (negated : Bool) (name : Text) : Text :=
  ':' :: ((if negated then ['^'] else []) ++ (name ++ [':', ']']))

theorem letters_of_lookup {name : Text} {s : String}
    (h : posixClasses.lookup (String.ofList name) = some s) : ∀ c ∈ name, c.isAlpha = true := by
  have htable : ∀ entry ∈ posixClasses, entry.1.toList.all Char.isAlpha = true := by decide
  obtain ⟨before, after, htext, -⟩ := List.lookup_eq_some_iff.mp h
  have hmem : (String.ofList name, s) ∈ posixClasses := htext ▸ by simp
  have hall := htable _ hmem
  rw [String.toList_ofList] at hall
  exact List.all_eq_true.mp hall

/-- A name up to its colon and the closing bracket. -/
def posixName (negated : Bool) (rest : Text) : Option (CharSet × Bool × Text) :=
  match rest.dropWhile (· ≠ ':') with
  | ':' :: ']' :: after =>
      (posixClasses.lookup (String.ofList (rest.takeWhile (· ≠ ':')))).map fun s =>
        (.ofHex s, negated, after)
  | _ => none

theorem readPosix?_name (h : rest.head? ≠ some '^') :
    readPosix? (':' :: rest) = posixName false rest := by
  cases rest with
  | nil => rfl
  | cons c rest =>
    have hc : c ≠ '^' := fun hc => h (congrArg some hc)
    have hpair : ∀ x : Bool × Text, x = (false, c :: rest) →
        posixName x.1 x.2 = posixName false (c :: rest) := by
      rintro x rfl
      rfl
    refine hpair _ ?_
    split
    · next hcaret =>
      cases hcaret
      exact absurd rfl hc
    · rfl

theorem posixName_eq {negated : Bool} {name : Text} {s : String}
    (h : posixClasses.lookup (String.ofList name) = some s) (rest : Text) :
    posixName negated (name ++ ':' :: ']' :: rest) = some (.ofHex s, negated, rest) := by
  have hcolon : ∀ c ∈ name, decide (c ≠ ':') = true := by
    intro c hc
    refine decide_eq_true ?_
    rintro rfl
    exact absurd (letters_of_lookup h _ hc) (by decide)
  have htake : (name ++ ':' :: ']' :: rest).takeWhile (· ≠ ':') = name := by
    rw [List.takeWhile_append_of_pos hcolon]
    exact List.append_nil name
  have hdrop : (name ++ ':' :: ']' :: rest).dropWhile (· ≠ ':') = ':' :: ']' :: rest := by
    rw [List.dropWhile_append_of_pos hcolon]
    rfl
  rw [posixName, hdrop, htake, h]
  rfl

theorem posixName_eq_some {negated negated' : Bool} {set : CharSet}
    (h : posixName negated rest = some (set, negated', rest')) :
    negated' = negated ∧ ∃ name s, posixClasses.lookup (String.ofList name) = some s ∧
      set = .ofHex s ∧ rest = name ++ ':' :: ']' :: rest' := by
  unfold posixName at h
  split at h
  · next after hdrop =>
    obtain ⟨s, hs, hpair⟩ := Option.map_eq_some_iff.mp h
    cases hpair
    refine ⟨rfl, _, s, hs, rfl, ?_⟩
    rw [← hdrop, List.takeWhile_append_dropWhile]
  · cases h

theorem readPosix?_text {name : Text} {s : String} (negated : Bool)
    (h : posixClasses.lookup (String.ofList name) = some s) (rest : Text) :
    readPosix? (posixText negated name ++ rest) = some (.ofHex s, negated, rest) := by
  have htext : ∀ front : Text, ':' :: (front ++ (name ++ [':', ']'])) ++ rest
      = ':' :: (front ++ (name ++ ':' :: ']' :: rest)) := by simp
  rw [posixText, htext]
  cases negated with
  | true => exact posixName_eq h rest
  | false =>
    refine (readPosix?_name ?_).trans (posixName_eq h rest)
    cases name with
    | nil => simp
    | cons c name =>
      rintro hhead
      cases Option.some.inj hhead
      exact absurd (letters_of_lookup h _ List.mem_cons_self) (by decide)

theorem readPosix?_eq_some {negated : Bool} {set : CharSet}
    (h : readPosix? rest = some (set, negated, rest')) :
    ∃ name s, posixClasses.lookup (String.ofList name) = some s ∧ set = .ofHex s ∧
      rest = posixText negated name ++ rest' := by
  match rest with
  | [] => cases h
  | c :: tail =>
    by_cases hc : c = ':'
    · subst hc
      by_cases hcaret : tail.head? = some '^'
      · obtain ⟨tail, rfl⟩ := List.head?_eq_some_iff.mp hcaret
        obtain ⟨rfl, name, s, hs, hset, rfl⟩ := posixName_eq_some h
        exact ⟨name, s, hs, hset, by simp [posixText]⟩
      · rw [readPosix?_name hcaret] at h
        obtain ⟨rfl, name, s, hs, hset, rfl⟩ := posixName_eq_some h
        exact ⟨name, s, hs, hset, by simp [posixText]⟩
    · unfold readPosix? at h
      split at h
      · next heq => exact absurd (List.cons.inj heq).1 hc
      · cases h

theorem takes_readPosix? {negated : Bool} {set : CharSet}
    (h : readPosix? rest = some (set, negated, rest')) :
    Takes m.verbose true readPosix? (fun r => some (set, negated, r)) rest rest' := by
  obtain ⟨name, s, hs, rfl, rfl⟩ := readPosix?_eq_some h
  refine .behind_of_front _ (readPosix?_text negated hs) (.nothing fun _ _ => rfl) (.of_notMem ?_ rest')
  have hname : '\\' ∉ name := fun hmem => absurd (letters_of_lookup hs _ hmem) (by decide)
  cases negated <;> simp [posixText, hname]

/-- What is not a class between colons does not become one. -/
theorem readPosix?_append_eq_none (h : readPosix? rest = none) {t : Text} (ht : Closes t) :
    readPosix? (rest ++ t) = none := by
  match hread : readPosix? (rest ++ t) with
  | none => rfl
  | some (set, negated, after) =>
    obtain ⟨name, s, hs, rfl, htext⟩ := readPosix?_eq_some hread
    rcases List.append_eq_append_iff.mp htext with ⟨more, hfront, hmore⟩ | ⟨more, hfront, -⟩
    · cases more with
      | nil =>
        rw [List.append_nil] at hfront
        have h' := readPosix?_text negated hs []
        rw [List.append_nil, hfront, h] at h'
        cases h'
      | cons c more =>
        obtain rfl : c = ')' := ht c (by rw [hmore]; rfl)
        have hmem : ')' ∈ posixText negated name := by simp [hfront]
        have hname : ')' ∉ name := fun hin => absurd (letters_of_lookup hs _ hin) (by decide)
        cases negated <;> simp [posixText, hname] at hmem
    · rw [hfront, readPosix?_text negated hs] at h
      cases h

/-! ## The beginning of a class -/

variable {f f' : Frame}

theorem readDashes_fuel {fuel fuel' : Nat} (h : rest.length ≤ fuel) (h' : rest.length ≤ fuel') :
    readDashes m fuel f rest = readDashes m fuel' f rest := by
  refine eq_of_bounded (fun fuel x => readDashes m fuel x.1 x.2) (fun x => x.2.length) ?_ ?_
    (x := (f, rest)) h h'
  · rintro fuel ⟨f, rest⟩ hdone
    obtain rfl := List.eq_nil_of_length_eq_zero hdone
    cases fuel <;> rfl
  · rintro fuel fuel' ⟨f, _ | ⟨c, rest⟩⟩ ih
    · rfl
    · by_cases hc : c = '-'
      · subst hc
        exact ih (_, m.skip rest) (Nat.lt_succ_of_le (m.length_skip_le rest))
      · simp [readDashes, hc]

/-- The dashes in front of a list, without a bound. -/
def dashRun (m : Mode) (f : Frame) (rest : Text) : Frame × Text := readDashes m rest.length f rest

theorem dashRun_dash (f : Frame) (rest : Text) :
    dashRun m f ('-' :: rest) = dashRun m (f.push ⟨.singleton '-', 0⟩) (m.skip rest) :=
  readDashes_fuel (m.length_skip_le rest) (Nat.le_refl _)

theorem dashRun_other (f : Frame) (rest : Text) (hc : c ≠ '-') :
    dashRun m f (c :: rest) = (f, c :: rest) := by
  simp [dashRun, readDashes, hc]

theorem takes_dashRun (h : dashRun m f rest = (f', rest')) :
    Takes m.verbose true (dashRun m f) (fun r => (f', r)) rest rest' := by
  have hin : ∀ f c rest, (c == '-') = true →
      dashRun m f (c :: rest) = dashRun m (f.push ⟨.singleton '-', 0⟩) (m.skip rest) := by
    intro f c rest hc
    rw [beq_iff_eq.mp hc, dashRun_dash]
  have hout : ∀ f c rest, (c == '-') = false → dashRun m f (c :: rest) = (f, c :: rest) :=
    fun f c rest hc => dashRun_other f rest (beq_eq_false_iff_ne.mp hc)
  have hdash : ∀ c, (c == '-') = true → c ≠ '\\' ∧ c ≠ '\x7b' := by
    intro c hc
    rw [beq_iff_eq.mp hc]
    decide
  exact takes_run (dashRun m) hdash (by decide) (fun _ => rfl) hin hout h

/-- The frame with a closing bracket as a member, if anything follows. -/
def pushBracket (f : Frame) : Text → Option (Frame × Text)
  | [] => none
  | rest => some (f.push ⟨.singleton ']', 0⟩, rest)

/-- What follows the dashes in front of a list. -/
def afterDashes (m : Mode) : Frame × Text → Option (Frame × Text)
  | (_, []) => none
  | (f, ']' :: rest) =>
      if f.parts.isEmpty then pushBracket f (m.skip rest) else some (f, ']' :: rest)
  | opened => some opened

/-- The beginning of a class, known to be negated or not. -/
def openList (m : Mode) (negated : Bool) (rest : Text) : Option (Frame × Text) :=
  afterDashes m (dashRun m ⟨negated, [], none⟩ rest)

theorem takes_afterDashes (h : afterDashes m (f, rest) = some (f', rest')) :
    Takes m.verbose true (fun x => afterDashes m (f, x)) (fun r => some (f', r)) rest rest' := by
  match rest with
  | [] => cases h
  | c :: rest =>
    by_cases hc : c = ']'
    · subst hc
      rw [afterDashes] at h
      split at h
      · next hempty =>
        refine .member (by decide) (h := fun x => pushBracket f (m.skip x)) (fun x => ?_)
          (.skip (h := pushBracket f) (fun _ => rfl) ?_)
        · rw [afterDashes, if_pos hempty]
        · cases hskip : m.skip rest with
          | nil =>
            rw [hskip] at h
            cases h
          | cons d tail =>
            rw [hskip] at h
            cases h
            exact .nothing fun t _ => rfl
      · next hempty =>
        cases h
        exact .nothing fun t _ => by rw [List.cons_append, afterDashes, if_neg hempty]
    · have hother : ∀ x, afterDashes m (f, c :: x) = some (f, c :: x) := by
        intro x
        simp [afterDashes, hc]
      rw [hother] at h
      cases h
      exact .nothing fun t _ => hother _

theorem takes_openList {negated : Bool} (h : openList m negated rest = some (f, rest')) :
    Takes m.verbose true (openList m negated) (fun r => some (f, r)) rest rest' :=
  (takes_dashRun rfl).trans (fun _ _ hxy => congrArg (afterDashes m) hxy) (takes_afterDashes h)

theorem readOpening_skip (m : Mode) (rest : Text) :
    readOpening m rest = readOpening m (m.skip rest) := by
  rw [readOpening, readOpening, m.skip_skip]

theorem afterDashes_eq (m : Mode) (x : Frame × Text) :
    afterDashes m x = match x with
      | (_, []) => none
      | (f, ']' :: rest) =>
          if f.parts.isEmpty then
            match m.skip rest with
            | [] => none
            | rest => some (f.push ⟨.singleton ']', 0⟩, rest)
          else some (f, ']' :: rest)
      | opened => some opened := by
  match x with
  | (f, []) => rfl
  | (f, c :: rest) =>
    by_cases hc : c = ']'
    · subst hc
      dsimp only [afterDashes]
      cases m.skip rest <;> rfl
    · simp [afterDashes, hc]

theorem readOpening_caret (rest : Text) :
    readOpening m ('^' :: rest) = openList m true (m.skip rest) := by
  rw [readOpening, m.skip_graphic (by decide)]
  exact (afterDashes_eq m _).symm

theorem readOpening_list (hskip : m.skip rest = rest) (h : rest.head? ≠ some '^') :
    readOpening m rest = openList m false rest := by
  rw [readOpening, hskip]
  split
  next negated x hx =>
  split at hx
  · exact absurd rfl h
  · cases hx
    exact (afterDashes_eq m _).symm

theorem takes_readOpening (h : readOpening m rest = some (f, rest')) :
    Takes m.verbose true (readOpening m) (fun r => some (f, r)) rest rest' := by
  refine .skip (readOpening_skip m) ?_
  rw [readOpening_skip] at h
  by_cases hcaret : (m.skip rest).head? = some '^'
  · obtain ⟨after, hafter⟩ := List.head?_eq_some_iff.mp hcaret
    rw [hafter] at h ⊢
    rw [readOpening_caret] at h
    exact .member (by decide) readOpening_caret (.skip (fun _ => rfl) (takes_openList h))
  · rw [readOpening_list m.skip_skip hcaret] at h
    exact (takes_openList h).congr fun t ht =>
      readOpening_list (m.skip_skip_append ht) (ht.head?_append hcaret (by decide))

/-! ## Lists -/

variable {outer : List Frame}

/-- What one step makes of the open brackets: the class, at the last closing one, or the
innermost bracket with those around it. -/
abbrev Outcome := Part ⊕ Frame × List Frame

/-- A class that has been closed, as a part of the bracket around it if there is one. -/
def closeInto (part : Part) : List Frame → Outcome
  | [] => .inl part
  | parent :: outer => .inr (parent.push part, outer)

/-- One step behind an opening bracket. -/
def enter (m : Mode) (f : Frame) (outer : List Frame) (after : Text) : Option (Outcome × Text) :=
  match readPosix? after with
  | some (s, negated, rest) =>
      (m.negate? negated (m.fold s)).map fun s => (.inr (f.push ⟨s, 0⟩, outer), rest)
  | none => (readOpening m after).map fun x => (.inr (x.1, f :: outer), x.2)

/-- One step, from a place where nothing is to be skipped. -/
def next (m : Mode) (f : Frame) (outer : List Frame) : Text → Option (Outcome × Text)
  | [] => none
  | '[' :: after => enter m f outer after
  | ']' :: rest => (f.close? m).map fun part => (closeInto part outer, rest)
  | '&' :: '&' :: rest => some (.inr (f.operator m .inter, outer), rest)
  | '-' :: '-' :: rest => some (.inr (f.operator m .diff, outer), rest)
  | '~' :: '~' :: rest => some (.inr (f.operator m .symmDiff, outer), rest)
  | rest => (readRange m rest).map fun x => (.inr (f.push x.1, outer), x.2)

theorem next_open (after : Text) : next m f outer ('[' :: after) = enter m f outer after := rfl

theorem next_close (rest : Text) :
    next m f outer (']' :: rest) = (f.close? m).map fun part => (closeInto part outer, rest) :=
  rfl

/-- What is done after a step. -/
def resume (m : Mode) (fuel : Nat) : Outcome × Text → Option (Part × Text)
  | (.inl part, rest) => some (part, rest)
  | (.inr (f, outer), rest) => readRest m fuel f outer rest

theorem readRest_succ (m : Mode) (fuel : Nat) (f : Frame) (outer : List Frame) (rest : Text) :
    readRest m (fuel + 1) f outer rest = (next m f outer (m.skip rest)).bind (resume m fuel) := by
  unfold readRest
  generalize m.skip rest = x
  split
  · rfl
  · next after =>
    rw [next_open, enter]
    cases readPosix? after with
    | none =>
      dsimp only
      cases readOpening m after <;> rfl
    | some x =>
      obtain ⟨s, negated, rest⟩ := x
      dsimp only
      cases m.negate? negated (m.fold s) <;> rfl
  · rw [next_close]
    cases f.close? m <;> cases outer <;> rfl
  · rfl
  · rfl
  · rfl
  · rw [next]
    · cases readRange m x <;> rfl
    all_goals assumption

variable {o : Outcome}

theorem takes_enter (h : enter m f outer rest = some (o, rest')) :
    Takes m.verbose true (enter m f outer) (fun r => some (o, r)) rest rest' := by
  cases hposix : readPosix? rest with
  | some x =>
    obtain ⟨s, negated, after⟩ := x
    rw [enter, hposix] at h
    obtain ⟨s', hs', ho⟩ := Option.map_eq_some_iff.mp h
    cases ho
    refine (takes_readPosix? hposix).map fun x y hxy => ?_
    simp only [enter, hxy, hs']
    rfl
  | none =>
    rw [enter, hposix] at h
    obtain ⟨⟨inner, after⟩, hinner, ho⟩ := Option.map_eq_some_iff.mp h
    cases ho
    refine .congr (j := fun x => (readOpening m x).map fun x => (.inr (x.1, f :: outer), x.2))
      (fun t ht => ?_) ((takes_readOpening hinner).map fun x y hxy => ?_)
    · rw [enter, readPosix?_append_eq_none hposix ht]
    · rw [hxy]
      rfl

/-- An operator stands in front. -/
def StartsOperator (rest : Text) : Prop := ∃ c ∈ ['&', '-', '~'], [c, c] <+: rest

theorem StartsOperator.of_append {t : Text} (ht : Closes t) (h : StartsOperator (rest ++ t)) :
    StartsOperator rest := by
  obtain ⟨c, hc, hcc⟩ := h
  refine ⟨c, hc, ?_⟩
  have hne : c ≠ ')' := by
    rintro rfl
    exact absurd hc (by decide)
  match rest with
  | [] =>
    obtain ⟨more, hmore⟩ := hcc
    exact absurd (ht c (by rw [show t = c :: c :: more from hmore.symm]; rfl)) hne
  | [d] =>
    obtain ⟨more, hmore⟩ := hcc
    obtain ⟨-, hmore⟩ := List.cons.inj hmore
    exact absurd (ht c (by rw [show t = c :: more from hmore.symm]; rfl)) hne
  | d :: e :: rest =>
    obtain ⟨more, hmore⟩ := hcc
    obtain ⟨hd, hmore⟩ := List.cons.inj hmore
    obtain ⟨he, -⟩ := List.cons.inj hmore
    exact ⟨rest, by rw [← hd, ← he]; rfl⟩

theorem next_range (hopen : c ≠ '[') (hclose : c ≠ ']') (hop : ¬ StartsOperator (c :: rest)) :
    next m f outer (c :: rest) =
      (readRange m (c :: rest)).map fun x => (.inr (f.push x.1, outer), x.2) := by
  have hne : ∀ d ∈ ['&', '-', '~'], ∀ more, c :: rest = d :: d :: more → False :=
    fun d hd more heq => hop ⟨d, hd, more, heq.symm⟩
  rw [next]
  · exact nofun
  · exact fun _ h => hopen (List.cons.inj h).1
  · exact fun _ h => hclose (List.cons.inj h).1
  · exact hne '&' (by simp)
  · exact hne '-' (by simp)
  · exact hne '~' (by simp)

/-- A step crosses what it reads, which is at least one character. -/
theorem takes_next (h : next m f outer rest = some (o, rest')) :
    Takes m.verbose true (next m f outer) (fun r => some (o, r)) rest rest' ∧
      rest'.length < rest.length := by
  cases rest with
  | nil => cases h
  | cons c rest =>
    by_cases hopen : c = '['
    · subst hopen
      have htakes := takes_enter h
      exact ⟨.member (by decide) next_open htakes, Nat.lt_succ_of_le htakes.suffix.length_le⟩
    by_cases hclose : c = ']'
    · subst hclose
      obtain ⟨part, hpart, ho⟩ := Option.map_eq_some_iff.mp h
      cases ho
      refine ⟨.member (by decide) (h := fun r => some (closeInto part outer, r)) (fun x => ?_)
        (.nothing fun _ _ => rfl), Nat.lt_succ_self _⟩
      rw [next_close, hpart]
      rfl
    by_cases hop : StartsOperator (c :: rest)
    · obtain ⟨d, hd, more, heq⟩ := hop
      obtain ⟨rfl, rfl⟩ := List.cons.inj heq
      have hslash : '\\' ∉ [d, d] := by
        intro hmem
        simp only [List.mem_cons, List.not_mem_nil, or_false, or_self] at hmem hd
        rcases hd with rfl | rfl | rfl <;> cases hmem
      have hstep : ∃ f', ∀ x, next m f outer ([d, d] ++ x) = some (.inr (f', outer), x) := by
        simp only [List.mem_cons, List.not_mem_nil, or_false] at hd
        rcases hd with rfl | rfl | rfl <;> exact ⟨_, fun _ => rfl⟩
      obtain ⟨f', hstep⟩ := hstep
      cases (hstep more).symm.trans h
      exact ⟨.behind_of_front [d, d] hstep (.nothing fun _ _ => rfl)
        (.of_notMem hslash _), Nat.lt_add_of_pos_right (k := 2) (by decide)⟩
    · rw [next_range hopen hclose hop] at h
      obtain ⟨⟨part, r⟩, hpart, ho⟩ := Option.map_eq_some_iff.mp h
      cases ho
      refine ⟨.congr (j := fun x => (readRange m x).map fun x => (.inr (f.push x.1, outer), x.2))
        (fun t ht => next_range hopen hclose fun h => hop (.of_append ht h))
        ((takes_readRange hpart).map fun x y hxy => ?_), length_lt_of_readRange hpart⟩
      rw [hxy]
      rfl

theorem readRest_fuel {fuel fuel' : Nat} (h : rest.length < fuel) (h' : rest.length < fuel') :
    readRest m fuel f outer rest = readRest m fuel' f outer rest := by
  refine eq_of_bounded (fun fuel x => readRest m fuel x.1 x.2.1 x.2.2) (fun x => x.2.2.length + 1)
    (fun _ _ h => absurd h (Nat.succ_ne_zero _)) ?_ (x := (f, outer, rest)) h h'
  rintro fuel fuel' ⟨f, outer, rest⟩ ih
  simp only [readRest_succ]
  cases hnext : next m f outer (m.skip rest) with
  | none => rfl
  | some x =>
    match x with
    | (.inl part, after) => rfl
    | (.inr (f', outer'), after) =>
      exact ih (f', outer', after)
        (Nat.succ_lt_succ (Nat.lt_of_lt_of_le (takes_next hnext).2 (m.length_skip_le rest)))

/-- The rest of a class, without a bound. -/
def listRun (m : Mode) (f : Frame) (outer : List Frame) (rest : Text) : Option (Part × Text) :=
  readRest m (rest.length + 1) f outer rest

/-- What is done after a step, without a bound. -/
def resumeRun (m : Mode) : Outcome × Text → Option (Part × Text)
  | (.inl part, rest) => some (part, rest)
  | (.inr (f, outer), rest) => listRun m f outer rest

theorem listRun_eq (m : Mode) (f : Frame) (outer : List Frame) (rest : Text) :
    listRun m f outer rest = (next m f outer (m.skip rest)).bind (resumeRun m) := by
  rw [listRun, readRest_succ]
  cases hnext : next m f outer (m.skip rest) with
  | none => rfl
  | some x =>
    match x with
    | (.inl part, after) => rfl
    | (.inr (f', outer'), after) =>
      have hlt := (takes_next hnext).2
      have hle := m.length_skip_le rest
      exact readRest_fuel (by omega) (Nat.lt_succ_self _)

theorem takes_listRun {part : Part} (h : listRun m f outer rest = some (part, rest')) :
    Takes m.verbose true (listRun m f outer) (fun r => some (part, r)) rest rest' := by
  induction hlen : rest.length using Nat.strongRecOn generalizing rest f outer with
  | _ length ih =>
  subst hlen
  rw [listRun_eq] at h
  obtain ⟨⟨o, after⟩, hnext, hresume⟩ := Option.bind_eq_some_iff.mp h
  obtain ⟨htakes, hlt⟩ := takes_next hnext
  refine .skip (h := fun x => (next m f outer x).bind (resumeRun m)) (listRun_eq m f outer) ?_
  refine htakes.trans (h := fun r => resumeRun m (o, r)) (fun x y hxy => by rw [hxy]; rfl) ?_
  match o with
  | .inl part' =>
    cases hresume
    exact .nothing fun _ _ => rfl
  | .inr (f', outer') => exact ih _ (Nat.lt_of_lt_of_le hlt (m.length_skip_le rest)) hresume rfl

/-- A class behind its opening bracket. -/
theorem takes_read {part : Part} (h : read m rest = some (part, rest')) :
    Takes m.verbose true (read m) (fun r => some (part, r)) rest rest' := by
  obtain ⟨⟨f, after⟩, hopening, hrest⟩ := Option.bind_eq_some_iff.mp h
  refine (takes_readOpening hopening).trans (h := listRun m f []) (fun x y hxy => ?_)
    (takes_listRun hrest)
  show (readOpening m x).bind _ = _
  rw [hxy]
  rfl

end Bracket

end TableLexer.Regex
