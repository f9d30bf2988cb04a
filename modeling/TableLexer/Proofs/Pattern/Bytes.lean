import TableLexer.Proofs.Pattern.Reading
import TableLexer.Proofs.Text.Passage

/-!
# The scan over bytes

A pattern can also be expanded without cutting it into pieces: its bytes are looked at one
after the other, and the text between two references is copied at once. A backslash and the
byte after it are skipped, so the scan may stop inside a character or behind the end; but
only bytes of ASCII are looked for, and those are never part of another character. So where
the text is sliced, the scan is between two characters.

Results:
1. `Text.eq_of_byte`: a byte that encodes a character of ASCII is no part of another one.
2. `Fragments.scan_eq`: the scan never slices a text inside a character, and it gives what
   the expansion of the pieces gives.
-/

namespace TableLexer

namespace Text

/-! ## Bytes of a text -/

/-- The bytes of the text in UTF-8. -/
def bytes (text : Text) : List UInt8 := text.flatMap String.utf8EncodeChar

/-- The number of bytes before the first `c`. -/
def offset? (text : Text) (c : Char) : Option Nat :=
  match text with
  | [] => none
  | d :: rest => if d = c then some 0 else (offset? rest c).map (d.utf8Size + ·)

theorem length_bytes (text : Text) : text.bytes.length = text.size := by
  induction text with
  | nil => rfl
  | cons c text ih => simp_all [bytes]

theorem bytes_getElem? (a b : Text) (k : Nat) : (a ++ b).bytes[a.size + k]? = b.bytes[k]? := by
  rw [bytes, List.flatMap_append, ← bytes, ← bytes, List.getElem?_append_right
    (by rw [length_bytes]; omega), length_bytes, Nat.add_sub_cancel_left]

theorem bytes_cons_getElem? {c : Char} {k : Nat} (rest : Text) (hk : k < c.utf8Size) :
    (bytes (c :: rest))[k]? = (String.utf8EncodeChar c)[k]? :=
  List.getElem?_append_left (by simpa using hk)

/-- Outside of ASCII the highest bit of every byte is set. -/
theorem le_byte {c : Char} {b : UInt8} (hc : 127 < c.val.toNat)
    (h : b ∈ String.utf8EncodeChar c) : 128 ≤ b.toNat := by
  have hle : ∀ n, 128 ≤ n % 256 → 128 ≤ (UInt8.ofNat n).toNat := fun n h => by
    rwa [UInt8.toNat_ofNat']
  unfold String.utf8EncodeChar at h
  grind

/-- A byte that encodes a character of ASCII is no part of another one. -/
theorem eq_of_byte {a c : Char} {k : Nat} (ha : a.val.toNat ≤ 127)
    (h : (String.utf8EncodeChar c)[k]? = some a.toUInt8) : c = a ∧ k = 0 := by
  have hval : a.toUInt8.toNat = a.val.toNat := by
    rw [← Char.toUInt8_val, UInt32.toNat_toUInt8]
    omega
  by_cases hc : c.val.toNat ≤ 127
  · have hone := Char.utf8Size_eq_one_iff.mpr (UInt32.le_iff_toNat_le.mpr hc)
    rw [String.utf8EncodeChar_eq_singleton hone] at h
    cases k with
    | succ k => simp at h
    | zero =>
      have h := congrArg UInt8.toNat (Option.some.inj h)
      rw [hval, UInt32.toNat_toUInt8] at h
      exact ⟨Char.ext (UInt32.toNat_inj.mp (by omega)), rfl⟩
  · have hle := le_byte (by omega) (List.mem_of_getElem? h)
    omega

theorem offset?_append {a rest : Text} {c : Char} (h : c ∉ a) :
    offset? (a ++ c :: rest) c = some a.size := by
  induction a with
  | nil => simp [offset?]
  | cons d a ih =>
    obtain ⟨hd, ha⟩ := not_or.mp (mt List.mem_cons.mpr h)
    simp [offset?, Ne.symm hd, ih ha]

theorem offset?_eq_none {a : Text} {c : Char} (h : c ∉ a) : offset? a c = none := by
  induction a with
  | nil => rfl
  | cons d a ih =>
    obtain ⟨hd, ha⟩ := not_or.mp (mt List.mem_cons.mpr h)
    simp [offset?, Ne.symm hd, ih ha]

/-- Between two characters a text can be sliced. -/
theorem slice?_append (a b c : Text) :
    slice? (a ++ (b ++ c)) a.size (a.size + b.size) = some b := by
  have ha : (Cursor.ofText (a ++ (b ++ c))).Passes a ⟨a.getLast?, a.size, b ++ c⟩ :=
    ⟨rfl, by simp [Cursor.ofText], by simp [Cursor.ofText]⟩
  exact slice?_of_passes ha (d := ⟨b.getLast?.or a.getLast?, a.size + b.size, c⟩) ⟨rfl, rfl, rfl⟩

theorem slice?_rest (a b : Text) : slice? (a ++ b) a.size (a ++ b).size = some b := by
  simpa [size_append] using slice?_append a b []

end Text

namespace Fragments

/-! ## Definitions -/

/-- Scans the pattern from the byte `i` on; `out` is what has been written, and the pattern
has been copied up to `copied`. There is no result where a text is sliced inside a
character. -/
def scanFrom (resolve : Text → Option (Except PatternError Text)) (p out : Text)
    (copied i : Nat) : Option (Except PatternError Text) :=
  if h : i < p.bytes.length then
    if p.bytes[i] = '\\'.toUInt8 then scanFrom resolve p out copied (i + 2)
    else if p.bytes[i] = '\x7b'.toUInt8 ∧ p.bytes[i + 1]? = some ':'.toUInt8 then
      (p.slice? (i + 2) p.size).bind fun tail =>
        match tail.offset? '\x7d' with
        | none => some (.error (.unterminatedFragment p))
        | some len =>
            (p.slice? (i + 2) (i + 2 + len)).bind fun name =>
              if isName name then
                (p.slice? copied i).bind fun before =>
                  (resolve name).bind fun
                    | .error e => some (.error e)
                    | .ok x =>
                        scanFrom resolve p (out ++ before ++ "(?:".toList ++ x ++ [')'])
                          (i + 2 + len + 1) (i + 2 + len + 1)
              else some (.error (.invalidFragmentName name))
    else scanFrom resolve p out copied (i + 1)
  else (p.slice? copied p.size).map fun rest => .ok (out ++ rest)
termination_by p.bytes.length - i

/-- The expansion of the fragment `name`, referred to from inside the fragments `active`. -/
def resolveScan (f : Fragments)
    (scan : List Text → Text → Option (Except PatternError Text)) (active : List Text)
    (name : Text) : Option (Except PatternError Text) :=
  if active.contains name then some (.error (.fragmentCycle (active ++ [name])))
  else
    match f.get? name with
    | none => some (.error (.undefinedFragment name))
    | some body => scan (active ++ [name]) body

/-- Expands a pattern inside the fragments `active`. -/
def scanIn (f : Fragments) : Nat → List Text → Text → Option (Except PatternError Text)
  | 0, active, p =>
      scanFrom (f.resolveScan (fun active _ => some (.error (.fragmentCycle active))) active)
        p [] 0 0
  | depth + 1, active, p => scanFrom (f.resolveScan (f.scanIn depth) active) p [] 0 0

/-- The pattern with all references replaced, by a scan over its bytes. -/
def scan (f : Fragments) (p : Text) : Option (Except PatternError Text) := f.scanIn f.size [] p

/-! ## Moving on -/

section Moves

variable {resolve : Text → Option (Except PatternError Text)} {p out : Text} {copied i : Nat}

theorem scanFrom_end (h : p.size ≤ i) :
    scanFrom resolve p out copied i =
      (p.slice? copied p.size).map fun rest => .ok (out ++ rest) := by
  rw [scanFrom, dif_neg (by rw [Text.length_bytes]; omega)]

theorem scanFrom_backslash (h : p.bytes[i]? = some '\\'.toUInt8) :
    scanFrom resolve p out copied i = scanFrom resolve p out copied (i + 2) := by
  obtain ⟨hi, hb⟩ := List.getElem?_eq_some_iff.mp h
  rw [scanFrom, dif_pos hi, if_pos hb]

theorem scanFrom_other (hi : i < p.size) (hslash : p.bytes[i]? ≠ some '\\'.toUInt8)
    (hbrace : p.bytes[i]? = some '\x7b'.toUInt8 → p.bytes[i + 1]? ≠ some ':'.toUInt8) :
    scanFrom resolve p out copied i = scanFrom resolve p out copied (i + 1) := by
  rw [← Text.length_bytes] at hi
  rw [List.getElem?_eq_getElem hi] at hslash hbrace
  rw [scanFrom, dif_pos hi, if_neg fun h => hslash (congrArg some h),
    if_neg fun h => hbrace (congrArg some h.1) h.2]

theorem scanFrom_unclosed {tail : Text} (hbrace : p.bytes[i]? = some '\x7b'.toUInt8)
    (hcolon : p.bytes[i + 1]? = some ':'.toUInt8) (htail : p.slice? (i + 2) p.size = some tail)
    (hnone : tail.offset? '\x7d' = none) :
    scanFrom resolve p out copied i = some (.error (.unterminatedFragment p)) := by
  obtain ⟨hi, hb⟩ := List.getElem?_eq_some_iff.mp hbrace
  rw [scanFrom, dif_pos hi, if_neg (by rw [hb]; decide), if_pos ⟨hb, hcolon⟩, htail,
    Option.bind_some, hnone]

theorem scanFrom_reference {tail name before : Text} {len : Nat}
    (hbrace : p.bytes[i]? = some '\x7b'.toUInt8) (hcolon : p.bytes[i + 1]? = some ':'.toUInt8)
    (htail : p.slice? (i + 2) p.size = some tail) (hlen : tail.offset? '\x7d' = some len)
    (hname : p.slice? (i + 2) (i + 2 + len) = some name)
    (hbefore : p.slice? copied i = some before) :
    scanFrom resolve p out copied i =
      if isName name then
        (resolve name).bind fun
          | .error e => some (.error e)
          | .ok x =>
              scanFrom resolve p (out ++ before ++ "(?:".toList ++ x ++ [')'])
                (i + 2 + len + 1) (i + 2 + len + 1)
      else some (.error (.invalidFragmentName name)) := by
  obtain ⟨hi, hb⟩ := List.getElem?_eq_some_iff.mp hbrace
  rw [scanFrom, dif_pos hi, if_neg (by rw [hb]; decide), if_pos ⟨hb, hcolon⟩, htail,
    Option.bind_some, hlen]
  dsimp only
  rw [hname, Option.bind_some, hbefore, Option.bind_some]

end Moves

/-! ## From one character to the next -/

variable {resolve' : Text → Option (Except PatternError Text)}
  {resolve : Text → Except PatternError Text} {p : Text}

/-- The bytes that are left of a character are passed, if by it neither an escape nor a
reference begins. -/
theorem scanFrom_skip {pre rest : Text} {c : Char} (hp : p = pre ++ c :: rest) (out : Text)
    (copied : Nat) {k : Nat} (hk : k ≤ c.utf8Size)
    (hplain : 0 < k ∨ c ≠ '\\' ∧ ¬ Piece.Opens (c :: rest)) :
    scanFrom resolve' p out copied (pre.size + k)
      = scanFrom resolve' p out copied (pre.size + c.utf8Size) := by
  induction hn : c.utf8Size - k generalizing k with
  | zero => rw [show k = c.utf8Size by omega]
  | succ n ih =>
    rw [← ih (k := k + 1) (by omega) (.inl (by omega)) (by omega)]
    have hbyte : p.bytes[pre.size + k]? = (String.utf8EncodeChar c)[k]? := by
      rw [hp, Text.bytes_getElem?, Text.bytes_cons_getElem? rest (by omega)]
    refine scanFrom_other ?_ ?_ ?_
    · rw [hp, Text.size_append, Text.size_cons]
      omega
    · intro h
      obtain ⟨rfl, rfl⟩ := Text.eq_of_byte (by decide) (hbyte.symm.trans h)
      exact hplain.elim (Nat.lt_irrefl 0) (fun h => h.1 rfl)
    · intro h hcolon
      obtain ⟨rfl, rfl⟩ := Text.eq_of_byte (by decide) (hbyte.symm.trans h)
      rw [hp, Nat.add_assoc, Text.bytes_getElem?] at hcolon
      cases rest with
      | nil => exact absurd hcolon (by decide)
      | cons d rest =>
        have hcolon : (Text.bytes (d :: rest))[0]? = some ':'.toUInt8 :=
          (Text.bytes_getElem? ['\x7b'] (d :: rest) 0).symm.trans hcolon
        rw [Text.bytes_cons_getElem? rest d.utf8Size_pos] at hcolon
        obtain ⟨rfl, -⟩ := Text.eq_of_byte (by decide) hcolon
        exact hplain.elim (Nat.lt_irrefl 0) (fun h => h.2 ⟨rest, rfl⟩)

theorem scanFrom_plain {pre rest : Text} {c : Char} (hp : p = pre ++ c :: rest) (out : Text)
    (copied : Nat) (hc : c ≠ '\\') (ho : ¬ Piece.Opens (c :: rest)) :
    scanFrom resolve' p out copied pre.size = scanFrom resolve' p out copied (pre ++ [c]).size := by
  rw [Text.size_append]
  exact scanFrom_skip hp out copied (Nat.zero_le _) (.inr ⟨hc, ho⟩)

theorem scanFrom_escaped {pre rest : Text} {c : Char} (hp : p = pre ++ '\\' :: c :: rest)
    (out : Text) (copied : Nat) :
    scanFrom resolve' p out copied pre.size
      = scanFrom resolve' p out copied (pre ++ ['\\', c]).size := by
  have hbyte : p.bytes[pre.size]? = some '\\'.toUInt8 :=
    hp ▸ Text.bytes_getElem? pre ('\\' :: c :: rest) 0
  have hsize : pre.size + 2 = (pre ++ ['\\']).size + 1 := by
    rw [Text.size_append]
    rfl
  have hend : (pre ++ ['\\', c]).size = (pre ++ ['\\']).size + c.utf8Size := by
    rw [List.append_cons, Text.size_append (pre ++ ['\\'])]
    rfl
  rw [scanFrom_backslash hbyte, hsize, hend, scanFrom_skip (hp.trans (List.append_cons ..)) out
    copied c.utf8Size_pos (.inl Nat.one_pos)]

theorem scanFrom_opened {pre tail : Text} (hp : p = pre ++ '\x7b' :: ':' :: tail) :
    p.bytes[pre.size]? = some '\x7b'.toUInt8 ∧ p.bytes[pre.size + 1]? = some ':'.toUInt8 ∧
      p.slice? (pre.size + 2) p.size = some tail := by
  refine ⟨hp ▸ Text.bytes_getElem? pre _ 0, hp ▸ Text.bytes_getElem? pre _ 1, ?_⟩
  have h := Text.slice?_rest (pre ++ ['\x7b', ':']) tail
  rw [Text.size_append pre, List.append_assoc] at h
  exact hp ▸ h

/-- A closed reference; `mid` is what stands between the last one and it. -/
theorem scanFrom_closed {done mid name rest : Text}
    (hp : p = done ++ (mid ++ '\x7b' :: ':' :: (name ++ '\x7d' :: rest))) (out : Text)
    (hname : '\x7d' ∉ name) :
    scanFrom resolve' p out done.size (done ++ mid).size =
      if isName name then
        (resolve' name).bind fun
          | .error e => some (.error e)
          | .ok x =>
              scanFrom resolve' p (out ++ mid ++ "(?:".toList ++ x ++ [')'])
                (done ++ mid ++ (Piece.reference name).write).size
                (done ++ mid ++ (Piece.reference name).write).size
      else some (.error (.invalidFragmentName name)) := by
  obtain ⟨hbrace, hcolon, htail⟩ := scanFrom_opened (hp.trans (List.append_assoc ..).symm)
  have hname' : p.slice? ((done ++ mid).size + 2) ((done ++ mid).size + 2 + name.size)
      = some name := by
    have h := Text.slice?_append (done ++ mid ++ ['\x7b', ':']) name ('\x7d' :: rest)
    rw [Text.size_append (done ++ mid), show Text.size ['\x7b', ':'] = 2 from rfl] at h
    simpa [hp] using h
  have hbefore : p.slice? done.size (done ++ mid).size = some mid := by
    rw [hp, Text.size_append]
    exact Text.slice?_append ..
  have hsize : (done ++ mid).size + 2 + name.size + 1
      = (done ++ mid ++ (Piece.reference name).write).size := by
    have hwrite : (Piece.reference name).write.size = 1 + (1 + (name.size + 1)) := by
      rw [Piece.write, Text.size_cons, Text.size_cons, Text.size_append]
      rfl
    rw [Text.size_append (done ++ mid), hwrite]
    omega
  rw [scanFrom_reference hbrace hcolon htail (Text.offset?_append hname) hname' hbefore, hsize]

/-- From between two characters on the scan gives what the pieces that follow give; `mid` is
what has been passed and not been copied yet. -/
theorem scanFrom_eq (hres : ∀ name, resolve' name = some (resolve name)) {rest : Text}
    {l : List Piece} (hr : Piece.Reads rest l) (done mid out : Text)
    (hp : p = done ++ (mid ++ rest)) :
    scanFrom resolve' p out done.size (done ++ mid).size
      = some ((out ++ mid ++ ·) <$> substitute resolve p l) := by
  have hpre : p = done ++ mid ++ rest := hp.trans (List.append_assoc ..).symm
  induction hr generalizing done mid out with
  | nil =>
    rw [List.append_nil] at hp
    rw [hp, scanFrom_end (Nat.le_refl _), Text.slice?_rest]
    exact congrArg (some ∘ Except.ok) (List.append_nil _).symm
  | backslash =>
    have hbyte : p.bytes[(done ++ mid).size]? = some '\\'.toUInt8 :=
      hpre ▸ Text.bytes_getElem? (done ++ mid) ['\\'] 0
    have hend : p.size ≤ (done ++ mid).size + 2 := by
      rw [hpre, Text.size_append (done ++ mid)]
      exact Nat.add_le_add_left (by decide) _
    rw [scanFrom_backslash hbyte, scanFrom_end hend, hp, Text.slice?_rest]
    exact congrArg (some ∘ Except.ok) (List.append_assoc ..).symm
  | @escaped c rest l _ ih =>
    have ih := ih done (mid ++ ['\\', c]) out (by simpa using hp) (by simpa using hpre)
    rw [scanFrom_escaped hpre, List.append_assoc, ih, substitute_escaped, Functor.map_map]
    simp
  | @reference name rest l hname _ ih =>
    rw [scanFrom_closed hp out hname, hres, substitute_reference]
    split
    · cases hx : resolve name with
      | error e => rfl
      | ok x =>
        have ih := ih (done ++ mid ++ (Piece.reference name).write) []
          (out ++ mid ++ "(?:".toList ++ x ++ [')']) (by simpa [Piece.write] using hp)
          (by simpa [Piece.write] using hp)
        rw [List.append_nil] at ih
        show scanFrom resolve' p _ _ _
          = some ((out ++ mid ++ ·) <$> ("(?:".toList ++ x ++ ')' :: ·) <$> substitute resolve p l)
        rw [ih, Functor.map_map]
        simp
    · rfl
  | unclosed hrest =>
    obtain ⟨hbrace, hcolon, htail⟩ := scanFrom_opened hpre
    rw [scanFrom_unclosed hbrace hcolon htail (Text.offset?_eq_none hrest)]
    rfl
  | @plain c rest l hc ho _ ih =>
    have ih := ih done (mid ++ [c]) out (by simpa using hp) (by simpa using hpre)
    rw [scanFrom_plain hpre _ _ hc ho, List.append_assoc, ih, substitute_plain, Functor.map_map]
    simp

theorem scanFrom_cut (hres : ∀ name, resolve' name = some (resolve name)) (p : Text) :
    scanFrom resolve' p [] 0 0 = some (substitute resolve p (Piece.cut p)) := by
  have h := scanFrom_eq (p := p) hres (Piece.reads_cut p) [] [] [] rfl
  exact h.trans (congrArg some (id_map _))

theorem resolveScan_eq {f : Fragments} {expand : List Text → Text → Except PatternError Text}
    {scan : List Text → Text → Option (Except PatternError Text)}
    (hscan : ∀ active p, scan active p = some (expand active p)) (active : List Text)
    (name : Text) : f.resolveScan scan active name = some (f.resolve expand active name) := by
  unfold resolveScan resolve
  split
  · rfl
  · cases f.get? name with
    | none => rfl
    | some body => exact hscan _ _

/-- The scan never slices a text inside a character, and gives what the expansion of the
pieces gives. -/
theorem scanIn_eq (f : Fragments) (depth : Nat) (active : List Text) (p : Text) :
    f.scanIn depth active p = some (f.expandIn depth active p) := by
  induction depth generalizing active p with
  | zero => exact scanFrom_cut (resolveScan_eq (fun _ _ => rfl) active) p
  | succ depth ih => exact scanFrom_cut (resolveScan_eq ih active) p

theorem scan_eq (f : Fragments) (p : Text) : f.scan p = some (f.expand p) := f.scanIn_eq _ _ _

end Fragments

end TableLexer
