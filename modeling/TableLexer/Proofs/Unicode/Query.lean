import TableLexer.Text.Blank
import TableLexer.Unicode.Query

/-!
# Characters of names

Names of classes are compared loosely, but a backslash, an opening brace or a colon is not lost
on the way, and no name in the tables has one of them. So in a text that names a class there is
at most a colon, between a property and its value. The names of groups are made of letters and
numbers, which a backslash and a brace are not.

Results:
1. `resolve?_plain`: the names of classes.
2. `isBlank_graphic`, `not_number`, `not_alphabetic`: characters of ASCII in the tables.
-/

namespace TableLexer.Unicode

/-! ## Definitions -/

/-- A character that no name has. -/
def isForeign (c : Char) : Bool := c = '\\' || c = '\x7b' || c = ':'

/-- A character that counts where names are compared. -/
def counts (c : Char) : Bool := c.toNat < 0x80 && c ≠ ' ' && c ≠ '_' && c ≠ '-'

/-- The name begins with `is`, upper or lower case. -/
def beginsIs : Text → Bool
  | i :: s :: _ => i.toLower = 'i' && s.toLower = 's'
  | _ => false

/-- What is left of a name, before two spellings are told apart. -/
def lowered (name : Text) : Text :=
  (if beginsIs name then (name.filter counts).drop 2 else name.filter counts).map Char.toLower

variable {c : Char} {name : Text}

theorem isForeign_iff : isForeign c = true ↔ c = '\\' ∨ c = '\x7b' ∨ c = ':' := by
  simp [isForeign, or_assoc]

theorem counts_iff : counts c = true ↔ c.toNat < 0x80 ∧ c ≠ ' ' ∧ c ≠ '_' ∧ c ≠ '-' := by
  simp [counts, and_assoc]

/-! ## Loose names -/

theorem looseName_eq (name : Text) :
    looseName name =
      if beginsIs name && lowered name = ['c'] then "isc" else String.ofList (lowered name) :=
  rfl

theorem toNat_lt_of_toLower (h : c.toLower.toNat < 0x80) : c.toNat < 0x80 := by
  unfold Char.toLower at h
  split at h
  · next hc =>
    have hle : c.val.toNat ≤ 90 := by
      simpa [UInt32.le_iff_toNat_le] using hc.2
    exact Nat.lt_of_le_of_lt hle (by decide)
  · exact h

theorem counts_of_toLower (h : c.toLower = 'i' ∨ c.toLower = 's') : counts c = true := by
  have hlt : c.toNat < 0x80 := toNat_lt_of_toLower (by rcases h with h | h <;> rw [h] <;> decide)
  have hne : ∀ d : Char, d.toLower ≠ 'i' → d.toLower ≠ 's' → c ≠ d := by
    rintro d hi hs rfl
    exact h.elim hi hs
  exact counts_iff.mpr ⟨hlt, hne ' ' (by decide) (by decide), hne '_' (by decide) (by decide),
    hne '-' (by decide) (by decide)⟩

/-- A foreign character is never lost: what is dropped in front are two letters. -/
theorem mem_lowered (hc : isForeign c = true) (hmem : c ∈ name) : c ∈ lowered name := by
  have hcounts : counts c = true := by
    rcases isForeign_iff.mp hc with rfl | rfl | rfl <;> decide
  have hlower : c.toLower = c := by
    rcases isForeign_iff.mp hc with rfl | rfl | rfl <;> decide
  have hletter : ∀ d : Char, d.toLower = 'i' ∨ d.toLower = 's' → c ≠ d := by
    rintro d hd rfl
    rcases isForeign_iff.mp hc with rfl | rfl | rfl <;> exact absurd hd (by decide)
  refine List.mem_map.mpr ⟨c, ?_, hlower⟩
  match name with
  | i :: s :: tail =>
    by_cases his : i.toLower = 'i' ∧ s.toLower = 's'
    · have htail : c ∈ tail := by
        simpa [hletter i (.inl his.1), hletter s (.inr his.2)] using hmem
      simp [beginsIs, his, counts_of_toLower (.inl his.1), counts_of_toLower (.inr his.2), htail,
        hcounts]
    · have hbegins : beginsIs (i :: s :: tail) = false := by simpa [beginsIs] using his
      rw [hbegins]
      exact List.mem_filter.mpr ⟨hmem, hcounts⟩
  | [i] => exact List.mem_filter.mpr ⟨hmem, hcounts⟩

theorem mem_looseName (hc : isForeign c = true) (hmem : c ∈ name) :
    c ∈ (looseName name).toList := by
  have hin := mem_lowered hc hmem
  rw [looseName_eq]
  split
  · next hisc =>
    rw [Bool.and_eq_true, decide_eq_true_eq] at hisc
    rw [hisc.2, List.mem_singleton] at hin
    rcases isForeign_iff.mp hc with rfl | rfl | rfl <;> exact absurd hin (by decide)
  · rwa [String.toList_ofList]

/-! ## Tables -/

/-- The name has no foreign character. -/
def PlainName (key : String) : Prop := ∀ c ∈ Text.ofString key, isForeign c = false

instance (key : String) : Decidable (PlainName key) :=
  List.decidableBAll (fun c => isForeign c = false) (Text.ofString key)

/-- The names in a table. -/
def namesIn {α : Type} (table : List (List String × α)) : List String := table.flatMap Prod.fst

/-- The names that do not stand in a table. -/
def loneNames : List String :=
  ["whitespace", "wspace", "space", "alphabetic", "alpha", "graphemeextend", "grext",
   "otheralphabetic", "oalpha", "otherdefaultignorablecodepoint", "odi", "othergraphemeextend",
   "ogrext", "otheridcontinue", "oidc", "otheridstart", "oids", "otherlowercase", "olower",
   "othermath", "omath", "otheruppercase", "oupper", "gc", "generalcategory", "sc", "script",
   "scx", "scriptextensions", "age", "gcb", "graphemeclusterbreak", "wb", "wordbreak", "sb",
   "sentencebreak"]

/-- All names by which classes are looked up. -/
def allNames : List (List String) :=
  [loneNames, namesIn Property.named, namesIn Category.named, namesIn Script.named,
   namesIn Age.named, namesIn Break.clusterValues, namesIn Break.wordValues,
   namesIn Break.sentenceValues]

theorem plainName_of_mem : ∀ names ∈ allNames, ∀ key ∈ names, PlainName key := by
  decide +kernel

variable {key : String} {s : CharSet}

theorem plainName_lone (h : key ∈ loneNames) : PlainName key :=
  plainName_of_mem loneNames (by simp [allNames]) key h

variable {α : Type} {table : List (List String × α)} {entry : List String × α}

theorem plainName_of_entry (htable : namesIn table ∈ allNames) (hentry : entry ∈ table)
    (hkey : entry.1.contains key = true) : PlainName key :=
  plainName_of_mem _ htable key
    (List.mem_flatMap.mpr ⟨entry, hentry, List.contains_iff_mem.mp hkey⟩)

theorem plainName_of_map_find? {f : List String × α → CharSet}
    (htable : namesIn table ∈ allNames)
    (h : (table.find? fun entry => entry.1.contains key).map f = some s) : PlainName key := by
  obtain ⟨entry, hentry, -⟩ := Option.map_eq_some_iff.mp h
  exact plainName_of_entry htable (List.mem_of_find?_eq_some hentry)
    (List.find?_some (p := fun entry : List String × α => entry.1.contains key) hentry)

theorem plainName_property (h : Property.find? key = some s) : PlainName key := by
  have hlone {names : List String} (hnames : ∀ name ∈ names, name ∈ loneNames)
      (hkey : names.contains key = true) : PlainName key :=
    plainName_lone (hnames key (List.contains_iff_mem.mp hkey))
  unfold Property.find? at h
  split at h
  · next hkey => exact hlone (by decide) hkey
  split at h
  · next hkey => exact hlone (by decide) hkey
  split at h
  · next hkey => exact hlone (by decide) hkey
  · exact plainName_of_map_find? (by simp [allNames]) h

theorem plainName_contributory (h : Contributory.find? key = some s) : PlainName key := by
  unfold Contributory.find? at h
  split at h
  case h_17 => cases h
  all_goals exact plainName_lone (by simp [loneNames])

theorem plainName_age (h : Age.find? key = some s) : PlainName key := by
  unfold Age.find? at h
  split at h
  · next hany =>
    obtain ⟨entry, hentry, hkey⟩ := List.any_eq_true.mp hany
    exact plainName_of_entry (by simp [allNames]) hentry hkey
  · cases h

theorem plainName_class (h : findClass? name = some s) : PlainName (looseName name) := by
  have hor : ∀ {a b : Option CharSet}, (a <|> b) = some s → a = some s ∨ b = some s := by
    rintro (_ | a) b h
    · exact .inr h
    · exact .inl h
  rcases hor h with h | h
  · exact plainName_property h
  rcases hor h with h | h
  · exact plainName_contributory h
  exact (hor h).elim (plainName_of_map_find? (by simp [allNames]))
    (plainName_of_map_find? (by simp [allNames]))

theorem plainName_value {property value : Text} (h : findValue? property value = some s) :
    PlainName (looseName property) ∧ PlainName (looseName value) := by
  unfold findValue? at h
  dsimp only at h
  split at h
  case h_7 hp => exact ⟨plainName_lone (by simp [hp, loneNames]), plainName_age h⟩
  case h_14 => cases h
  all_goals
    next hp =>
      exact ⟨plainName_lone (by simp [hp, loneNames]),
        plainName_of_map_find? (by simp [allNames]) h⟩

/-! ## Names in braces -/

theorem cutAt?_append {mark text front after : Text} (h : cutAt? mark text = some (front, after)) :
    text = front ++ (mark ++ after) := by
  induction text generalizing front with
  | nil => cases h
  | cons c text ih =>
    unfold cutAt? at h
    split at h
    · next rest hlead =>
      cases h
      have hall : c :: text = mark ++ after := Text.dropLead?_eq_some_iff.mp hlead
      exact hall
    · obtain ⟨⟨front', after'⟩, hcut, hpair⟩ := Option.map_eq_some_iff.mp h
      cases hpair
      rw [ih hcut, List.cons_append]

theorem not_isForeign_of_plainName (h : PlainName (looseName name)) :
    ∀ c ∈ name, isForeign c = false := by
  intro c hmem
  cases hc : isForeign c with
  | false => rfl
  | true =>
    have hin := mem_looseName hc hmem
    rw [← Text.ofString_eq] at hin
    exact hc.symm.trans (h c hin)

/-- A text that names a class has no backslash and no brace, and does not begin with a colon: a
property in front of a value is not empty. -/
theorem resolve?_plain (h : resolve? name = some s) :
    '\\' ∉ name ∧ '\x7b' ∉ name ∧ name.head? ≠ some ':' := by
  unfold resolve? at h
  split at h
  · next property value hcut =>
    obtain ⟨hproperty, hvalue⟩ := plainName_value h
    obtain ⟨mark, hmark, hat⟩ := List.exists_of_findSome?_eq_some hcut
    have hnot : ∀ c, isForeign c = true → c ∉ mark → c ∉ name := by
      intro c hc hout hmem
      rw [cutAt?_append hat, List.mem_append, List.mem_append] at hmem
      rcases hmem with hmem | hmem | hmem
      · exact absurd (not_isForeign_of_plainName hproperty c hmem) (by simp [hc])
      · exact hout hmem
      · exact absurd (not_isForeign_of_plainName hvalue c hmem) (by simp [hc])
    have hmarks : ∀ mark ∈ valueMarks, '\\' ∉ mark ∧ '\x7b' ∉ mark := by decide
    refine ⟨hnot _ (by decide) (hmarks mark hmark).1, hnot _ (by decide) (hmarks mark hmark).2, ?_⟩
    intro hhead
    rw [cutAt?_append hat] at hhead
    cases property with
    | nil => cases h
    | cons c property =>
      cases Option.some.inj hhead
      exact absurd (not_isForeign_of_plainName hproperty ':' List.mem_cons_self) (by decide)
  · have hplain := not_isForeign_of_plainName (plainName_class h)
    have hnot : ∀ c, isForeign c = true → c ∉ name := by
      intro c hc hmem
      exact absurd (hplain c hmem) (by simp [hc])
    exact ⟨hnot _ (by decide), hnot _ (by decide),
      fun hhead => hnot ':' (by decide) (List.mem_of_mem_head? hhead)⟩

/-! ## Characters of ASCII in tables -/

/-- No graphic character of ASCII is white space. -/
theorem isBlank_graphic {c : Char} (h : 0x20 < c.toNat ∧ c.toNat < 0x7F) : isBlank c = false := by
  have hall : ((List.range 0x7F).all fun n => n ≤ 0x20 || !isBlank (Char.ofNat n)) = true := by
    decide +kernel
  have hc := List.all_eq_true.mp hall c.toNat (List.mem_range.mpr h.2)
  simpa [Char.ofNat_toNat, Nat.not_le.mpr h.1] using hc

theorem not_number : Category.number.contains '\\' = false ∧
    Category.number.contains '\x7b' = false := by
  decide +kernel

theorem ofHex_ofList (t : Text) :
    CharSet.ofHex (.ofList t) = .ofIntervals (CharSet.readHex t none none) := by
  rw [CharSet.ofHex, Text.ofString_eq, String.toList_ofList]

set_option maxRecDepth 1000000 in
/-- Only the beginning of the table is needed for characters of ASCII. -/
theorem alphabetic_eq : ∃ t, Property.alphabetic =
    .ofHex (.ofList ('4' :: '1' :: '-' :: '5' :: 'A' :: ' ' :: '6' :: '1' :: '-' :: '7' :: 'A' :: ' ' ::
      'A' :: 'A' :: ' ' :: t)) :=
  ⟨_, rfl⟩

theorem not_alphabetic : Property.alphabetic.contains '\\' = false ∧
    Property.alphabetic.contains '\x7b' = false := by
  obtain ⟨t, ht⟩ := alphabetic_eq
  rw [ht, ofHex_ofList]
  exact ⟨rfl, rfl⟩

end TableLexer.Unicode
