import TableLexer.Proofs.Pattern.Unambiguous
import TableLexer.Proofs.Pattern.WordPattern
import TableLexer.Proofs.Regex.Choice

/-!
# What word lists match

The words of a list are tried in the order of their sizes, the largest first. So the match of
a list is the longest word that is next and behind which the rest of the pattern matches. This is
so as long as the words stand in the pattern as they are: in verbose mode white space in them
does not count.

Results:
1. `matches_longest`: the match of a word list.
2. `verbose_matches`: what verbose mode changes.
-/

namespace TableLexer.WordList

open Regex Regex.Parser

variable {m : Mode} {word w : Text} {ws words : List Text} {back : Text} {p : Path} {q : Path}
  {P : Cursor → Bool}

/-! ## The order of words -/

theorem size_le_of_rank_lt {v : Text} (h : rank v < rank w) : w.size ≤ v.size := by
  rcases Prod.Lex.lt_iff.mp h with hlt | ⟨heq, -⟩
  · exact Nat.le_of_lt hlt
  · exact Nat.le_of_eq heq.symm

/-- Larger words come first. -/
theorem arrange_sizes (words : List Text) : (arrange words).Pairwise fun v w => w.size ≤ v.size :=
  (arranged_arrange words).imp size_le_of_rank_lt

/-! ## Words as texts -/

theorem charSet_singleton (c : Char) : Expr.charSet (.singleton c) = .text [c] := by
  have hsingle : (CharSet.singleton c).single? = some c := by
    have hvalid : c.toNat = c.toNat ∧ c.toNat.isValidChar := ⟨rfl, c.valid⟩
    exact (if_pos hvalid).trans (congrArg some (Char.ofNat_toNat c))
  rw [Expr.charSet, hsingle]
  rfl

theorem concat_text (c : Char) (w : Text) :
    Expr.concat ((c :: w).map fun c => .text [c]) = .text (c :: w) := by
  induction w generalizing c with
  | nil => rfl
  | cons d w ih =>
    have hcons : Expr.concat ((c :: d :: w).map fun c => .text [c]) =
        Expr.cons (.text [c]) (Expr.concat ((d :: w).map fun c => .text [c])) := rfl
    rw [hcons, ih]
    rfl

/-- Where case counts, a word is the text that it is. -/
theorem word_eq_literal (h : m.ignoreCase = false) (w : Text) : Expr.word m w = Expr.literal w := by
  have hchar : (fun c => Expr.charSet (m.fold (.singleton c))) = fun c => .text [c] := by
    funext c
    simp [Mode.fold, h, charSet_singleton]
  rw [Expr.word, hchar]
  match w with
  | [] => rfl
  | [c] => rfl
  | c :: d :: w => exact concat_text c (d :: w)

theorem words_eq_literals (h : m.ignoreCase = false) (ws : List Text) :
    Expr.words m ws = Expr.alternation (ws.map Expr.literal) := by
  have hword : Expr.word m = Expr.literal := funext (word_eq_literal h)
  rw [Expr.words, hword]
  rcases ws with _ | ⟨w, _ | ⟨v, ws⟩⟩
  · rfl
  · exact (Expr.alternation_single w).symm
  · rfl

/-! ## The longest word -/

/-- The word is next at the place, and if there is a pattern behind the words, there is a word
boundary behind it. -/
def Fits (back : Text) (place : Cursor) (word : Text) : Prop :=
  ∃ d, place.Passes word d ∧ (back ≠ [] → (Look.wordBoundary .unicode).holds d = true)

/-- The word fits, and no word of the list that fits is longer. -/
structure IsLongest (words : List Text) (back : Text) (place : Cursor) (word : Text) : Prop where
  mem : word ∈ words
  fits : Fits back place word
  longest : ∀ v ∈ words, Fits back place v → v.size ≤ word.size

/-- What has to hold behind the words. -/
def behind (back : Text) (d : Cursor) : Bool :=
  if back = [] then true else (Look.wordBoundary .unicode).holds d

theorem fits_iff {place : Cursor} :
    Fits back place word ↔ ∃ d, place.Passes word d ∧ behind back d = true := by
  refine exists_congr fun d => and_congr_right fun _ => ?_
  unfold behind
  split <;> simp_all

theorem firstAlong_longest (h : Program.firstAlong (behind back) (arrange words) p = some q) :
    ∃ w, IsLongest words back p.place w ∧ q.pos = p.pos + w.size := by
  obtain ⟨front, w, after, harrange, hpass, hbehind, hfront⟩ := Program.firstAlong_eq_some h
  have hsizes := arrange_sizes words
  rw [harrange] at hsizes
  have hmem : ∀ v, v ∈ words ↔ v ∈ front ++ w :: after := fun v => harrange ▸ mem_arrange.symm
  refine ⟨w, ⟨(hmem w).mpr (by simp), fits_iff.mpr ⟨_, hpass, hbehind⟩, fun v hv hfits => ?_⟩,
    hpass.pos⟩
  obtain ⟨d, hd, hbehind'⟩ := fits_iff.mp hfits
  rcases List.mem_append.mp ((hmem v).mp hv) with hv | hv
  · rw [hfront v hv d hd] at hbehind'
    cases hbehind'
  · rcases List.mem_cons.mp hv with rfl | hv
    · exact Nat.le_refl _
    · exact (List.pairwise_cons.mp (List.pairwise_append.mp hsizes).2.1).1 v hv

theorem firstAlong_none :
    Program.firstAlong (behind back) (arrange words) p = none ↔
      ∀ w ∈ words, ¬ Fits back p.place w := by
  rw [Program.firstAlong_eq_none]
  simp only [mem_arrange, fits_iff, not_exists, not_and, Bool.not_eq_true]

/-! ## Matchers of word lists -/

variable {flags : PatternFlags} {f : Fragments}

/-- The expression of a word list in front of a pattern. -/
def expr (m : Mode) (ws : List Text) (back : Text) : Expr :=
  if back = [] then Expr.words m ws
  else .concat [Expr.words m ws, .look (.wordBoundary (Escape.alphabet m))]

theorem pattern_eq_ok (h : words ≠ []) (back : Text) :
    pattern words [] back = .ok (written (arrange words) back) := by
  rw [pattern, if_neg (by simpa using h)]
  rfl

/-- The matcher of a word list. -/
def matcher (flags : PatternFlags) (words : List Text) (back : Text) : Matcher :=
  let e := expr flags.mode ((arrange words).map flags.mode.visible) back
  ⟨written (arrange words) back, flags, .ofExpr e, e.groupCount⟩

theorem compile_written (h : words ≠ []) (hback : back = [] ∨ back = "\\b".toList) :
    Matcher.compile (written (arrange words) back) flags = .ok (matcher flags words back) := by
  have hws := arrange_ne_nil h
  have hexpr := toExpr_choiceItem flags.mode hws
  rcases hback with rfl | rfl
  · rw [Matcher.compile, Regex.compile, parse_written _ hws]
    simp only [Option.map_some, hexpr]
    rfl
  · rw [Matcher.compile, Regex.compile, parse_written_boundary _ hws]
    simp only [Option.map_some, Tree.toExpr, Tree.toExprs, hexpr]
    rfl

theorem first?_expr (back : Text) (hcase : m.ignoreCase = false) (hunicode : m.unicode = true)
    (h : ws ≠ []) (place : Cursor) :
    (Program.ofExpr (expr m ws back)).first? place =
      Program.firstAlong (behind back) ws (Path.start place) := by
  have halphabet : Escape.alphabet m = .unicode := if_pos hunicode
  rw [expr, words_eq_literals hcase, halphabet]
  by_cases hback : back = []
  · have hbehind : behind back = fun _ => true := funext fun _ => if_pos hback
    rw [if_pos hback, hbehind, Program.first?_texts h]
  · have hbehind : behind back = (Look.wordBoundary .unicode).holds := funext fun _ => if_neg hback
    rw [if_neg hback, hbehind, Program.first?_texts_look h]

theorem groupCount_expr (back : Text) (hcase : m.ignoreCase = false) (h : ws ≠ []) :
    (expr m ws back).groupCount = 0 := by
  have hwords := Expr.groupCount_alternation_literal h
  rw [expr, words_eq_literals hcase]
  split
  · exact hwords
  · rw [Expr.groupCount_concat]
    simp [hwords, Expr.groupCount]

/-- Where case counts, the match goes along the first word, as it counts in the pattern, that is
next and behind which the rest of the pattern matches. -/
theorem matchAt?_matcher (hcase : flags.ignoreCase = false) (h : words ≠ []) {text : Text}
    {pos : Nat} {place : Cursor} (hplace : text.at? pos = some place) :
    (matcher flags words back).matchAt? text pos =
      (Program.firstAlong (behind back) ((arrange words).map flags.mode.visible)
        (Path.start place)).map fun q => ⟨⟨place.pos, q.pos⟩, []⟩ := by
  have hws : (arrange words).map flags.mode.visible ≠ [] := by simp [arrange_ne_nil h]
  have hfirst := first?_expr (m := flags.mode) back hcase rfl hws place
  have hcount := groupCount_expr (m := flags.mode) back hcase hws
  rw [Matcher.matchAt?, hplace, Option.bind_some, Regex.matchAt?, ← hfirst, matcher, hcount]
  rfl

theorem visible_plain (h : m.verbose = false) (word : Text) : m.visible word = word := by
  simp [Mode.visible, h]

theorem matchAt?_plain (back : Text) (hcase : flags.ignoreCase = false)
    (hverbose : flags.verbose = false) (h : words ≠ []) {text : Text} {pos : Nat} {place : Cursor}
    (hplace : text.at? pos = some place) :
    (matcher flags words back).matchAt? text pos =
      (Program.firstAlong (behind back) (arrange words) (Path.start place)).map
        fun q => ⟨⟨place.pos, q.pos⟩, []⟩ := by
  have hvisible : flags.mode.visible = id := funext (visible_plain hverbose)
  rw [matchAt?_matcher hcase h hplace, hvisible, List.map_id]

variable {pool : Pool}

/-- No pattern of a word list looks like a reference. -/
theorem compile_pooled (hp : pool.Arises flags f) (h : words ≠ [])
    (hback : back = [] ∨ back = "\\b".toList) :
    f.expand (written (arrange words) back) = .ok (written (arrange words) back) ∧
      ∃ slot q, pool.compile (written (arrange words) back) =
        .ok (⟨slot, matcher flags words back⟩, q) := by
  have hsettled : Settled back := by
    rcases hback with rfl | rfl
    · exact .nil
    · exact .escaped .nil
  have hexpand : f.expand (written (arrange words) back) = .ok (written (arrange words) back) :=
    Fragments.expand_eq_self.mpr (settled_written hsettled)
  exact ⟨hexpand, hp.compile_iff.mpr ⟨_, hexpand, compile_written h hback⟩⟩

/-! ## The match of a word list -/

theorem matchAt?_longest (hcase : flags.ignoreCase = false) (hverbose : flags.verbose = false)
    (h : words ≠ []) {text : Text} {pos : Nat} {place : Cursor} (hplace : text.at? pos = some place)
    (hw : IsLongest words back place w) :
    (matcher flags words back).matchAt? text pos = some ⟨⟨pos, pos + w.size⟩, []⟩ := by
  obtain rfl := Text.pos_of_at? hplace
  rw [matchAt?_plain back hcase hverbose h hplace]
  cases hq : Program.firstAlong (behind back) (arrange words) (Path.start place) with
  | none => exact absurd hw.fits (firstAlong_none.mp hq w hw.mem)
  | some q =>
    obtain ⟨v, hv, hpos⟩ := firstAlong_longest hq
    have hsize : v.size = w.size :=
      Nat.le_antisymm (hw.longest v hv.mem hv.fits) (hv.longest w hw.mem hw.fits)
    rw [Option.map_some, hpos, hsize]
    rfl

/-- The match of a word list is the longest of its words that is next, with a word boundary
behind it if the list has one behind. That is so in tables in which case and white space count. -/
theorem matches_longest (hp : pool.Arises flags f) (hcase : flags.ignoreCase = false)
    (hverbose : flags.verbose = false) (hwords : words ≠ [])
    (hback : back = [] ∨ back = "\\b".toList) :
    ∃ p m, pattern words [] back = .ok p ∧ f.expand p = .ok p ∧
      (∃ slot q, pool.compile p = .ok (⟨slot, m⟩, q)) ∧
      ∀ text pos place, text.at? pos = some place →
        (∀ found, m.matchAt? text pos = some found ↔
          ∃ w, IsLongest words back place w ∧ found = ⟨⟨pos, pos + w.size⟩, []⟩) ∧
        (m.matchAt? text pos = none ↔ ∀ w ∈ words, ¬ Fits back place w) := by
  obtain ⟨hexpand, hcompile⟩ := compile_pooled hp hwords hback
  refine ⟨_, _, pattern_eq_ok hwords back, hexpand, hcompile, fun text pos place hplace => ?_⟩
  have hplain := matchAt?_plain back hcase hverbose hwords hplace
  refine ⟨fun found => ⟨fun hfound => ?_, ?_⟩, ?_⟩
  · rw [hplain] at hfound
    obtain ⟨q, hq, -⟩ := Option.map_eq_some_iff.mp hfound
    obtain ⟨w, hw, -⟩ := firstAlong_longest hq
    have hmatch := matchAt?_longest hcase hverbose hwords hplace hw
    rw [hplain, hfound] at hmatch
    exact ⟨w, hw, Option.some.inj hmatch⟩
  · rintro ⟨w, hw, rfl⟩
    exact matchAt?_longest hcase hverbose hwords hplace hw
  · rw [hplain, Option.map_eq_none_iff]
    exact firstAlong_none

/-- Where the longer one of two words has no word boundary behind it, the shorter one matches. -/
theorem matches_longest_operator :
    let words := ["a".toList, [], "a+".toList]
    ∃ p m, pattern words [] "\\b".toList = .ok p ∧
      (∃ slot q, (Pool.new .standard .empty).compile p = .ok (⟨slot, m⟩, q)) ∧
      m.matchAt? "a+".toList 0 = some ⟨⟨0, 1⟩, []⟩ := by
  intro words
  have hnew : Pool.Arises .standard .empty (.new .standard .empty) := .new
  obtain ⟨p, m, hp, -, hcompile, hmatch⟩ :=
    matches_longest hnew rfl rfl (show words ≠ [] by decide) (.inr rfl)
  have hfits : Fits "\\b".toList (.ofText "a+".toList) "a".toList :=
    ⟨⟨some 'a', 1, ['+']⟩, ⟨rfl, rfl, rfl⟩, fun _ => by decide +kernel⟩
  have hlonger : ¬ Fits "\\b".toList (.ofText "a+".toList) "a+".toList := by
    rintro ⟨d, hd, hbehind⟩
    rw [hd.unique (e := ⟨some '+', 2, []⟩) ⟨rfl, rfl, rfl⟩] at hbehind
    exact absurd (hbehind (by decide)) (by decide +kernel)
  have hlongest : IsLongest words "\\b".toList (.ofText "a+".toList) "a".toList := by
    refine ⟨by decide, hfits, ?_⟩
    simp only [words, List.forall_mem_cons]
    exact ⟨fun _ => Nat.le_refl _, fun _ => Nat.zero_le _, fun h => absurd h hlonger, nofun⟩
  exact ⟨p, m, hp, hcompile, ((hmatch "a+".toList 0 _ rfl).1 _).mpr ⟨_, hlongest, rfl⟩⟩

/-! ## Verbose mode -/

theorem visible_solid (h : ∀ c ∈ word, isBlank c = false) : m.visible word = word := by
  have hkeep : word.filter (!isBlank ·) = word :=
    List.filter_eq_self.mpr fun c hc => by rw [h c hc, Bool.not_false]
  rw [Mode.visible, hkeep, ite_self]

theorem visible_ne (h : m.verbose = true) (hblank : ∃ c ∈ word, isBlank c = true) :
    m.visible w ≠ word := by
  rintro rfl
  obtain ⟨c, hc, hblank⟩ := hblank
  rw [Mode.visible, if_pos h] at hc
  have hsolid := (List.mem_filter.mp hc).2
  rw [hblank] at hsolid
  cases hsolid

/-- Where no word has white space in it, verbose mode changes nothing. -/
theorem matchAt?_solid (h : ∀ w ∈ words, ∀ c ∈ w, isBlank c = false) (text : Text) (pos : Nat) :
    (matcher flags words []).matchAt? text pos =
      (matcher { flags with verbose := false } words []).matchAt? text pos := by
  have hvisible (m : Mode) : (arrange words).map m.visible = arrange words :=
    (List.map_congr_left fun w hw => visible_solid (h w (mem_arrange.mp hw))).trans (List.map_id _)
  simp only [matcher, hvisible]
  rfl

theorem isLongest_self (h : w ∈ words) : IsLongest words [] (.ofText w) w where
  mem := h
  fits := ⟨_, Cursor.ofText_passes w, fun h => absurd rfl h⟩
  longest := by
    rintro v - ⟨d, hd, -⟩
    have hrest : w = v ++ d.rest := hd.rest
    rw [hrest, Text.size_append]
    exact Nat.le_add_right _ _

/-- Where a word has white space in it, its match in verbose mode is not all of it. -/
theorem matchAt?_blank (hcase : flags.ignoreCase = false) (hverbose : flags.verbose = true)
    (h : words ≠ []) (hblank : ∃ c ∈ w, isBlank c = true) :
    (matcher flags words []).matchAt? w 0 ≠ some ⟨⟨0, w.size⟩, []⟩ := by
  intro hmatch
  rw [matchAt?_matcher hcase h (Text.at?_zero w)] at hmatch
  obtain ⟨q, hq, hfound⟩ := Option.map_eq_some_iff.mp hmatch
  obtain ⟨front, t, after, hwords, hpass, -⟩ := Program.firstAlong_eq_some hq
  obtain ⟨v, -, rfl⟩ := List.mem_map.mp (hwords ▸ List.mem_append_right front List.mem_cons_self)
  have hpos : q.place.pos = w.size := by
    injection hfound with hwhole
    injection hwhole
  exact visible_ne hverbose hblank (hpass.eq_of_pos (Cursor.ofText_passes w) hpos).1

variable {pool' : Pool} {f' : Fragments}

/-- In verbose mode a word list matches as without it if there is no white space in its words. A
word with white space in it does not match where it stands, at least where case counts. -/
theorem verbose_matches (hp : pool.Arises flags f)
    (hp' : pool'.Arises { flags with verbose := false } f') (hverbose : flags.verbose = true)
    (hwords : words ≠ []) :
    ∃ p m m', pattern words [] [] = .ok p ∧
      (∃ slot q, pool.compile p = .ok (⟨slot, m⟩, q)) ∧
      (∃ slot q, pool'.compile p = .ok (⟨slot, m'⟩, q)) ∧
      ((∀ w ∈ words, ∀ c ∈ w, isBlank c = false) →
        ∀ text pos, m.matchAt? text pos = m'.matchAt? text pos) ∧
      (flags.ignoreCase = false → ∀ w ∈ words, (∃ c ∈ w, isBlank c = true) →
        m'.matchAt? w 0 = some ⟨⟨0, w.size⟩, []⟩ ∧ m.matchAt? w 0 ≠ some ⟨⟨0, w.size⟩, []⟩) := by
  refine ⟨_, _, _, pattern_eq_ok hwords [], (compile_pooled hp hwords (.inl rfl)).2,
    (compile_pooled hp' hwords (.inl rfl)).2, matchAt?_solid, fun hcase w hw hblank => ⟨?_, ?_⟩⟩
  · rw [← Nat.zero_add w.size]
    refine matchAt?_longest ?_ rfl hwords (Text.at?_zero w) (isLongest_self hw)
    exact hcase
  · exact matchAt?_blank hcase hverbose hwords hblank

/-- A comment sign does not count as one in a word. -/
theorem verbose_matches_sign :
    let flags : PatternFlags := { PatternFlags.standard with verbose := true }
    let words := ["a#b".toList, "c".toList]
    ∃ p m m', pattern words [] [] = .ok p ∧
      (∃ slot q, (Pool.new flags .empty).compile p = .ok (⟨slot, m⟩, q)) ∧
      (∃ slot q, (Pool.new .standard .empty).compile p = .ok (⟨slot, m'⟩, q)) ∧
      ∀ text pos, m.matchAt? text pos = m'.matchAt? text pos := by
  intro flags words
  have hnew : Pool.Arises flags .empty (.new flags .empty) := .new
  have hnew' : Pool.Arises .standard .empty (.new .standard .empty) := .new
  obtain ⟨p, m, m', hp, hm, hm', hsolid, -⟩ :=
    verbose_matches hnew hnew' rfl (show words ≠ [] by decide)
  have hblank : ∀ w ∈ words, w.all (!isBlank ·) = true := by decide +kernel
  refine ⟨p, m, m', hp, hm, hm', hsolid fun w hw c hc => ?_⟩
  simpa using List.all_eq_true.mp (hblank w hw) c hc

/-- The word of the list is found as it is written, but not in verbose mode. -/
theorem not_verbose_matches_blank :
    let matchOf (flags : PatternFlags) := do
      let p ← pattern ["a b".toList] [] []
      let m ← Matcher.compile p flags
      return m.matchAt? "a b".toList 0
    matchOf .standard = .ok (some ⟨⟨0, 3⟩, []⟩) ∧
      matchOf { PatternFlags.standard with verbose := true } = .ok none := by
  decide +kernel

end TableLexer.WordList
