import Mathlib.Data.Char
import Mathlib.Data.List.Lex
import Mathlib.Data.List.Sort
import Mathlib.Data.Prod.Lex
import TableLexer.Pattern.WordList

/-!
# Word lists as sets

The pattern of a list of words says which words are in the list, and nothing else. Words are put
in order of one linear order, each once, so neither their order in the list nor how often they
occur can be seen. In the pattern no bar stands unescaped but between two words, so the words can
be read off, whatever characters they have.

Results:
1. `arrange_eq_iff`: lists are arranged alike exactly if they have the same words.
2. `join_escape_injective`: the words can be read off what is written of them.
3. `pattern_eq_iff`: so lists have one pattern exactly if they have the same words.
-/

namespace TableLexer.WordList

variable {word v w : Text} {vs ws : List Text} {c : Char}

/-! ## The order of words -/

/-- The place of a word in the order of a pattern. Larger words come first. -/
def rank (w : Text) : ℕᵒᵈ ×ₗ Text := toLex (OrderDual.toDual w.size, w)

theorem rank_injective : Function.Injective rank := fun _ _ h => congrArg (·.2) (toLex.injective h)

theorem precedes_iff : precedes v w = true ↔ rank v < rank w := by
  rw [precedes, Bool.or_eq_true, Bool.and_eq_true, decide_eq_true_eq, beq_iff_eq,
    List.lex_eq_true_iff_lt, Prod.Lex.lt_iff]
  rfl

/-- The words are in the order of a pattern, each once. -/
def Arranged (ws : List Text) : Prop := ws.Pairwise (rank · < rank ·)

theorem Arranged.insert (h : Arranged ws) : Arranged (insert word ws) := by
  induction ws with
  | nil => exact List.pairwise_singleton _ _
  | cons v ws ih =>
    obtain ⟨hv, hws⟩ := List.pairwise_cons.mp h
    rw [WordList.insert]
    split
    · exact h
    split
    · next hprecedes =>
      have hlt := precedes_iff.mp hprecedes
      exact List.pairwise_cons.mpr ⟨List.forall_mem_cons.mpr
        ⟨hlt, fun u hu => hlt.trans (hv u hu)⟩, h⟩
    · next hne hprecedes =>
      refine List.pairwise_cons.mpr ⟨fun u hu => ?_, ih hws⟩
      rcases mem_insert.mp hu with rfl | hu
      · have hrank : rank v ≠ rank u := fun heq => hne (rank_injective heq).symm
        exact lt_of_le_of_ne (not_lt.mp fun hlt => hprecedes (precedes_iff.mpr hlt)) hrank
      · exact hv u hu

theorem arranged_arrange (words : List Text) : Arranged (arrange words) := by
  induction words with
  | nil => exact .nil
  | cons w words ih => exact ih.insert

/-- Arranging forgets everything about a list but which words it has. -/
theorem arrange_eq_iff : arrange vs = arrange ws ↔ ∀ w, w ∈ vs ↔ w ∈ ws := by
  constructor
  · intro h w
    rw [← mem_arrange, h, mem_arrange]
  · intro h
    have hmem : ∀ w, w ∈ arrange vs ↔ w ∈ arrange ws := fun w => by
      rw [mem_arrange, mem_arrange, h]
    have hasymm : Std.Antisymm fun v w => rank v < rank w := ⟨fun _ _ h h' => absurd h' h.asymm⟩
    have hirrefl : Std.Irrefl fun v w => rank v < rank w := ⟨fun _ => lt_irrefl _⟩
    exact (arranged_arrange vs).eq_of_mem_iff (arranged_arrange ws) hmem

/-! ## Words between bars -/

theorem escape_cons (c : Char) (word : Text) :
    escape (c :: word) = (if Regex.Escape.isMeta c then ['\\', c] else [c]) ++ escape word :=
  List.flatMap_cons

/-- The words between the bars that are not escaped, without the backslashes that escape. -/
def readWords : Text → List Text
  | [] => [[]]
  | '|' :: rest => [] :: readWords rest
  | '\\' :: c :: rest => (readWords rest).modifyHead (c :: ·)
  | c :: rest => (readWords rest).modifyHead (c :: ·)

/-- What is written of a word is read as the word. -/
theorem readWords_escape (word rest : Text) :
    readWords (escape word ++ rest) = (readWords rest).modifyHead (word ++ ·) := by
  induction word with
  | nil => exact (congrFun List.modifyHead_id _).symm
  | cons c word ih =>
    have hcons : (readWords (escape word ++ rest)).modifyHead (c :: ·) =
        (readWords rest).modifyHead (c :: word ++ ·) := by
      rw [ih, List.modifyHead_modifyHead]
      rfl
    rw [escape_cons, List.append_assoc, ← hcons]
    split
    · rfl
    · next hmeta =>
      rw [List.singleton_append, readWords]
      · rintro rfl
        exact hmeta (by decide)
      · rintro d rest' rfl -
        exact hmeta (by decide)

theorem readWords_join (h : ws ≠ []) : readWords (join ['|'] (ws.map escape)) = ws := by
  induction ws with
  | nil => exact absurd rfl h
  | cons w ws ih =>
    cases ws with
    | nil =>
      have hread := readWords_escape w []
      rw [List.append_nil] at hread
      rw [List.map_singleton, join, hread, readWords, List.modifyHead_cons, List.append_nil]
    | cons v ws =>
      have hjoin : join ['|'] ((w :: v :: ws).map escape) =
          escape w ++ ['|'] ++ join ['|'] ((v :: ws).map escape) := rfl
      rw [hjoin, List.append_assoc, readWords_escape, List.singleton_append, readWords,
        ih (List.cons_ne_nil v ws), List.modifyHead_cons, List.append_nil]

/-- What is written of the words tells all of them and their order. -/
theorem join_escape_injective (hvs : vs ≠ []) (hws : ws ≠ [])
    (h : join ['|'] (vs.map escape) = join ['|'] (ws.map escape)) : vs = ws := by
  rw [← readWords_join hvs, h, readWords_join hws]

/-! ## Patterns -/

theorem arrange_ne_nil (h : ws ≠ []) : arrange ws ≠ [] := by
  obtain ⟨w, hw⟩ := List.exists_mem_of_ne_nil ws h
  exact List.ne_nil_of_mem (mem_arrange.mpr hw)

/-- Two lists of words, none of them empty, have patterns, and between the same two patterns these
are equal exactly if the lists have the same words, in whatever order and however often. -/
theorem pattern_eq_iff (front back : Text) (hvs : vs ≠ []) (hws : ws ≠ []) :
    ∃ p q, pattern vs front back = .ok p ∧ pattern ws front back = .ok q ∧
      (p = q ↔ ∀ w, w ∈ vs ↔ w ∈ ws) := by
  refine ⟨_, _, if_neg (by simpa using hvs), if_neg (by simpa using hws), ?_⟩
  rw [← arrange_eq_iff]
  constructor
  · intro h
    have hjoin := List.append_cancel_left (List.append_cancel_right h)
    exact join_escape_injective (arrange_ne_nil hvs) (arrange_ne_nil hws) hjoin
  · intro h
    rw [h]

/-- The same words twice, with bars and backslashes in them, and other words that look like them. -/
theorem pattern_eq_iff_bars :
    (∃ p, pattern ["|".toList, [], "\\".toList, "|".toList] "a".toList [] = .ok p ∧
      pattern ["\\".toList, "|".toList, []] "a".toList [] = .ok p) ∧
    ∃ p q, pattern ["\\".toList, "|".toList, []] "a".toList [] = .ok p ∧
      pattern ["\\|".toList, []] "a".toList [] = .ok q ∧ p ≠ q := by
  constructor
  · obtain ⟨p, q, hp, hq, hiff⟩ := pattern_eq_iff "a".toList []
      (show ["|".toList, [], "\\".toList, "|".toList] ≠ [] by decide)
      (show ["\\".toList, "|".toList, []] ≠ [] by decide)
    have hsame : p = q := hiff.mpr fun w => by
      simp only [List.mem_cons, List.not_mem_nil]
      tauto
    exact ⟨p, hp, hsame ▸ hq⟩
  · obtain ⟨p, q, hp, hq, hiff⟩ := pattern_eq_iff "a".toList []
      (show ["\\".toList, "|".toList, []] ≠ [] by decide) (show ["\\|".toList, []] ≠ [] by decide)
    exact ⟨p, q, hp, hq, fun h => absurd ((hiff.mp h "|".toList).mp (by decide)) (by decide)⟩

end TableLexer.WordList
