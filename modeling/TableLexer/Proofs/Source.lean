import Mathlib.Data.List.DropRight
import TableLexer.Source

/-!
# Prepared texts stay as they are

Each step of preparing a text leaves something behind that the later ones do not take away:
there are no carriage returns any more, then nothing to trim at the ends, then no tabs, and at
last a line feed at the end. The line feed may be something to trim, but trimming takes it away
alone and it is put there again.

Results:
1. `unifyNewlines_eq_scan`: carriage returns are replaced as by one scan of the text.
2. `trimmedBy_trimBy`, `trimBy_eq_self`: trimming leaves nothing to trim.
3. `mem_expandTabsFrom`, `TrimmedBy.expandTabs`: expanding tabs makes blanks only, and none at an
   end that trimming has passed.
4. `prepare_stable`: a prepared text is not changed by preparing it, and how the lines of a
   source end is not seen.
-/

namespace TableLexer

namespace Text

variable {p : Char → Bool} {text : Text} {c : Char} {size column : Nat}

/-! ## Ends of lines -/

/-- The text with each end of a line replaced by a line feed, in one scan: a carriage return
together with the line feed after it, if there is one, and otherwise by itself. -/
def scanNewlines : Text → Text
  | [] => []
  | '\r' :: '\n' :: rest => '\n' :: scanNewlines rest
  | '\r' :: rest => '\n' :: scanNewlines rest
  | c :: rest => c :: scanNewlines rest

theorem not_mem_scanNewlines (text : Text) : '\r' ∉ text.scanNewlines := by
  fun_induction scanNewlines text with
  | case1 => exact List.not_mem_nil
  | case2 rest ih => simpa using ih
  | case3 rest _ ih => simpa using ih
  | case4 c rest _ hc ih => simpa [ih] using fun h => hc h.symm

theorem scanNewlines_eq_self (h : '\r' ∉ text) : text.scanNewlines = text := by
  fun_induction scanNewlines text with
  | case1 => rfl
  | case2 rest ih => simp at h
  | case3 rest _ ih => simp at h
  | case4 c rest _ hc ih => rw [ih fun hr => h (List.mem_cons_of_mem _ hr)]

/-- Two passes, first over pairs and then over what they have left, do what one scan does. -/
theorem replaceReturns_joinReturns (text : Text) :
    text.joinReturns.replaceReturns = text.scanNewlines := by
  fun_induction scanNewlines text with
  | case1 => rfl
  | case2 rest ih => simpa [joinReturns, replaceReturns] using ih
  | case3 rest hrest ih =>
    rw [joinReturns]
    · simpa [replaceReturns] using ih
    · exact fun rest' _ => hrest rest'
  | case4 c rest _ hc ih =>
    rw [joinReturns]
    · have hne : c ≠ '\r' := hc
      simpa [replaceReturns, hne] using ih
    · exact fun rest' h => absurd h hc

theorem unifyNewlines_eq_scan (text : Text) : text.unifyNewlines = text.scanNewlines := by
  rw [unifyNewlines]
  split
  · exact replaceReturns_joinReturns text
  · next h => exact (scanNewlines_eq_self h).symm

theorem not_mem_unifyNewlines (text : Text) : '\r' ∉ text.unifyNewlines := by
  rw [unifyNewlines_eq_scan]
  exact not_mem_scanNewlines text

theorem unifyNewlines_eq_self (h : '\r' ∉ text) : text.unifyNewlines = text := if_neg h

/-! ## Trimming -/

/-- What preparing a text exchanges is white space. -/
theorem isBlank_layout : isBlank '\r' = true ∧ isBlank '\n' = true ∧ isBlank '\t' = true ∧
    isBlank ' ' = true := by
  decide +kernel

/-- Neither the first nor the last character belongs to the class. -/
structure TrimmedBy (p : Char → Bool) (text : Text) : Prop where
  first : ∀ c ∈ text.head?, p c = false
  last : ∀ c ∈ text.getLast?, p c = false

theorem trimmedBy_trimBy (p : Char → Bool) (text : Text) : TrimmedBy p (text.trimBy p) where
  first c hc := by
    obtain ⟨rest, hrest⟩ := List.rdropWhile_prefix p (text.dropWhile p)
    have hhead : (text.dropWhile p).head? = some c := by
      rw [← hrest, List.head?_append, show (List.rdropWhile p _).head? = some c from hc]
      rfl
    have hnot := List.head?_dropWhile_not p text
    rwa [hhead] at hnot
  last c hc := by
    obtain ⟨hne, rfl⟩ := List.mem_getLast?_eq_getLast hc
    exact Bool.eq_false_iff.mpr (List.rdropWhile_last_not p (text.dropWhile p) hne)

namespace TrimmedBy

theorem trimEndBy_eq_self (h : TrimmedBy p text) : text.trimEndBy p = text := by
  refine List.rdropWhile_eq_self_iff.mpr fun hne => ?_
  rw [h.last _ (List.getLast_mem_getLast? hne)]
  exact Bool.false_ne_true

theorem trimBy_eq_self (h : TrimmedBy p text) : text.trimBy p = text := by
  cases text with
  | nil => rfl
  | cons first rest =>
    have hfirst : p first = false := h.first first rfl
    rw [trimBy, List.dropWhile_cons_of_neg (by simp [hfirst])]
    exact h.trimEndBy_eq_self

/-- A character of the class behind a trimmed text is trimmed away. -/
theorem trimBy_snoc (h : TrimmedBy p text) (hc : p c = true) : (text ++ [c]).trimBy p = text := by
  cases text with
  | nil => simp [trimBy, trimEndBy, hc]
  | cons first rest =>
    have hfirst : p first = false := h.first first rfl
    rw [trimBy, List.cons_append, List.dropWhile_cons_of_neg (by simp [hfirst]), ← List.cons_append]
    have hshort : trimEndBy p ((first :: rest) ++ [c]) = trimEndBy p (first :: rest) :=
      List.rdropWhile_concat_pos p _ c hc
    rw [hshort, h.trimEndBy_eq_self]

end TrimmedBy

/-! ## Tabs -/

/-- The column behind a text that begins in a column. -/
def columnAfter (size : Nat) : (column : Nat) → Text → Nat
  | column, [] => column
  | column, c :: rest =>
      if c = '\t' then columnAfter size (column + tabWidth size column) rest
      else if c = '\n' then columnAfter size 0 rest
      else columnAfter size (column + 1) rest

theorem expandTabsFrom_append (a b : Text) :
    expandTabsFrom size column (a ++ b)
      = expandTabsFrom size column a ++ expandTabsFrom size (columnAfter size column a) b := by
  fun_induction columnAfter size column a with
  | case1 column => rfl
  | case2 column rest ih => simp [expandTabsFrom, ih]
  | case3 column rest h ih => simp [expandTabsFrom, ih]
  | case4 column c rest ht hn ih => simp [expandTabsFrom, ht, hn, ih]

theorem tabWidth_pos (h : 0 < size) (column : Nat) : 0 < tabWidth size column :=
  Nat.sub_pos_of_lt (Nat.mod_lt column h)

/-- Expanding tabs puts only blanks into a text. -/
theorem mem_expandTabsFrom (h : c ∈ expandTabsFrom size column text) :
    c = ' ' ∨ (c ∈ text ∧ c ≠ '\t') := by
  fun_induction expandTabsFrom size column text with
  | case1 => cases h
  | case2 column rest ih =>
    rcases List.mem_append.mp h with h | h
    · exact .inl (List.eq_of_mem_replicate h)
    · exact (ih h).imp_right fun hc => ⟨List.mem_cons_of_mem _ hc.1, hc.2⟩
  | case3 column rest ht ih =>
    rcases List.mem_cons.mp h with rfl | h
    · exact .inr ⟨List.mem_cons_self, ht⟩
    · exact (ih h).imp_right fun hc => ⟨List.mem_cons_of_mem _ hc.1, hc.2⟩
  | case4 column c' rest ht hn ih =>
    rcases List.mem_cons.mp h with rfl | h
    · exact .inr ⟨List.mem_cons_self, ht⟩
    · exact (ih h).imp_right fun hc => ⟨List.mem_cons_of_mem _ hc.1, hc.2⟩

/-- What becomes of one character is not empty, and it passes where the character does if tabs
do not or blanks do. -/
theorem expandTabsFrom_single (column : Nat) (hsize : 0 < size) (hc : p c = false)
    (hp : p '\t' = true ∨ p ' ' = false) :
    expandTabsFrom size column [c] ≠ [] ∧ ∀ d ∈ expandTabsFrom size column [c], p d = false := by
  by_cases ht : c = '\t'
  · subst ht
    have hblank : p ' ' = false := hp.resolve_left (by simp [hc])
    have hpos := tabWidth_pos hsize column
    have hall : expandTabsFrom size column ['\t'] = List.replicate (tabWidth size column) ' ' := by
      simp [expandTabsFrom]
    rw [hall]
    refine ⟨fun hnil => Nat.ne_of_gt hpos (List.replicate_eq_nil_iff _ |>.mp hnil), fun d hd => ?_⟩
    rw [List.eq_of_mem_replicate hd]
    exact hblank
  · have hall : expandTabsFrom size column [c] = [c] := by simp [expandTabsFrom, ht]
    rw [hall]
    exact ⟨List.cons_ne_nil _ _, List.forall_mem_singleton.mpr hc⟩

/-- Expanding tabs keeps a text trimmed, if trimming goes beyond tabs or stops at blanks. -/
theorem TrimmedBy.expandTabsFrom (h : TrimmedBy p text) (hsize : 0 < size)
    (hp : p '\t' = true ∨ p ' ' = false) : TrimmedBy p (expandTabsFrom size column text) where
  first d hd := by
    cases text with
    | nil => cases hd
    | cons c rest =>
      obtain ⟨hne, hall⟩ := expandTabsFrom_single column hsize (h.first c rfl) hp
      rw [← List.singleton_append, expandTabsFrom_append, List.head?_append_of_ne_nil _ hne] at hd
      exact hall d (List.mem_of_mem_head? hd)
  last d hd := by
    rcases List.eq_nil_or_concat text with rfl | ⟨front, c, rfl⟩
    · cases hd
    · have hc : p c = false := h.last c (by simp)
      obtain ⟨hne, hall⟩ := expandTabsFrom_single (columnAfter size column front) hsize hc hp
      rw [List.concat_eq_append, expandTabsFrom_append, List.getLast?_append_of_ne_nil _ hne] at hd
      exact hall d (List.mem_of_getLast? hd)

/-! ## The end of the last line -/

theorem mem_terminate (h : c ∈ text.terminate) : c ∈ text ∨ c = '\n' := by
  unfold terminate at h
  split at h
  · exact .inl h
  · simpa using h

theorem getLast?_terminate (text : Text) : text.terminate.getLast? = some '\n' := by
  unfold terminate
  split
  · assumption
  · simp

theorem terminate_terminate (text : Text) : text.terminate.terminate = text.terminate :=
  if_pos (getLast?_terminate text)

end Text

namespace SourceOptions

variable {o : SourceOptions} {text : Text}

/-! ## Steps of preparation -/

/-- The characters that are trimmed at the ends. -/
def strips (o : SourceOptions) (c : Char) : Bool :=
  if o.stripAll then isBlank c else o.stripNewlines && c = '\n'

theorem strip_eq (o : SourceOptions) (text : Text) : o.strip text = text.trimBy o.strips := by
  unfold strip
  split
  · next hall =>
    have hstrips : o.strips = isBlank := by
      funext c
      simp [strips, hall]
    rw [hstrips, Text.trim]
  next hall =>
  split
  · next hnewlines =>
    have hstrips : o.strips = fun c => decide (c = '\n') := by
      funext c
      simp [strips, hall, hnewlines]
    rw [hstrips]
  · next hnewlines =>
    have hnone : ∀ c, o.strips c = false := by simp [strips, hall, hnewlines]
    have htrimmed : text.TrimmedBy o.strips := ⟨fun c _ => hnone c, fun c _ => hnone c⟩
    exact htrimmed.trimBy_eq_self.symm

/-- Trimming goes beyond tabs, or it stops at blanks. -/
theorem strips_tab (o : SourceOptions) : o.strips '\t' = true ∨ o.strips ' ' = false := by
  obtain ⟨-, -, htab, -⟩ := Text.isBlank_layout
  unfold strips
  by_cases hall : o.stripAll <;> simp [hall, htab]

/-- What trims anything trims line feeds. -/
theorem strips_newline {c : Char} (h : o.strips c = true) : o.strips '\n' = true := by
  obtain ⟨-, hnewline, -, -⟩ := Text.isBlank_layout
  unfold strips at h ⊢
  by_cases hall : o.stripAll <;> simp_all

/-- The text is as it is before its last line is terminated: there are no carriage returns in
it, no tabs unless they are kept, and nothing to trim at its ends. -/
structure Spaced (o : SourceOptions) (text : Text) : Prop where
  returns : '\r' ∉ text
  tabs : 0 < o.tabSize → '\t' ∉ text
  trimmed : text.TrimmedBy o.strips

theorem mem_of_mem_strip {c : Char} (h : c ∈ o.strip text) : c ∈ text := by
  rw [strip_eq] at h
  rw [Text.trimBy_append o.strips text]
  exact List.mem_append_right _ (List.mem_append_left _ h)

theorem mem_of_mem_space {c : Char} (h : c ∈ o.space text) : c = ' ' ∨ c ∈ text := by
  unfold space at h
  split at h
  · exact (Text.mem_expandTabsFrom h).imp_right And.left
  · exact .inr h

theorem space_eq_self (h : 0 < o.tabSize → '\t' ∉ text) : o.space text = text :=
  if_neg fun htab => h htab.1 htab.2

theorem spaced_space (o : SourceOptions) (source : Text) :
    o.Spaced (o.space (o.strip source.unifyNewlines)) where
  returns hmem := by
    have hunified := source.not_mem_unifyNewlines
    exact (mem_of_mem_space hmem).elim (by decide) fun h => hunified (mem_of_mem_strip h)
  tabs hsize hmem := by
    unfold space at hmem
    split at hmem
    · exact (Text.mem_expandTabsFrom hmem).elim (by decide) fun h => h.2 rfl
    · next htab => exact htab ⟨hsize, hmem⟩
  trimmed := by
    have htrimmed := Text.trimmedBy_trimBy o.strips source.unifyNewlines
    rw [← strip_eq] at htrimmed
    unfold space
    split
    · next hsize => exact htrimmed.expandTabsFrom hsize.1 o.strips_tab
    · exact htrimmed

theorem mem_finish {c : Char} (h : c ∈ o.finish text) : c ∈ text ∨ c = '\n' := by
  unfold finish at h
  split at h
  · exact Text.mem_terminate h
  · exact .inl h

theorem not_mem_finish {c : Char} (h : c ∉ text) (hc : c ≠ '\n') : c ∉ o.finish text :=
  fun hmem => (mem_finish hmem).elim h hc

theorem finish_finish (o : SourceOptions) (text : Text) : o.finish (o.finish text) = o.finish text := by
  unfold finish
  split
  · exact text.terminate_terminate
  · rfl

/-- What terminates the last line is trimmed away alone. -/
theorem Spaced.strip_finish (h : o.Spaced text) (hn : o.strips '\n' = true) :
    o.strip (o.finish text) = text := by
  rw [strip_eq]
  unfold finish Text.terminate
  split
  · split
    · exact h.trimmed.trimBy_eq_self
    · exact h.trimmed.trimBy_snoc hn
  · exact h.trimmed.trimBy_eq_self

/-- A text that has been prepared up to its last line is finished by preparing it once more. -/
theorem Spaced.prepare_finish (h : o.Spaced text) : o.prepare (o.finish text) = o.finish text := by
  have hreturns : '\r' ∉ o.finish text := not_mem_finish h.returns (by decide)
  have htabs : 0 < o.tabSize → '\t' ∉ o.finish text := fun hsize =>
    not_mem_finish (h.tabs hsize) (by decide)
  rw [prepare, Text.unifyNewlines_eq_self hreturns]
  by_cases hn : o.strips '\n' = true
  · rw [h.strip_finish hn, space_eq_self h.tabs]
  · have hnone : ∀ c, o.strips c = false := fun c => Bool.eq_false_iff.mpr (mt strips_newline hn)
    have htrimmed : (o.finish text).TrimmedBy o.strips := ⟨fun c _ => hnone c, fun c _ => hnone c⟩
    rw [strip_eq, htrimmed.trimBy_eq_self, space_eq_self htabs, finish_finish]

/-- A prepared text is not changed by preparing it with the same options. And how the lines of a
source end is not seen: the source is prepared like what one scan makes of it that writes a
carriage return with the line feed after it, and any other carriage return, as a line feed. -/
theorem prepare_stable (o : SourceOptions) (source : Text) :
    o.prepare (o.prepare source) = o.prepare source ∧
      o.prepare source = o.prepare source.scanNewlines := by
  refine ⟨(o.spaced_space source).prepare_finish, ?_⟩
  have hscan : source.scanNewlines.unifyNewlines = source.unifyNewlines := by
    rw [Text.unifyNewlines_eq_self source.not_mem_scanNewlines, Text.unifyNewlines_eq_scan]
  rw [prepare, prepare, hscan]

end SourceOptions

end TableLexer
