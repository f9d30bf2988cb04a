import TableLexer.Proofs.Source

/-!
# Prepared texts are in normal form and keep their content

What a source says is in its characters that are not white space. Each step of preparing it adds,
removes or exchanges white space alone: line feeds and blanks are, carriage returns and tabs are,
and so is what is trimmed at the ends. So the other characters come through all of the steps, in
their order, and the text has the form that the options ask for.

Results:
1. `content_scanNewlines`, `content_trimBy`, `content_expandTabsFrom`, `content_terminate`: the
   steps keep the content.
2. `Spaced.terminate_eq`: a text that has been trimmed is terminated by one line feed.
3. `prepare_normal`: a prepared text is in normal form and has the content of its source.
-/

namespace TableLexer

namespace Text

variable {p : Char → Bool} {text : Text}

/-! ## Content -/

/-- The characters that are not white space. -/
def content (text : Text) : Text := text.filter fun c => !isBlank c

@[simp]
theorem content_append (a b : Text) : content (a ++ b) = content a ++ content b :=
  List.filter_append a b

@[simp]
theorem content_cons (c : Char) (rest : Text) :
    content (c :: rest) = if isBlank c then content rest else c :: content rest := by
  by_cases hc : isBlank c = true <;> simp [content, hc]

theorem content_eq_nil (h : ∀ c ∈ text, isBlank c = true) : content text = [] :=
  List.filter_eq_nil_iff.mpr fun c hc => by simp [h c hc]

/-! ## Steps that keep the content -/

theorem content_scanNewlines (text : Text) : content text.scanNewlines = content text := by
  obtain ⟨hreturn, hnewline, -, -⟩ := isBlank_layout
  fun_induction scanNewlines text with
  | case1 => rfl
  | case2 rest ih => simp [hreturn, hnewline, ih]
  | case3 rest _ ih => simp [hreturn, hnewline, ih]
  | case4 c rest _ hc ih => simp [ih]

theorem content_trimBy (h : ∀ c, p c = true → isBlank c = true) (text : Text) :
    content (text.trimBy p) = content text := by
  have hfront : content (text.takeWhile p) = [] :=
    content_eq_nil fun c hc => h c (List.mem_takeWhile_imp hc)
  have hback : content ((text.dropWhile p).reverse.takeWhile p).reverse = [] :=
    content_eq_nil fun c hc => h c (List.mem_takeWhile_imp (List.mem_reverse.mp hc))
  conv_rhs => rw [trimBy_append p text]
  rw [content_append, content_append, hfront, hback, List.nil_append, List.append_nil]

theorem content_expandTabsFrom (size column : Nat) (text : Text) :
    content (expandTabsFrom size column text) = content text := by
  obtain ⟨-, -, htab, hblank⟩ := isBlank_layout
  fun_induction expandTabsFrom size column text with
  | case1 => rfl
  | case2 column rest ih =>
    have hnone : content (List.replicate (tabWidth size column) ' ') = [] :=
      content_eq_nil fun c hc => by rwa [List.eq_of_mem_replicate hc]
    simp [hnone, htab, ih]
  | case3 column rest _ ih => simp [ih]
  | case4 column c rest _ _ ih => simp [ih]

theorem content_terminate (text : Text) : content text.terminate = content text := by
  obtain ⟨-, hnewline, -, -⟩ := isBlank_layout
  unfold terminate
  split
  · rfl
  · simp [content, hnewline]

end Text

namespace SourceOptions

variable {o : SourceOptions} {text : Text}

theorem isBlank_of_strips {c : Char} (h : o.strips c = true) : isBlank c = true := by
  unfold strips at h
  split at h
  · exact h
  · obtain ⟨-, hnewline⟩ := Bool.and_eq_true_iff.mp h
    rw [of_decide_eq_true hnewline]
    exact Text.isBlank_layout.2.1

theorem content_strip (o : SourceOptions) (text : Text) : (o.strip text).content = text.content := by
  rw [strip_eq]
  exact Text.content_trimBy (fun _ => isBlank_of_strips) text

theorem content_space (o : SourceOptions) (text : Text) : (o.space text).content = text.content := by
  unfold space
  split
  · exact Text.content_expandTabsFrom _ _ text
  · rfl

theorem content_finish (o : SourceOptions) (text : Text) : (o.finish text).content = text.content := by
  unfold finish
  split
  · exact text.content_terminate
  · rfl

/-! ## Normal form -/

/-- The text has the form that the options ask for. -/
structure Normal (o : SourceOptions) (text : Text) : Prop where
  returns : '\r' ∉ text
  tabs : 0 < o.tabSize → '\t' ∉ text
  terminated : o.ensureNewline = true → text.getLast? = some '\n'
  /-- Of a text whose ends are trimmed, nothing but the line feed that terminates it is left. -/
  single : o.ensureNewline = true → o.stripAll = true ∨ o.stripNewlines = true →
    ∃ front : Text, text = front ++ ['\n'] ∧ front.getLast? ≠ some '\n'

theorem strips_newline_iff (o : SourceOptions) :
    o.strips '\n' = true ↔ o.stripAll = true ∨ o.stripNewlines = true := by
  obtain ⟨-, hnewline, -, -⟩ := Text.isBlank_layout
  unfold strips
  by_cases hall : o.stripAll = true <;> simp [hall, hnewline]

/-- A text without line feeds at its end is terminated by one. -/
theorem Spaced.terminate_eq (h : o.Spaced text) (hn : o.strips '\n' = true) :
    text.getLast? ≠ some '\n' ∧ text.terminate = text ++ ['\n'] := by
  have hlast : text.getLast? ≠ some '\n' := by
    intro hlast
    have hnot := h.trimmed.last '\n' hlast
    rw [hn] at hnot
    cases hnot
  exact ⟨hlast, if_neg hlast⟩

theorem Spaced.normal (h : o.Spaced text) : o.Normal (o.finish text) where
  returns := not_mem_finish h.returns (by decide)
  tabs hsize := not_mem_finish (h.tabs hsize) (by decide)
  terminated hensure := by
    rw [finish, if_pos hensure]
    exact text.getLast?_terminate
  single hensure hstrip := by
    obtain ⟨hlast, hterminate⟩ := h.terminate_eq (o.strips_newline_iff.mpr hstrip)
    rw [finish, if_pos hensure]
    exact ⟨text, hterminate, hlast⟩

/-- Whatever the options are, a prepared text is in normal form, and its characters that are not
white space are those of its source, in their order. -/
theorem prepare_normal (o : SourceOptions) (source : Text) :
    o.Normal (o.prepare source) ∧ (o.prepare source).content = source.content := by
  refine ⟨(o.spaced_space source).normal, ?_⟩
  calc (o.prepare source).content
    _ = (o.space (o.strip source.unifyNewlines)).content := o.content_finish _
    _ = (o.strip source.unifyNewlines).content := o.content_space _
    _ = source.unifyNewlines.content := o.content_strip _
    _ = source.content := by rw [Text.unifyNewlines_eq_scan, Text.content_scanNewlines]

/-- White space at the ends goes beyond ASCII, and a line between two returns is kept. -/
example : ({ standard with stripAll := true, tabSize := 4 } : SourceOptions).prepare
    "\u2003\r\na\tb\r\r\n\tc\u00a0\n\t".toList = "a   b\n\n    c\n".toList := by
  decide +kernel

end SourceOptions

end TableLexer
