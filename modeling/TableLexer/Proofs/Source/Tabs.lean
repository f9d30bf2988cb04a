import TableLexer.Proofs.Source

/-!
# Tab stops

Tabs are expanded in one pass with a counter, which goes up by the blanks that a tab becomes and
back to zero at a line feed. What it counts can be seen in the text that has been written so far:
the counter is the number of characters after its last line feed. So a tab becomes blanks up to
the next stop in the expanded text, and no line matters to another one.

Results:
1. `nextStop_tabWidth`, `NextStop.unique`: the stop that a tab leads to is the next one.
2. `columnAfter_eq_column`: the counter is the column in the expanded text.
3. `expandTabs_stops`: the expanded text is the only one in which tabs lead to their stops, and
   lines are expanded each by itself.
-/

namespace TableLexer

namespace Text

variable {size : Nat} {text out : Text}

/-! ## Columns -/

/-- The column behind a text: the number of characters after its last line feed. -/
def column (text : Text) : Nat := (text.reverse.takeWhile (· ≠ '\n')).length

theorem column_newline (text : Text) : column (text ++ ['\n']) = 0 := by
  simp [column]

theorem column_snoc {c : Char} (hc : c ≠ '\n') : column (text ++ [c]) = column text + 1 := by
  simp [column, hc]

theorem column_blanks (text : Text) (width : Nat) :
    column (text ++ List.replicate width ' ') = column text + width := by
  induction width with
  | zero => simp
  | succ width ih =>
    rw [List.replicate_succ', ← List.append_assoc, column_snoc (by decide), ih, Nat.add_assoc]

/-! ## Stops -/

/-- The least multiple of the size beyond a column. -/
structure NextStop (size column stop : Nat) : Prop where
  lt : column < stop
  dvd : size ∣ stop
  least : ∀ other, column < other → size ∣ other → stop ≤ other

theorem NextStop.unique {column stop stop' : Nat} (h : NextStop size column stop)
    (h' : NextStop size column stop') : stop = stop' :=
  Nat.le_antisymm (h.least stop' h'.lt h'.dvd) (h'.least stop h.lt h.dvd)

theorem add_tabWidth (h : 0 < size) (column : Nat) :
    column + tabWidth size column = size * (column / size + 1) := by
  have hdiv := Nat.div_add_mod column size
  have hmod := Nat.mod_lt column h
  rw [tabWidth, Nat.mul_succ]
  omega

theorem nextStop_tabWidth (h : 0 < size) (column : Nat) :
    NextStop size column (column + tabWidth size column) where
  lt := Nat.lt_add_of_pos_right (tabWidth_pos h column)
  dvd := by
    rw [add_tabWidth h]
    exact Nat.dvd_mul_right _ _
  least := by
    rintro _ hlt ⟨rows, rfl⟩
    rw [add_tabWidth h]
    exact Nat.mul_le_mul_left size (Nat.div_lt_of_lt_mul hlt)

/-- The second text is the first one with its tabs replaced, each by blanks up to the next stop. -/
inductive Tabbed (size : Nat) : Text → Text → Prop
  | nil : Tabbed size [] []
  /-- Columns are those of the text with the tabs replaced. -/
  | tab {text out : Text} {width : Nat} (h : Tabbed size text out) (hpos : 1 ≤ width)
      (hle : width ≤ size)
      (hstop : NextStop size out.column (column (out ++ List.replicate width ' '))) :
      Tabbed size (text ++ ['\t']) (out ++ List.replicate width ' ')
  | keep {text out : Text} {c : Char} (h : Tabbed size text out) (hc : c ≠ '\t') :
      Tabbed size (text ++ [c]) (out ++ [c])

/-! ## The counter -/

theorem columnAfter_append {column : Nat} (a b : Text) :
    columnAfter size column (a ++ b) = columnAfter size (columnAfter size column a) b := by
  fun_induction columnAfter size column a with
  | case1 column => rfl
  | case2 column rest ih => simp [columnAfter, ih]
  | case3 column rest h ih => simp [columnAfter, ih]
  | case4 column c rest ht hn ih => simp [columnAfter, ht, hn, ih]

theorem expandTabs_tab (size : Nat) (text : Text) :
    expandTabs size (text ++ ['\t']) = expandTabs size text ++
      List.replicate (tabWidth size (columnAfter size 0 text)) ' ' := by
  simp [expandTabs, expandTabsFrom_append, expandTabsFrom]

theorem expandTabs_keep {c : Char} (hc : c ≠ '\t') :
    expandTabs size (text ++ [c]) = expandTabs size text ++ [c] := by
  simp [expandTabs, expandTabsFrom_append, expandTabsFrom, hc]

/-- The counter is the column behind what has been written so far. -/
theorem columnAfter_eq_column (size : Nat) (text : Text) :
    columnAfter size 0 text = column (expandTabs size text) := by
  induction text using List.reverseRecOn with
  | nil => rfl
  | append_singleton text c ih =>
    rw [columnAfter_append, ih]
    by_cases ht : c = '\t'
    · subst ht
      rw [expandTabs_tab, column_blanks, ih]
      rfl
    · rw [expandTabs_keep ht]
      by_cases hn : c = '\n'
      · subst hn
        rw [column_newline]
        rfl
      · simp [columnAfter, ht, hn, column_snoc hn]

/-! ## Expanded texts -/

theorem tabbed_expandTabs (h : 0 < size) (text : Text) : Tabbed size text (expandTabs size text) := by
  induction text using List.reverseRecOn with
  | nil => exact .nil
  | append_singleton text c ih =>
    by_cases ht : c = '\t'
    · subst ht
      rw [expandTabs_tab]
      refine .tab ih (tabWidth_pos h _) (Nat.sub_le _ _) ?_
      rw [column_blanks, ← columnAfter_eq_column]
      exact nextStop_tabWidth h _
    · rw [expandTabs_keep ht]
      exact .keep ih ht

theorem Tabbed.eq (h : 0 < size) (htabbed : Tabbed size text out) : out = expandTabs size text := by
  induction htabbed with
  | nil => rfl
  | @tab text out width _ _ _ hstop ih =>
    rw [column_blanks] at hstop
    have hnext := nextStop_tabWidth h out.column
    have hwidth : width = tabWidth size out.column := Nat.add_left_cancel (hstop.unique hnext)
    rw [expandTabs_tab, columnAfter_eq_column, ← ih, ← hwidth]
  | keep _ hc ih => rw [expandTabs_keep hc, ← ih]

theorem expandTabs_lines (size : Nat) (a b : Text) :
    expandTabs size (a ++ '\n' :: b) = expandTabs size a ++ '\n' :: expandTabs size b := by
  simp [expandTabs, expandTabsFrom_append, expandTabsFrom]

/-- Expanding tabs is replacing each of them by blanks up to the next tab stop, where columns are
counted from the last line feed of what has been written. So lines are expanded each by itself. -/
theorem expandTabs_stops (h : 0 < size) :
    (∀ text out, Tabbed size text out ↔ out = expandTabs size text) ∧
      ∀ a b, expandTabs size (a ++ '\n' :: b) = expandTabs size a ++ '\n' :: expandTabs size b := by
  refine ⟨fun text out => ⟨Tabbed.eq h, ?_⟩, expandTabs_lines size⟩
  rintro rfl
  exact tabbed_expandTabs h text

/-- A tab at a stop leads to the one after it, and a character of two bytes takes one column. -/
theorem expandTabs_stops_accented :
    0 < 4 ∧ Tabbed 4 "\taé\tbcde\tf\n\tx".toList "    aé  bcde    f\n    x".toList ∧
      expandTabs 4 ("bcde\tf".toList ++ '\n' :: "é\tx".toList)
        = "bcde    f".toList ++ '\n' :: "é   x".toList := by
  obtain ⟨htabbed, hlines⟩ := expandTabs_stops (show 0 < 4 by decide)
  refine ⟨by decide, (htabbed _ _).mpr (by decide +kernel), ?_⟩
  rw [hlines]
  decide +kernel

end Text

end TableLexer
