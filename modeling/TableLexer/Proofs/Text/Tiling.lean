import TableLexer.Proofs.Text.Passage

/-!
# Tilings of a text

Pieces of a text, each with an offset, tile the text when they lie end to end, none
of them is empty and together they are the text. The pieces may be of any type: what
counts is where a piece starts (`start`) and what it holds (`text`).

Results:
1. `Tiles.append`, `Tiles.flatMap`: tilings of neighbours make up a tiling, and so do
   tilings of the pieces of a tiling.
2. `Tiles.flatten`: the texts of the pieces, in order, are the text.
-/

namespace TableLexer

variable {α β : Type} {start : α → Nat} {text : α → Text} {start' : β → Nat} {text' : β → Text}

/-- The pieces tile the text `t` that begins at the offset `pos`. -/
def Tiles (start : α → Nat) (text : α → Text) : Nat → Text → List α → Prop
  | _, t, [] => t = []
  | pos, t, a :: rest =>
      start a = pos ∧ text a ≠ [] ∧
        ∃ u, t = text a ++ u ∧ Tiles start text (pos + (text a).size) u rest

namespace Tiles

variable {pos : Nat} {t u : Text} {l m : List α} {a : α}

theorem nil : Tiles start text pos [] [] := rfl

theorem single (ht : text a ≠ []) : Tiles start text (start a) (text a) [a] :=
  ⟨rfl, ht, [], (List.append_nil _).symm, rfl⟩

theorem append (h : Tiles start text pos t l) (h' : Tiles start text (pos + t.size) u m) :
    Tiles start text pos (t ++ u) (l ++ m) := by
  induction l generalizing pos t with
  | nil =>
    cases h
    simpa using h'
  | cons a l ih =>
    obtain ⟨hs, ht, v, rfl, hrest⟩ := h
    refine ⟨hs, ht, v ++ u, by rw [List.append_assoc], ih hrest ?_⟩
    rwa [Nat.add_assoc, ← Text.size_append]

/-- The texts of the pieces, in order, are the text. -/
theorem flatten (h : Tiles start text pos t l) : (l.map text).flatten = t := by
  induction l generalizing pos t with
  | nil => exact (show t = [] from h).symm
  | cons a l ih =>
    obtain ⟨-, -, u, rfl, hrest⟩ := h
    rw [List.map_cons, List.flatten_cons, ih hrest]

theorem eq_nil_iff (h : Tiles start text pos t l) : l = [] ↔ t = [] := by
  cases l with
  | nil => exact ⟨fun _ => h, fun _ => rfl⟩
  | cons a l =>
    obtain ⟨-, ha, u, rfl, -⟩ := h
    simp [ha]

theorem length_le (h : Tiles start text pos t l) : l.length ≤ t.length := by
  induction l generalizing pos t with
  | nil => exact Nat.zero_le _
  | cons a l ih =>
    obtain ⟨-, ha, u, rfl, hrest⟩ := h
    have hle : l.length ≤ u.length := ih hrest
    have hpos : 0 < (text a).length := List.length_pos_iff.mpr ha
    rw [List.length_cons, List.length_append]
    omega

theorem le_start (h : Tiles start text pos t l) (ha : a ∈ l) : pos ≤ start a := by
  induction l generalizing pos t with
  | nil => cases ha
  | cons b l ih =>
    obtain ⟨hstart, -, u, rfl, hrest⟩ := h
    rcases List.mem_cons.mp ha with rfl | ha
    · exact Nat.le_of_eq hstart.symm
    · exact Nat.le_trans (Nat.le_add_right _ _) (ih hrest ha)

/-- Each piece is where it says that it starts. -/
theorem passes_of_mem {c d : Cursor} (h : Tiles start text c.pos t l) (ht : c.Passes t d)
    (ha : a ∈ l) : ∃ u e f, c.Passes u e ∧ e.pos = start a ∧ e.Passes (text a) f := by
  induction l generalizing c t with
  | nil => cases ha
  | cons b l ih =>
    obtain ⟨hstart, -, u, rfl, hrest⟩ := h
    obtain ⟨e, he, hed⟩ := ht.halve
    rcases List.mem_cons.mp ha with rfl | ha
    · exact ⟨[], c, e, .refl c, hstart.symm, he⟩
    · rw [← he.pos] at hrest
      obtain ⟨v, e', f, hv, he', hf⟩ := ih hrest hed ha
      exact ⟨text b ++ v, e', f, he.trans hv, he', hf⟩

/-- Where each piece of a tiling is tiled again, the small pieces tile the text. -/
theorem flatMap {f : α → List β} (h : Tiles start text pos t l)
    (hf : ∀ a ∈ l, text a ≠ [] → Tiles start' text' (start a) (text a) (f a)) :
    Tiles start' text' pos t (l.flatMap f) := by
  induction l generalizing pos t with
  | nil => exact h
  | cons a l ih =>
    obtain ⟨rfl, ha, u, rfl, hrest⟩ := h
    rw [List.flatMap_cons]
    exact (hf a List.mem_cons_self ha).append
      (ih hrest fun b hb => hf b (List.mem_cons_of_mem _ hb))

/-- A tiling moves along with its text. -/
theorem shift {f : α → β} {base : Nat} (hs : ∀ a, start' (f a) = base + start a)
    (ht : ∀ a, text' (f a) = text a) (h : Tiles start text pos t l) :
    Tiles start' text' (base + pos) t (l.map f) := by
  induction l generalizing pos t with
  | nil => exact h
  | cons a l ih =>
    obtain ⟨rfl, ha, u, rfl, hrest⟩ := h
    refine ⟨hs a, by rwa [ht], u, by rw [ht], ?_⟩
    rw [ht, Nat.add_assoc]
    exact ih hrest

end Tiles

end TableLexer
