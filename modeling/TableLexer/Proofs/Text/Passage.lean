import TableLexer.Text

/-!
# Passages of a text

`c.Passes t d` says that the place `d` lies behind the text `t` that follows the
place `c`. Offsets are numbers of bytes, but a passage moves between characters, so
a place reached by one is never inside a character.

Results:
1. `Passes.eq_of_pos`: from one place, the offset of a later place determines it and
   the text in between.
2. `takeTo_passes`, `Passes.takeTo`: `takeTo` always makes a passage, and to the
   offset of a later place it makes exactly the passage to that place.
3. `slice?_eq_some_iff`: a slice is the text that is passed between two offsets.
-/

namespace TableLexer

namespace Text

theorem size_pos {t : Text} (h : t ≠ []) : 0 < t.size := by
  cases t with
  | nil => exact absurd rfl h
  | cons c t =>
    have hc : 0 < c.utf8Size := c.utf8Size_pos
    rw [size_cons]
    omega

theorem size_eq_zero_iff {t : Text} : t.size = 0 ↔ t = [] := by
  constructor
  · intro h
    by_cases ht : t = []
    · exact ht
    · have hpos : 0 < t.size := size_pos ht
      omega
  · rintro rfl
    rfl

end Text

namespace Cursor

/-! ## Definition -/

/-- The place `d` lies behind the text `t` that follows the place `c`. -/
structure Passes (c : Cursor) (t : Text) (d : Cursor) : Prop where
  rest : c.rest = t ++ d.rest
  pos : d.pos = c.pos + t.size
  before : d.before = t.getLast?.or c.before

variable {c d e : Cursor} {t u : Text} {stop : Nat}

/-! ## Passages compose -/

namespace Passes

theorem refl (c : Cursor) : c.Passes [] c := ⟨rfl, rfl, rfl⟩

theorem trans (h : c.Passes t d) (h' : d.Passes u e) : c.Passes (t ++ u) e where
  rest := by rw [h.rest, h'.rest, List.append_assoc]
  pos := by rw [h'.pos, h.pos, Text.size_append, Nat.add_assoc]
  before := by rw [h'.before, h.before, List.getLast?_append, Option.or_assoc]

theorem le (h : c.Passes t d) : c.pos ≤ d.pos := by
  rw [h.pos]
  exact Nat.le_add_right _ _

theorem lt (h : c.Passes t d) (ht : t ≠ []) : c.pos < d.pos := by
  have hpos : 0 < t.size := Text.size_pos ht
  rw [h.pos]
  omega

theorem eq_nil_of_pos (h : c.Passes t d) (hp : d.pos = c.pos) : t = [] := by
  rw [h.pos] at hp
  exact Text.size_eq_zero_iff.mp (by omega)

theorem eq_of_nil (h : c.Passes [] d) : d = c := by
  obtain ⟨before, pos, rest⟩ := d
  obtain ⟨hr, hp, hb⟩ := h
  cases c
  simp_all

theorem ne_nil_of_lt (h : c.Passes t d) (hlt : c.pos < d.pos) : t ≠ [] := by
  rintro rfl
  rw [h.eq_of_nil] at hlt
  exact Nat.lt_irrefl _ hlt

/-- The place behind a text is determined. -/
theorem unique (h : c.Passes t d) (h' : c.Passes t e) : d = e := by
  have hr : d.rest = e.rest := List.append_cancel_left (h.rest.symm.trans h'.rest)
  have hp : d.pos = e.pos := h.pos.trans h'.pos.symm
  have hb : d.before = e.before := h.before.trans h'.before.symm
  cases d
  cases e
  simp_all

/-- Of two places that can be reached from one place, the one with the smaller offset
comes first. If `u` were the longer text it would be longer by nothing. -/
theorem split (h : c.Passes t d) (h' : c.Passes u e) (hle : e.pos ≤ d.pos) :
    ∃ v, t = u ++ v ∧ e.Passes v d := by
  have hall : t ++ d.rest = u ++ e.rest := h.rest.symm.trans h'.rest
  have hsize : u.size ≤ t.size := by
    rw [h.pos, h'.pos] at hle
    omega
  rcases List.append_eq_append_iff.mp hall with ⟨v, hu, hd⟩ | ⟨v, ht, he⟩
  · have hv : v = [] := by
      rw [hu, Text.size_append] at hsize
      exact Text.size_eq_zero_iff.mp (by omega)
    subst hv
    rw [List.append_nil] at hu
    subst hu
    exact ⟨[], (List.append_nil u).symm, h.unique h' ▸ .refl d⟩
  · subst ht
    refine ⟨v, rfl, he, ?_, ?_⟩
    · rw [h.pos, h'.pos, Text.size_append, Nat.add_assoc]
    · rw [h.before, h'.before, List.getLast?_append, Option.or_assoc]

/-- A passage over two texts has a place between them. -/
theorem halve (h : c.Passes (t ++ u) d) : ∃ m, c.Passes t m ∧ m.Passes u d := by
  refine ⟨⟨t.getLast?.or c.before, c.pos + t.size, u ++ d.rest⟩, ⟨?_, rfl, rfl⟩, rfl, ?_, ?_⟩
  · rw [h.rest, List.append_assoc]
  · rw [h.pos, Text.size_append, Nat.add_assoc]
  · rw [h.before, List.getLast?_append, Option.or_assoc]

theorem eq_of_pos (h : c.Passes t d) (h' : c.Passes u e) (hp : d.pos = e.pos) :
    t = u ∧ d = e := by
  obtain ⟨v, rfl, hv⟩ := h.split h' (Nat.le_of_eq hp.symm)
  have hnil := hv.eq_nil_of_pos hp
  subst hnil
  exact ⟨List.append_nil u, hv.eq_of_nil⟩

end Passes

/-- The place `d` is the place `c` or lies behind it in the same text. -/
def Precedes (c d : Cursor) : Prop := ∃ t, c.Passes t d

namespace Precedes

theorem refl (c : Cursor) : c.Precedes c := ⟨[], .refl c⟩

theorem trans (h : c.Precedes d) (h' : d.Precedes e) : c.Precedes e := by
  obtain ⟨t, ht⟩ := h
  obtain ⟨u, hu⟩ := h'
  exact ⟨t ++ u, ht.trans hu⟩

theorem le (h : c.Precedes d) : c.pos ≤ d.pos := h.elim fun _ ht => ht.le

end Precedes

theorem passes_next {x : Char} {r : Text} (h : c.rest = x :: r) : c.Passes [x] c.next := by
  obtain ⟨before, pos, rest⟩ := c
  simp only at h
  subst h
  exact ⟨rfl, rfl, rfl⟩

/-- There is a place behind every text that comes next. -/
theorem exists_passes {rest : Text} (h : c.rest = t ++ rest) :
    ∃ d, c.Passes t d ∧ d.rest = rest :=
  ⟨⟨t.getLast?.or c.before, c.pos + t.size, rest⟩, ⟨h, rfl, rfl⟩, rfl⟩

/-! ## Cutting at an offset -/

/-- What `takeLoop` takes is the shortest text that comes to the offset `stop`, or all
of it. -/
theorem takeLoop_spec (stop : Nat) (taken rest : Text) (pos : Nat) (before : Option Char) :
    ∃ t r, rest = t ++ r ∧
      takeLoop stop taken pos before rest =
        (taken.reverse ++ t, ⟨t.getLast?.or before, pos + t.size, r⟩) ∧
      (r ≠ [] → stop ≤ pos + t.size) ∧
      ∀ u v, t = u ++ v → v ≠ [] → pos + u.size < stop := by
  induction rest generalizing taken pos before with
  | nil => exact ⟨[], [], rfl, by simp [takeLoop], by simp, by simp⟩
  | cons c rest ih =>
    by_cases hlt : pos < stop
    · obtain ⟨t, r, hrest, heq, hstop, hmin⟩ := ih (c :: taken) (pos + c.utf8Size) (some c)
      refine ⟨c :: t, r, by rw [hrest]; rfl, ?_, ?_, ?_⟩
      · have hlast : (c :: t).getLast?.or before = t.getLast?.or (some c) := by
          rw [List.getLast?_cons]
          cases t.getLast? <;> rfl
        rw [takeLoop, if_pos hlt, heq, hlast]
        simp [Nat.add_assoc]
      · intro hr
        have hle : stop ≤ pos + c.utf8Size + t.size := hstop hr
        rw [Text.size_cons]
        omega
      · intro u v huv hv
        cases u with
        | nil => simpa using hlt
        | cons x u =>
          rw [List.cons_append, List.cons.injEq] at huv
          have hshort : pos + c.utf8Size + Text.size u < stop := hmin u v huv.2 hv
          rw [Text.size_cons, ← huv.1]
          omega
    · refine ⟨[], c :: rest, rfl, by simp [takeLoop, hlt], ?_, ?_⟩
      · intro _
        rw [Text.size_nil]
        omega
      · intro u v huv hv
        exact absurd (List.append_eq_nil_iff.mp huv.symm).2 hv

theorem takeTo_spec (c : Cursor) (stop : Nat) :
    c.Passes (c.takeTo stop).1 (c.takeTo stop).2 ∧
      ((c.takeTo stop).2.rest ≠ [] → stop ≤ (c.takeTo stop).2.pos) ∧
      ∀ u v, (c.takeTo stop).1 = u ++ v → v ≠ [] → c.pos + u.size < stop := by
  obtain ⟨t, r, hrest, heq, hstop, hmin⟩ := takeLoop_spec stop [] c.rest c.pos c.before
  rw [takeTo, heq]
  exact ⟨⟨hrest, rfl, rfl⟩, hstop, hmin⟩

theorem takeTo_passes (c : Cursor) (stop : Nat) :
    c.Passes (c.takeTo stop).1 (c.takeTo stop).2 :=
  (takeTo_spec c stop).1

/-- A cut does not go beyond a later place whose offset is not exceeded: it could have been made
there, which is no shorter than asked for. -/
theorem Passes.after_takeTo (h : c.Passes t d) (hle : stop ≤ d.pos) :
    (c.takeTo stop).2.Precedes d := by
  obtain ⟨hp, -, hmin⟩ := takeTo_spec c stop
  by_cases hd : (c.takeTo stop).2.pos ≤ d.pos
  · obtain ⟨v, -, hv⟩ := h.split hp hd
    exact ⟨v, hv⟩
  · obtain ⟨v, hv, hpass⟩ := hp.split h (by omega)
    have hne : v ≠ [] := by
      rintro rfl
      exact hd (Nat.le_of_eq (congrArg Cursor.pos hpass.eq_of_nil))
    have hshort : c.pos + t.size < stop := hmin t v hv hne
    rw [← h.pos] at hshort
    omega

theorem Passes.takeTo (h : c.Passes t d) : c.takeTo d.pos = (t, d) := by
  obtain ⟨hp, hstop, -⟩ := takeTo_spec c d.pos
  obtain ⟨v, hv⟩ := h.after_takeTo (Nat.le_refl d.pos)
  have hpos : (c.takeTo d.pos).2.pos = d.pos := by
    by_cases hnil : v = []
    · rw [hnil] at hv
      rw [← hv.eq_of_nil]
    · have hrest : (c.takeTo d.pos).2.rest ≠ [] := by
        rw [hv.rest]
        exact List.append_ne_nil_of_left_ne_nil hnil _
      have hle : d.pos ≤ (c.takeTo d.pos).2.pos := hstop hrest
      have hlt : (c.takeTo d.pos).2.pos < d.pos := hv.lt hnil
      omega
  obtain ⟨ht, hd⟩ := hp.eq_of_pos h hpos
  exact Prod.ext ht hd

theorem takeTo_ne_nil (hlt : c.pos < stop) (hr : c.rest ≠ []) : (c.takeTo stop).1 ≠ [] := by
  intro hnil
  obtain ⟨hp, hstop, -⟩ := takeTo_spec c stop
  rw [hnil] at hp
  rw [← hp.eq_of_nil] at hlt hr
  exact absurd (hstop hr) (by omega)

/-! ## Offsets of a text -/

theorem ofText_passes (text : Text) :
    (ofText text).Passes text ⟨text.getLast?, text.size, []⟩ :=
  ⟨(List.append_nil text).symm, by simp [ofText], by simp [ofText]⟩

end Cursor

namespace Text

open Cursor

variable {text t u : Text} {c d : Cursor}

theorem at?_of_passes (h : (ofText text).Passes t c) : text.at? c.pos = some c := by
  simp [at?, h.takeTo]

theorem at?_zero (text : Text) : text.at? 0 = some (.ofText text) :=
  at?_of_passes (.refl (.ofText text))

theorem pos_of_at? {pos : Nat} (h : text.at? pos = some c) : c.pos = pos := by
  obtain ⟨hpos, hplace⟩ := Option.ite_none_right_eq_some.mp h
  cases hplace
  exact hpos

theorem passes_of_at? {pos : Nat} (h : text.at? pos = some c) :
    ∃ t, (ofText text).Passes t c := by
  obtain ⟨-, hplace⟩ := Option.ite_none_right_eq_some.mp h
  cases hplace
  exact ⟨_, takeTo_passes _ pos⟩

theorem slice?_of_passes (h : (ofText text).Passes t c) (h' : c.Passes u d) :
    text.slice? c.pos d.pos = some u := by
  simp [slice?, at?_of_passes h, h'.takeTo, h'.le]

/-- A slice is what lies between two places of the text. -/
theorem slice?_eq_some_iff {start stop : Nat} :
    text.slice? start stop = some u ↔
      ∃ t c d, (ofText text).Passes t c ∧ c.pos = start ∧ c.Passes u d ∧ d.pos = stop := by
  constructor
  · intro h
    unfold slice? at h
    split at h
    · cases h
    · next first hfirst =>
      obtain ⟨⟨-, hstop⟩, hpart⟩ := Option.ite_none_right_eq_some.mp h
      obtain ⟨t, ht⟩ := passes_of_at? hfirst
      cases hpart
      exact ⟨t, first, _, ht, pos_of_at? hfirst, takeTo_passes first stop, hstop⟩
  · rintro ⟨t, c, d, ht, rfl, hu, rfl⟩
    exact slice?_of_passes ht hu

/-- Slices that meet make up a slice. -/
theorem slice?_trans {start middle stop : Nat} {v : Text} (h : text.slice? start middle = some u)
    (h' : text.slice? middle stop = some v) : text.slice? start stop = some (u ++ v) := by
  obtain ⟨t, c, d, ht, hc, hu, hd⟩ := slice?_eq_some_iff.mp h
  obtain ⟨t', d', e, ht', hd', hv, he⟩ := slice?_eq_some_iff.mp h'
  obtain ⟨-, rfl⟩ := (ht.trans hu).eq_of_pos ht' (hd.trans hd'.symm)
  exact slice?_eq_some_iff.mpr ⟨t, c, e, ht, hc, hu.trans hv, he⟩

end Text

end TableLexer
