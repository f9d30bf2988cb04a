import TableLexer.Proofs.Regex.Inside
import TableLexer.Proofs.Text.Tiling
import TableLexer.Run.Step

/-!
# The portions of a match tile it

A match is emitted from left to right behind a single mark, the place up to which it
has been emitted. However its groups nest, overlap or come out of order, the portions
tile the matched text; and if the runs over the portions that are lexed again tile
them, the tokens tile the matched text as well.

Results:
1. `Emission.Covers.fillTo`, `Emission.Covers.emit`: one emission keeps the mark and
   the portions in line.
2. `RunContext.portions_tile`: the portions of a match tile it.
3. `RunContext.tokensOf_tile`: so do its tokens.
-/

namespace TableLexer

open Cursor

/-- The portions tile the text `t` that begins at the offset `pos`. -/
abbrev Portion.Tile (pos : Nat) (t : Text) (l : List Portion) : Prop :=
  Tiles Portion.start Portion.text pos t l

/-- The tokens tile the text `t` that begins at the offset `pos`. -/
abbrev Token.Tile (pos : Nat) (t : Text) (l : List Token) : Prop :=
  Tiles Token.start Token.text pos t l

theorem Token.Tile.shift {pos : Nat} {t : Text} {l : List Token} (base : Nat)
    (h : Token.Tile pos t l) : Token.Tile (base + pos) t (l.map (Token.shift base)) :=
  Tiles.shift (fun _ => rfl) (fun _ => rfl) h

/-! ## Emission -/

namespace Emission

variable {c d : Cursor} {e : Emission} {fallback : Kind} {label : Label} {stop : Nat}

/-- What has been emitted of the match between the places `c` and `d`: the portions
tile the text from its start up to the mark, and the mark is not beyond its end. -/
structure Covers (c d : Cursor) (e : Emission) : Prop where
  passes : c.Passes e.texts e.place
  tile : Portion.Tile c.pos e.texts e.portions
  ahead : e.place.Precedes d

theorem covers_start (h : c.Precedes d) : Covers c d (start c) :=
  ⟨.refl c, Tiles.nil, h⟩

/-- The text up to a later place goes out as one portion. -/
theorem Covers.push {place : Cursor} {t : Text} (h : Covers c d e)
    (hp : e.place.Passes t place) (ht : t ≠ []) (hd : place.Precedes d) :
    Covers c d ⟨place, ⟨e.place.pos, label, t⟩ :: e.latest⟩ := by
  have hport : (⟨place, ⟨e.place.pos, label, t⟩ :: e.latest⟩ : Emission).portions
      = e.portions ++ [⟨e.place.pos, label, t⟩] := by
    simp [portions]
  have htext : (⟨place, ⟨e.place.pos, label, t⟩ :: e.latest⟩ : Emission).texts
      = e.texts ++ t := by
    simp [texts, hport]
  refine ⟨?_, ?_, hd⟩
  · rw [htext]
    exact h.passes.trans hp
  · rw [hport, htext]
    refine h.tile.append ?_
    rw [← h.passes.pos]
    exact Tiles.single ht

theorem Covers.fillTo (h : Covers c d e) (hle : stop ≤ d.pos) :
    Covers c d (e.fillTo fallback stop) := by
  unfold Emission.fillTo
  split
  · next hlt =>
    obtain ⟨t, ht⟩ := h.ahead
    have hrest : e.place.rest ≠ [] := by
      intro hnil
      rw [ht.rest] at hnil
      rw [(List.append_eq_nil_iff.mp hnil).1] at ht
      rw [ht.eq_of_nil] at hle
      omega
    exact h.push (takeTo_passes _ _) (takeTo_ne_nil hlt hrest) (ht.after_takeTo hle)
  · exact h

/-- Text is filled up to a place of the match. -/
theorem fillTo_pos {f : Cursor} (fallback : Kind) (h : Covers c d e) (hf : c.Precedes f) :
    (e.fillTo fallback f.pos).place.pos = max e.place.pos f.pos := by
  unfold Emission.fillTo
  split
  · next hlt =>
    obtain ⟨t, ht⟩ := hf
    obtain ⟨v, -, hv⟩ := ht.split h.passes (Nat.le_of_lt hlt)
    simp only [hv.takeTo]
    omega
  · omega

/-- Text is filled up to a piece of the match. -/
theorem fillTo_piece {piece : Extent} (fallback : Kind) (h : Covers c d e)
    (hw : piece.Within c d) :
    Covers c d (e.fillTo fallback piece.start) ∧
      (e.fillTo fallback piece.start).place.pos = max piece.start e.place.pos := by
  obtain ⟨first, last, hf, hfp, ⟨t, ht⟩, -, hl⟩ := hw
  rw [← hfp, fillTo_pos fallback h hf]
  exact ⟨h.fillTo (Nat.le_trans ht.le hl.le), Nat.max_comm _ _⟩

/-- A piece that ends behind the mark is emitted from the mark on, to which the text before
the piece has brought it. -/
theorem emit_eq {piece : Extent} (fallback : Kind) (label : Label) (h : Covers c d e)
    (hw : piece.Within c d) (hlt : max piece.start e.place.pos < piece.stop) :
    ∃ last t, (e.fillTo fallback piece.start).place.Passes t last ∧ t ≠ [] ∧
      last.pos = piece.stop ∧ last.Precedes d ∧
      e.emit fallback label piece =
        ⟨last, ⟨max piece.start e.place.pos, label, t⟩ ::
          (e.fillTo fallback piece.start).latest⟩ := by
  obtain ⟨hfill, hpos⟩ := fillTo_piece fallback h hw
  obtain ⟨first, last, ⟨u, hu⟩, -, ⟨t, ht⟩, hlp, hl⟩ := hw
  obtain ⟨v, -, hv⟩ := (hu.trans ht).split hfill.passes (by omega)
  refine ⟨last, v, hv, hv.ne_nil_of_lt (by omega), hlp, hl, ?_⟩
  unfold Emission.emit
  rw [if_neg (Nat.not_le_of_lt hlt), ← hlp]
  simp only [hv.takeTo, hpos]

theorem Covers.emit {piece : Extent} (h : Covers c d e) (hw : piece.Within c d) :
    Covers c d (e.emit fallback label piece) := by
  by_cases hlt : max piece.start e.place.pos < piece.stop
  · obtain ⟨last, t, ht, hne, -, hl, hemit⟩ := emit_eq fallback label h hw hlt
    obtain ⟨hfill, hpos⟩ := fillTo_piece fallback h hw
    rw [hemit, ← hpos]
    exact hfill.push ht hne hl
  · unfold Emission.emit
    rwa [if_pos (Nat.le_of_not_lt hlt)]

end Emission

/-! ## Matches -/

namespace RunContext

open Emission

variable {ctx : RunContext} {action : Action} {m : Regex.Match} {c d : Cursor} {t : Text}

/-- A group is passed over, or emitted as the piece that it is. -/
theorem emitGroup_cases (ctx : RunContext) (e : Emission) (group : GroupAction × Option Extent) :
    ctx.emitGroup e group = e ∨ ∃ label piece, group.2 = some piece ∧
      (∀ d, label = .relexed d → group.1 = .delegate d) ∧
      ctx.emitGroup e group = e.emit ctx.config.fallback label piece := by
  obtain ⟨act, _ | piece⟩ := group
  · cases act <;> exact .inl rfl
  · cases act with
    | skip => exact .inl rfl
    | kind kind => exact .inr ⟨.kind kind, piece, rfl, nofun, rfl⟩
    | delegate d => exact .inr ⟨.relexed d, piece, rfl, fun _ h => by cases h; rfl, rfl⟩

theorem emitGroup_covers {e : Emission} {group : GroupAction × Option Extent}
    (h : Covers c d e) (hg : ∀ piece, group.2 = some piece → piece.Within c d) :
    Covers c d (ctx.emitGroup e group) := by
  rcases ctx.emitGroup_cases e group with heq | ⟨label, piece, hpiece, -, heq⟩ <;> rw [heq]
  · exact h
  · exact h.emit (hg piece hpiece)

theorem emitGroups_covers {groups : List (GroupAction × Option Extent)} {e : Emission}
    (h : Covers c d e)
    (hg : ∀ group ∈ groups, ∀ piece, group.2 = some piece → piece.Within c d) :
    Covers c d (groups.foldl ctx.emitGroup e) :=
  List.foldlRecOn groups ctx.emitGroup h fun _ he group hmem =>
    emitGroup_covers he (hg group hmem)

theorem emitAction_covers (hm : m.Inside c d) : Covers c d (ctx.emitAction action m c) := by
  have hstart := covers_start hm.passes
  have hwhole : m.whole.Within c d :=
    ⟨c, d, .refl c, hm.start.symm, hm.passes, hm.stop.symm, .refl d⟩
  cases action with
  | nothing => exact hstart
  | kind kind => exact hstart.emit hwhole
  | delegate d => exact hstart.emit hwhole
  | groups actions =>
    refine emitGroups_covers hstart fun group hmem piece hp => ?_
    obtain ⟨act, piece'⟩ := group
    cases hp
    exact hm.groups piece (List.of_mem_zip hmem).2

/-- The portions of a match tile it: the last filling ends with the match, so what has been emitted
is all of it. -/
theorem portions_tile (hm : m.Inside c d) (ht : c.Passes t d) :
    Portion.Tile c.pos t (ctx.portions action m c) := by
  have hbody : Covers c d (ctx.emitAction action m c) := emitAction_covers hm
  have hend : Covers c d (Emission.fillTo ctx.config.fallback m.whole.stop _) :=
    hbody.fillTo (Nat.le_of_eq hm.stop)
  have hpos := fillTo_pos ctx.config.fallback hbody hm.passes
  rw [← hm.stop] at hpos
  obtain ⟨rfl, -⟩ := ht.eq_of_pos hend.passes (by
    have hle : _ ≤ d.pos := hend.ahead.le
    have hstop : m.whole.stop = d.pos := hm.stop
    omega)
  exact hend.tile

/-- The runs over matched text tile the text. -/
def RelexTiles (ctx : RunContext) : Prop :=
  ∀ (d : Delegate) (t : Text), t ≠ [] → Token.Tile 0 t (ctx.relex d t)

theorem render_tile (hr : ctx.RelexTiles) {p : Portion} (hp : p.text ≠ []) :
    Token.Tile p.start p.text (ctx.render p) := by
  obtain ⟨pos, label, t⟩ := p
  cases label with
  | kind kind =>
    have htoken : (⟨pos, kind, t⟩ : Token).text ≠ [] := hp
    exact Tiles.single htoken
  | relexed d => exact (hr d t hp).shift pos

/-- The tokens of a match tile it. -/
theorem tokensOf_tile (hr : ctx.RelexTiles) (hm : m.Inside c d) (ht : c.Passes t d) :
    Token.Tile c.pos t (ctx.tokensOf action m c) :=
  (portions_tile hm ht).flatMap fun _ _ hp => render_tile hr hp

/-- A match of nothing has no portions. -/
theorem portions_eq_nil (hm : m.Inside c d) (he : m.whole.isEmpty = true) :
    ctx.portions action m c = [] := by
  have hpos : d.pos = c.pos := by
    rw [← hm.stop, ← hm.start]
    exact (beq_iff_eq.mp he).symm
  obtain ⟨t, ht⟩ := hm.passes
  have htile : Portion.Tile c.pos t (ctx.portions action m c) := portions_tile hm ht
  exact htile.eq_nil_iff.mpr (ht.eq_nil_of_pos hpos)

theorem tokensOf_eq_nil (hm : m.Inside c d) (he : m.whole.isEmpty = true) :
    ctx.tokensOf action m c = [] := by
  rw [tokensOf, portions_eq_nil hm he]
  rfl

/-- A match that is emitted as a whole is one token. -/
theorem tokensOf_kind {kind : Kind} (hm : m.Inside c d) (ht : c.Passes t d) (hne : t ≠ []) :
    ctx.tokensOf (.kind kind) m c = [⟨c.pos, kind, t⟩] := by
  have hlt : c.pos < d.pos := ht.lt hne
  have hemit : ctx.emitAction (.kind kind) m c = ⟨d, [⟨c.pos, .kind kind, t⟩]⟩ := by
    simp [emitAction, Emission.emit, Emission.fillTo, Emission.start, hm.start, hm.stop,
      ht.takeTo, Nat.not_le_of_lt hlt]
  have hportions : ctx.portions (.kind kind) m c = [⟨c.pos, .kind kind, t⟩] := by
    simp [portions, hemit, Emission.fillTo, Emission.portions, hm.stop]
  rw [tokensOf, hportions]
  rfl

end RunContext

end TableLexer
