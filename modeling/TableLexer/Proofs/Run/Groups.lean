import TableLexer.Proofs.Run.Nesting

/-!
# How groups classify a match

The groups of a match may nest, overlap, be absent or come out of order. They are emitted
one after the other behind a single mark, but what becomes of a byte can be said without it:
the first group that ends behind the byte decides. If that group has begun by then, the byte
is its own, and otherwise the byte gets the fallback kind, as it does if there is no such
group. A group that is lexed again is cut down to what the groups before it have left.

The mark never goes beyond a byte before the group that decides on it: the groups before
that one all end at the byte or before (`coveredBefore`).

Results:
1. `Emission.mem_fillTo`, `Emission.mem_emit`: which portion one emission makes over a byte.
2. `Emission.exists_portion`: which portion the pieces of a match make over it.
3. `Token.kindAt?_flatMap`: the kind of a byte is that of the portion over it.
4. `InnerRun.groups_classify`: so the tokens of a match go by the groups.
-/

namespace TableLexer

open Cursor

/-! ## Definitions -/

/-- The kind of the byte at an offset, if one of the tokens lies over it. -/
def Token.kindAt? (b : Nat) (l : List Token) : Option Kind :=
  (l.find? fun t => t.start ≤ b ∧ b < t.stop).map Token.kind

/-- What becomes of a group that is not skipped. -/
def GroupAction.label? : GroupAction → Option Label
  | .kind k => some (.kind k)
  | .skip => none
  | .delegate d => some (.relexed d)

/-- The group as a piece of the match, if it has taken part, is not skipped and holds
text. -/
def GroupAction.piece? (group : GroupAction × Option Extent) : Option (Label × Extent) :=
  match group.1.label?, group.2 with
  | some label, some piece => if piece.start < piece.stop then some (label, piece) else none
  | _, _ => none

/-- The pieces into which the groups cut a match, in the order of the groups. -/
def Regex.Match.pieces (m : Regex.Match) (actions : List GroupAction) : List (Label × Extent) :=
  (actions.zip m.groups).filterMap GroupAction.piece?

/-- The first piece that ends behind the byte at an offset. -/
def decides? (pieces : List (Label × Extent)) (b : Nat) : Option (Label × Extent) :=
  pieces.find? fun p => b < p.2.stop

/-- Up to where the pieces before that one cover a match that starts at an offset. -/
def coveredBefore (start : Nat) (pieces : List (Label × Extent)) (b : Nat) : Nat :=
  (pieces.takeWhile fun p => p.2.stop ≤ b).foldl (fun covered p => max covered p.2.stop) start

/-- The kind that the pieces of a match, which starts at an offset, give to a byte of it. -/
inductive InnerRun.Gives (library : Library) (limits : LexConfig) (r : InnerRun)
    (pieces : List (Label × Extent)) (start b : Nat) : Kind → Prop
  | undecided (h : decides? pieces b = none) : Gives library limits r pieces start b limits.fallback
  /-- The piece that decides has not begun. -/
  | ahead {label : Label} {piece : Extent} (h : decides? pieces b = some (label, piece))
      (hlt : b < piece.start) : Gives library limits r pieces start b limits.fallback
  | kind {kind : Kind} {piece : Extent} (h : decides? pieces b = some (.kind kind, piece))
      (hle : piece.start ≤ b) : Gives library limits r pieces start b kind
  /-- A run over what the pieces before have left of the piece gives the kind. -/
  | relexed {d : Delegate} {piece : Extent} {first : Nat} {t : Text} {kind : Kind}
      (h : decides? pieces b = some (.relexed d, piece)) (hle : piece.start ≤ b)
      (hd : r.depth < limits.maxDepth)
      (hfirst : first = max piece.start (coveredBefore start pieces b))
      (ht : r.text.slice? first piece.stop = some t)
      (hkind : Token.kindAt? (b - first)
        (((r.delegate library (d, t)).context library limits).tokensOfText t) = some kind) :
      Gives library limits r pieces start b kind
  /-- On the last level there is no such run. -/
  | last {d : Delegate} {piece : Extent} (h : decides? pieces b = some (.relexed d, piece))
      (hle : piece.start ≤ b) (hd : limits.maxDepth ≤ r.depth) :
      Gives library limits r pieces start b limits.fallback

/-- The portion lies over the byte at an offset. -/
def Portion.Over (p : Portion) (b : Nat) : Prop := p.start ≤ b ∧ b < p.start + p.text.size

/-- The portion is what the pieces say, with the fallback kind, of a byte of a match that
starts at an offset. -/
def Portion.Follows (p : Portion) (fallback : Kind) (pieces : List (Label × Extent))
    (start b : Nat) : Prop :=
  match decides? pieces b with
  | none => p.label = .kind fallback
  | some (label, piece) =>
      if piece.start ≤ b then
        p.label = label ∧ p.start = max piece.start (coveredBefore start pieces b) ∧
          p.start + p.text.size = piece.stop
      else p.label = .kind fallback

/-! ## Emission -/

namespace Emission

variable {c d : Cursor} {e : Emission} {fallback : Kind} {label : Label} {b : Nat}

/-- Filling text makes a portion of it. -/
theorem mem_fillTo {f : Cursor} (fallback : Kind) (h : Covers c d e) (hf : c.Precedes f)
    (hb : e.place.pos ≤ b) (hlt : b < f.pos) :
    ∃ p ∈ (e.fillTo fallback f.pos).latest, p.Over b ∧ p.label = .kind fallback := by
  obtain ⟨t, ht⟩ := hf
  have hahead : e.place.pos < f.pos := Nat.lt_of_le_of_lt hb hlt
  obtain ⟨v, -, hv⟩ := ht.split h.passes (Nat.le_of_lt hahead)
  have hpos := hv.pos
  rw [fillTo, if_pos hahead, hv.takeTo]
  refine ⟨_, List.mem_cons_self, ⟨hb, ?_⟩, rfl⟩
  dsimp only
  omega

theorem fillTo_suffix (fallback : Kind) (stop : Nat) (e : Emission) :
    e.latest <:+ (e.fillTo fallback stop).latest := by
  unfold fillTo
  split
  · exact List.suffix_cons _ _
  · exact List.suffix_rfl

theorem emit_suffix (fallback : Kind) (label : Label) (piece : Extent) (e : Emission) :
    e.latest <:+ (e.emit fallback label piece).latest := by
  unfold emit
  split
  · exact List.suffix_rfl
  · exact (fillTo_suffix fallback piece.start e).trans (List.suffix_cons _ _)

/-- Pieces are emitted one after the other. -/
def emitAll (fallback : Kind) (pieces : List (Label × Extent)) (e : Emission) : Emission :=
  pieces.foldl (fun e p => e.emit fallback p.1 p.2) e

theorem emitAll_suffix (fallback : Kind) (pieces : List (Label × Extent)) (e : Emission) :
    e.latest <:+ (e.emitAll fallback pieces).latest :=
  List.foldlRecOn (motive := fun e' => e.latest <:+ e'.latest) pieces _ List.suffix_rfl
    fun e' he p _ => he.trans (emit_suffix fallback p.1 p.2 e')

/-- What a piece that decides on a byte makes of it: the byte is in the piece, or in the gap before
it. -/
theorem mem_emit {piece : Extent} (fallback : Kind) (label : Label) (h : Covers c d e)
    (hw : piece.Within c d) (hne : piece.start < piece.stop) (hb : e.place.pos ≤ b)
    (hlt : b < piece.stop) :
    ∃ p ∈ (e.emit fallback label piece).latest, p.Over b ∧
      if piece.start ≤ b then p.label = label ∧ p.start = max piece.start e.place.pos ∧
        p.start + p.text.size = piece.stop
      else p.label = .kind fallback := by
  obtain ⟨last, t, ht, -, hpos, -, hemit⟩ := emit_eq fallback label h hw (by omega)
  rw [hemit]
  split
  · next hle =>
    have hsize : max piece.start e.place.pos + t.size = piece.stop := by
      rw [← hpos, ht.pos, (fillTo_piece fallback h hw).2]
    exact ⟨_, List.mem_cons_self, ⟨Nat.max_le.mpr ⟨hle, hb⟩, hsize ▸ hlt⟩, rfl, rfl, hsize⟩
  · next hgap =>
    obtain ⟨first, _, hf, hfp, -⟩ := hw
    obtain ⟨p, hp, hover, hlabel⟩ := mem_fillTo fallback h hf hb (by omega)
    rw [hfp] at hp
    exact ⟨p, List.mem_cons_of_mem _ hp, hover, hlabel⟩

/-- A piece that does not end behind a byte does not move the mark beyond it. -/
theorem emit_pos {piece : Extent} (fallback : Kind) (label : Label) (h : Covers c d e)
    (hw : piece.Within c d) (hne : piece.start < piece.stop) :
    (e.emit fallback label piece).place.pos = max e.place.pos piece.stop := by
  by_cases hlt : max piece.start e.place.pos < piece.stop
  · obtain ⟨last, t, -, -, hpos, -, hemit⟩ := emit_eq fallback label h hw hlt
    rw [hemit]
    dsimp only
    omega
  · rw [emit, if_pos (Nat.le_of_not_lt hlt)]
    omega

/-- Of the pieces of a match and the text after them, the portion over a byte is the one that
follows from the pieces. By induction on the pieces: where one of them decides, what comes later
leaves its portion alone, and behind one that is over the mark has not come beyond the byte. -/
theorem exists_portion (fallback : Kind) {pieces : List (Label × Extent)}
    (hw : ∀ p ∈ pieces, p.2.Within c d ∧ p.2.start < p.2.stop) (h : Covers c d e)
    (hcd : c.Precedes d) (hb : e.place.pos ≤ b) (hlt : b < d.pos) :
    ∃ p ∈ ((e.emitAll fallback pieces).fillTo fallback d.pos).latest,
      p.Over b ∧ p.Follows fallback pieces e.place.pos b := by
  induction pieces generalizing e with
  | nil => exact mem_fillTo fallback h hcd hb hlt
  | cons first rest ih =>
    obtain ⟨label, piece⟩ := first
    obtain ⟨⟨hwithin, hne⟩, hrest⟩ := List.forall_mem_cons.mp hw
    by_cases hstop : b < piece.stop
    · obtain ⟨p, hp, hover, hlabel⟩ :=
        mem_emit fallback label h hwithin hne hb hstop
      have hlater := (emitAll_suffix fallback rest (e.emit fallback label piece)).trans
        (fillTo_suffix fallback d.pos _)
      refine ⟨p, hlater.subset hp, hover, ?_⟩
      have hdecides : decides? ((label, piece) :: rest) b = some (label, piece) :=
        List.find?_cons_of_pos (decide_eq_true hstop)
      have hcovered : coveredBefore e.place.pos ((label, piece) :: rest) b = e.place.pos := by
        rw [coveredBefore, List.takeWhile_cons_of_neg (by simpa using hstop), List.foldl_nil]
      rw [Portion.Follows, hdecides, hcovered]
      exact hlabel
    · have hmark := emit_pos fallback label h hwithin hne
      obtain ⟨p, hp, hover, hfollows⟩ := ih hrest (h.emit hwithin)
        (hmark ▸ Nat.max_le.mpr ⟨hb, Nat.le_of_not_lt hstop⟩)
      refine ⟨p, hp, hover, ?_⟩
      have hdecides : decides? ((label, piece) :: rest) b = decides? rest b :=
        List.find?_cons_of_neg (by simpa using hstop)
      have hcovered : coveredBefore e.place.pos ((label, piece) :: rest) b
          = coveredBefore (max e.place.pos piece.stop) rest b := by
        rw [coveredBefore, List.takeWhile_cons_of_pos (by simpa using hstop), List.foldl_cons]
        rfl
      rw [Portion.Follows, hdecides, hcovered, ← hmark]
      exact hfollows

end Emission

/-! ## Tokens over a byte -/

namespace Token

variable {pos b : Nat} {t : Text} {l l' : List Token}

theorem kindAt?_cons_over {token : Token} (h : token.start ≤ b ∧ b < token.stop) :
    kindAt? b (token :: l) = some token.kind := by
  rw [kindAt?, List.find?_cons_of_pos (by simpa using h), Option.map_some]

theorem kindAt?_cons_other {token : Token} (h : ¬ (token.start ≤ b ∧ b < token.stop)) :
    kindAt? b (token :: l) = kindAt? b l := by
  rw [kindAt?, List.find?_cons_of_neg (by simpa using h), kindAt?]

theorem kindAt?_append : kindAt? b (l ++ l') = (kindAt? b l).or (kindAt? b l') := by
  rw [kindAt?, kindAt?, kindAt?, List.find?_append, Option.map_or]

/-- No token of a tiling lies over a byte outside of the text. -/
theorem kindAt?_eq_none (h : Token.Tile pos t l) (hb : b < pos ∨ pos + t.size ≤ b) :
    kindAt? b l = none := by
  induction l generalizing pos t with
  | nil => rfl
  | cons token l ih =>
    obtain ⟨hstart, -, u, rfl, hrest⟩ := h
    rw [Text.size_append] at hb
    rw [kindAt?_cons_other (by rw [stop, hstart]; omega)]
    exact ih hrest (by omega)

/-- One of them lies over each byte of the text. -/
theorem kindAt?_isSome (h : Token.Tile pos t l) (hle : pos ≤ b) (hlt : b < pos + t.size) :
    (kindAt? b l).isSome := by
  induction l generalizing pos t with
  | nil =>
    cases h
    rw [Text.size_nil] at hlt
    omega
  | cons token l ih =>
    obtain ⟨hstart, -, u, rfl, hrest⟩ := h
    rw [Text.size_append] at hlt
    by_cases hhere : token.start ≤ b ∧ b < token.stop
    · rw [kindAt?_cons_over hhere]
      rfl
    · rw [kindAt?_cons_other hhere]
      rw [stop, hstart] at hhere
      exact ih hrest (by omega) (by omega)

theorem kindAt?_shift {base : Nat} (hle : base ≤ b) :
    kindAt? b (l.map (Token.shift base)) = kindAt? (b - base) l := by
  have hsame : ∀ token : Token,
      decide ((token.shift base).start ≤ b ∧ b < (token.shift base).stop)
        = decide (token.start ≤ b - base ∧ b - base < token.stop) := by
    intro token
    refine decide_eq_decide.mpr ?_
    simp only [stop, shift]
    omega
  rw [kindAt?, kindAt?, List.find?_map, Option.map_map]
  exact congrArg (Option.map Token.kind) (congrArg (List.find? · l) (funext hsame))

end Token

namespace RunContext

variable {ctx : RunContext} {pos b : Nat} {t : Text} {l : List Portion} {p : Portion}

/-- The kind of a byte is that of the portion over it. -/
theorem kindAt?_flatMap (hr : ctx.RelexTiles) (h : Portion.Tile pos t l) (hp : p ∈ l)
    (hover : p.Over b) :
    Token.kindAt? b (l.flatMap ctx.render) = Token.kindAt? b (ctx.render p) := by
  induction l generalizing pos t with
  | nil => cases hp
  | cons first l ih =>
    obtain ⟨hstart, hne, u, rfl, hrest⟩ := h
    have hfirst : Token.Tile first.start first.text (ctx.render first) := render_tile hr hne
    have hlater : Token.Tile (pos + first.text.size) u (l.flatMap ctx.render) :=
      hrest.flatMap fun _ _ hq => render_tile hr hq
    rw [List.flatMap_cons, Token.kindAt?_append]
    rcases List.mem_cons.mp hp with rfl | hp
    · rw [Token.kindAt?_eq_none hlater (.inl (hstart ▸ hover.2)), Option.or_none]
    · have hbegin := hrest.le_start hp
      rw [Token.kindAt?_eq_none hfirst (.inr (by have := hover.1; omega)), Option.none_or]
      exact ih hrest hp

/-! ## Matches -/

variable {place d : Cursor} {m : Regex.Match} {actions : List GroupAction}

theorem emitGroup_some (ctx : RunContext) (e : Emission) (act : GroupAction) (piece : Extent) :
    ctx.emitGroup e (act, some piece) =
      act.label?.elim e fun label => e.emit ctx.config.fallback label piece := by
  cases act <;> rfl

/-- A group is emitted as the piece that it is, or not at all. -/
theorem emitGroup_eq (ctx : RunContext) (e : Emission) (group : GroupAction × Option Extent) :
    ctx.emitGroup e group = e.emitAll ctx.config.fallback (GroupAction.piece? group).toList := by
  obtain ⟨act, _ | piece⟩ := group
  · cases act <;> rfl
  · rw [emitGroup_some, GroupAction.piece?]
    cases act.label? with
    | none => rfl
    | some label =>
      by_cases h : piece.start < piece.stop
      · simp only [h, if_true]
        rfl
      · simp only [h, if_false]
        exact if_pos (Nat.le_trans (Nat.le_of_not_lt h) (Nat.le_max_left _ _))

theorem emitGroups_eq (ctx : RunContext) (groups : List (GroupAction × Option Extent))
    (e : Emission) :
    groups.foldl ctx.emitGroup e
      = e.emitAll ctx.config.fallback (groups.filterMap GroupAction.piece?) := by
  induction groups generalizing e with
  | nil => rfl
  | cons group groups ih =>
    rw [List.foldl_cons, ih, emitGroup_eq]
    cases hpiece : GroupAction.piece? group with
    | none => rw [List.filterMap_cons_none hpiece]; rfl
    | some piece => rw [List.filterMap_cons_some hpiece]; rfl

/-- The pieces of a match lie within it and hold text. -/
theorem pieces_within (hm : m.Inside place d) :
    ∀ p ∈ m.pieces actions, p.2.Within place d ∧ p.2.start < p.2.stop := by
  intro p hp
  obtain ⟨⟨act, piece?⟩, hgroup, hpiece⟩ := List.mem_filterMap.mp hp
  unfold GroupAction.piece? at hpiece
  split at hpiece
  · next label piece _ hsome =>
    split at hpiece
    · next hlt =>
      cases hpiece
      have hsome : piece? = some piece := hsome
      exact ⟨hm.groups piece (hsome ▸ (List.of_mem_zip hgroup).2), hlt⟩
    · cases hpiece
  · cases hpiece

/-- Over each byte of a match lies a portion that follows from its pieces. -/
theorem portions_follow (hm : m.Inside place d) (hle : m.whole.start ≤ b)
    (hlt : b < m.whole.stop) :
    ∃ p ∈ ctx.portions (.groups actions) m place,
      p.Over b ∧ p.Follows ctx.config.fallback (m.pieces actions) m.whole.start b := by
  rw [hm.start] at hle ⊢
  rw [hm.stop] at hlt
  obtain ⟨p, hp, hp'⟩ := Emission.exists_portion ctx.config.fallback
    (pieces_within hm) (Emission.covers_start hm.passes) hm.passes hle hlt
  refine ⟨p, ?_, hp'⟩
  rw [portions, emitAction, emitGroups_eq, hm.stop]
  exact List.mem_reverse.mpr hp

end RunContext

namespace InnerRun

open RunContext

variable {library : Library} {limits : LexConfig} {r : InnerRun} {pieces : List (Label × Extent)}
  {start b : Nat} {p : Portion} {passed : Text} {place : Cursor} {m : Regex.Match}

theorem relexTiles (r : InnerRun) (library : Library) (limits : LexConfig) :
    (r.context library limits).RelexTiles :=
  fun d _ ht => relex_tile library limits r.depth r.table d ht

/-- A run over what is left of a piece, or the one token instead of it on the last level,
gives a kind to each byte there. -/
theorem gives_of_relexed (library : Library) (limits : LexConfig) {d : Delegate}
    {piece : Extent} {first : Nat} {t : Text}
    (h : decides? pieces b = some (.relexed d, piece)) (hle : piece.start ≤ b)
    (hfirst : first = max piece.start (coveredBefore start pieces b))
    (hover : first ≤ b ∧ b < first + t.size) (ht : r.text.slice? first piece.stop = some t) :
    ∃ kind, Token.kindAt? (b - first) ((r.context library limits).relex d t) = some kind ∧
      r.Gives library limits pieces start b kind := by
  have hbyte : b - first < 0 + t.size := by omega
  have hne : t ≠ [] := by
    rintro rfl
    exact Nat.not_lt_zero _ hbyte
  obtain ⟨kind, hkind⟩ := Option.isSome_iff_exists.mp
    (Token.kindAt?_isSome (relexTiles r library limits d t hne) (Nat.zero_le _) hbyte)
  refine ⟨kind, hkind, ?_⟩
  have hrelex : (r.context library limits).relex d t = _ := relex_eq library limits r d t
  rw [hrelex] at hkind
  split at hkind
  · next hlast =>
    rw [Token.kindAt?_cons_over ⟨Nat.zero_le _, hbyte⟩] at hkind
    cases hkind
    exact .last h hle hlast
  · next hnest => exact .relexed h hle (Nat.lt_of_not_le hnest) hfirst ht hkind

/-- The tokens of a portion that follows from the pieces have the kind that the pieces
give. -/
theorem gives_of_follows (hover : p.Over b) (h : p.Follows limits.fallback pieces start b)
    (ht : r.text.slice? p.start (p.start + p.text.size) = some p.text) :
    ∃ kind, Token.kindAt? b ((r.context library limits).render p) = some kind ∧
      r.Gives library limits pieces start b kind := by
  have hkind : ∀ kind, p.label = .kind kind →
      Token.kindAt? b ((r.context library limits).render p) = some kind := by
    intro kind hlabel
    rw [render, hlabel]
    exact Token.kindAt?_cons_over hover
  unfold Portion.Follows at h
  split at h
  · next hdecides => exact ⟨_, hkind _ h, .undecided hdecides⟩
  · next label piece hdecides =>
    split at h
    · next hle =>
      obtain ⟨hlabel, hfirst, hstop⟩ := h
      cases label with
      | kind kind => exact ⟨kind, hkind kind hlabel, .kind hdecides hle⟩
      | relexed d =>
        obtain ⟨kind, hrelexed, hgives⟩ :=
          gives_of_relexed library limits hdecides hle hfirst hover (hstop ▸ ht)
        refine ⟨kind, ?_, hgives⟩
        rw [render, hlabel]
        exact (Token.kindAt?_shift hover.1).trans hrelexed
    · next hgap => exact ⟨_, hkind _ h, .ahead hdecides (Nat.lt_of_not_le hgap)⟩

/-- Of a rule with an action for groups, each match at any place of a text: its tokens cover
the match from its start to its end, the kinds of its bytes go by the pieces into which the
groups cut it, and a step that applies the rule to a match with text gives these tokens. -/
theorem groups_classify {rule : Rule} {actions : List GroupAction}
    (hplace : (ofText r.text).Passes passed place) (ha : rule.action = .groups actions)
    (hm : rule.matchAt? place = some m) (library : Library) (limits : LexConfig) :
    Token.Cover r.text m.whole.start m.whole.stop
        ((r.context library limits).tokensOf rule.action m place) ∧
      (∀ b, m.whole.start ≤ b → b < m.whole.stop → ∃ kind,
        Token.kindAt? b ((r.context library limits).tokensOf rule.action m place) = some kind ∧
        r.Gives library limits (m.pieces actions) m.whole.start b kind) ∧
      ∀ s : RunState, s.place = place → (r.context library limits).Selects s rule m →
        m.whole.isEmpty = false → ((r.context library limits).step s).1
          = (r.context library limits).tokensOf rule.action m place := by
  obtain ⟨d, hinside⟩ := Rule.matchAt?_inside hm
  obtain ⟨t, ht⟩ := hinside.passes
  have htile : Portion.Tile place.pos t ((r.context library limits).portions rule.action m place) :=
    portions_tile hinside ht
  refine ⟨?_, fun b hle hlt => ?_, fun s hs hsel he => ?_⟩
  · rw [hinside.start, hinside.stop]
    exact (tokensOf_tile (relexTiles r library limits) hinside ht).cover hplace ht
  · rw [tokensOf]
    rw [ha] at htile ⊢
    obtain ⟨p, hp, hover, hfollows⟩ := portions_follow hinside hle hlt
    obtain ⟨u, e, f, hu, he, hf⟩ := htile.passes_of_mem ht hp
    rw [kindAt?_flatMap (relexTiles r library limits) htile hp hover]
    refine gives_of_follows hover hfollows ?_
    rw [← he, ← hf.pos]
    exact Text.slice?_of_passes (hplace.trans hu) hf
  · subst hs
    rw [hsel.step_match hinside he]

/-- Rounds over two letters, the last ones of which are groups. In `ba` the second group
lies before the first one. -/
def rounds : Grammar :=
  (Grammar.new "rounds").state rootState
    [.rule ⟨some (.regex "(?:(a)|(b))+".toList),
      .groups [.delegate (.root .this), .kind .keyword], []⟩]

/-- The first group decides on both bytes, so the second one does not get its own. -/
theorem groups_classify_rounds :
    ∃ table, rounds.build [] = .ok table ∧ ∃ rule ∈ table.rules ⟨0⟩,
      rule.matchAt? (ofText "ba".toList) = some ⟨⟨0, 2⟩, [some ⟨1, 2⟩, some ⟨0, 1⟩]⟩ ∧
      ∀ b < 2, ∃ kind,
        Token.kindAt? b
          (((⟨0, table, [⟨0⟩], "ba".toList⟩ : InnerRun).context [] ⟨.text, 1, 2⟩).tokensOf
            rule.action ⟨⟨0, 2⟩, [some ⟨1, 2⟩, some ⟨0, 1⟩]⟩ (ofText "ba".toList)) = some kind ∧
        (⟨0, table, [⟨0⟩], "ba".toList⟩ : InnerRun).Gives [] ⟨.text, 1, 2⟩
          [(.relexed ⟨.this, [⟨0⟩]⟩, ⟨1, 2⟩), (.kind .keyword, ⟨0, 1⟩)] 0 b kind := by
  obtain ⟨table, htable, rule, hrule, ha, hm⟩ : ∃ table, rounds.build [] = .ok table ∧
      ∃ rule ∈ table.rules ⟨0⟩,
        rule.action = .groups [.delegate ⟨.this, [⟨0⟩]⟩, .kind .keyword] ∧
        rule.matchAt? (ofText "ba".toList) = some ⟨⟨0, 2⟩, [some ⟨1, 2⟩, some ⟨0, 1⟩]⟩ :=
    by decide +kernel
  obtain ⟨-, hkinds, -⟩ := groups_classify (r := ⟨0, table, [⟨0⟩], "ba".toList⟩) (.refl _) ha hm []
    ⟨.text, 1, 2⟩
  exact ⟨table, htable, rule, hrule, hm, fun b hb => hkinds b (Nat.zero_le _) hb⟩

end InnerRun

end TableLexer
