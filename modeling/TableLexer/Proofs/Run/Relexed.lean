import TableLexer.Proofs.Regex.Content
import TableLexer.Proofs.Run.Confined

/-!
# The text that is lexed again

What a match has lexed again is the text of a group or the end of one: the beginning may have
been emitted before. So what a pattern says of the characters of its groups holds of all text
for which runs are asked.

Results:
1. `Emission.Covers.takeTo_suffix`: a group is emitted up to its end.
2. `feeds_sound`: the characters that a rule has lexed again.
-/

namespace TableLexer

open Cursor Regex RunContext

/-- All characters that the rule has lexed again pass the test. -/
def Rule.feeds (test : CharTest) (r : Rule) : Bool :=
  r.matcher.all fun p =>
    match r.action with
    | .groups list => list.zipIdx.all fun (group, i) =>
        group.delegate?.isNone || p.matcher.regex.program.keepsIn (i + 1) test
    | .delegate _ => p.matcher.regex.program.keeps test
    | _ => true

namespace Emission

variable {c d : Cursor} {e : Emission} {fallback : Kind} {label : Label} {test : CharTest}
  {piece : Extent} {t : Text}

/-- All characters that are lexed again pass the test. -/
def Feeds (test : CharTest) (e : Emission) : Prop :=
  ∀ p ∈ e.latest, ∀ request ∈ p.relexed?, ∀ x ∈ request.2, test.char x = true

/-- What is emitted of a piece is the end of its text. The mark stands in the piece then and cuts
the text in two. -/
theorem Covers.takeTo_suffix (h : Covers c d e) (hp : piece.Spells c t d)
    (hlt : ¬ piece.stop ≤ max piece.start e.place.pos) :
    ((e.fillTo fallback piece.start).place.takeTo piece.stop).1 <:+ t := by
  obtain ⟨first, last, hf, hfp, ht, hlp, hl⟩ := hp
  rw [← hfp, ← hlp] at hlt ⊢
  have hfill : Covers c d (e.fillTo fallback first.pos) := h.fillTo (Nat.le_trans ht.le hl.le)
  have hpos := fillTo_pos fallback h hf
  obtain ⟨u, hu⟩ := hf
  obtain ⟨v, -, hv⟩ := hfill.passes.split hu (by omega)
  obtain ⟨w, rfl, hw⟩ := ht.split hv (by omega)
  rw [hw.takeTo]
  exact List.suffix_append v w

theorem Feeds.cons {p : Portion} {place : Cursor} (h : e.Feeds test)
    (hp : ∀ request ∈ p.relexed?, ∀ x ∈ request.2, test.char x = true) :
    Feeds test ⟨place, p :: e.latest⟩ := by
  intro p' hp' request hr x hx
  rcases List.mem_cons.mp hp' with rfl | hp'
  · exact hp request hr x hx
  · exact h p' hp' request hr x hx

theorem Feeds.fillTo {stop : Nat} (h : e.Feeds test) : (e.fillTo fallback stop).Feeds test := by
  unfold Emission.fillTo
  split
  · exact h.cons nofun
  · exact h

/-- A piece is emitted that is not lexed again, or the characters of which pass. -/
theorem Feeds.emit (h : e.Feeds test) (hc : Covers c d e) (hp : piece.Spells c t d)
    (hlabel : ∀ d, label = .relexed d → ∀ x ∈ t, test.char x = true) :
    (e.emit fallback label piece).Feeds test := by
  unfold Emission.emit
  split
  · exact h
  · next hlt =>
    have hsuffix : ((e.fillTo fallback piece.start).place.takeTo piece.stop).1 <:+ t :=
      hc.takeTo_suffix hp hlt
    refine h.fillTo.cons fun request hr x hx => ?_
    unfold Portion.relexed? at hr
    split at hr
    · cases hr
    · next d hd =>
      cases hr
      exact hlabel d hd x (hsuffix.subset hx)

end Emission

/-! ## Rules -/

section

variable {ctx : RunContext} {test : CharTest} {c d : Cursor} {e : Emission}

/-- The group is not lexed again, or the characters of its text pass. -/
def FeedsGroup (test : CharTest) (c d : Cursor) (group : GroupAction × Option Extent) : Prop :=
  ∀ piece ∈ group.2, ∃ t, piece.Spells c t d ∧
    (group.1.delegate?.isSome → ∀ x ∈ t, test.char x = true)

theorem emitGroup_feeds {group : GroupAction × Option Extent} (h : e.Feeds test)
    (hc : Emission.Covers c d e) (hg : FeedsGroup test c d group) :
    (ctx.emitGroup e group).Feeds test := by
  rcases ctx.emitGroup_cases e group with heq | ⟨label, piece, hpiece, hact, heq⟩ <;> rw [heq]
  · exact h
  · obtain ⟨t, hspells, hpass⟩ := hg piece hpiece
    refine h.emit hc hspells fun d' hd => hpass ?_
    rw [hact d' hd]
    rfl

theorem emitGroups_feeds {groups : List (GroupAction × Option Extent)} (h : e.Feeds test)
    (hc : Emission.Covers c d e) (hg : ∀ group ∈ groups, FeedsGroup test c d group) :
    (groups.foldl ctx.emitGroup e).Feeds test := by
  induction groups generalizing e with
  | nil => exact h
  | cons group groups ih =>
    rw [List.forall_mem_cons] at hg
    refine ih (emitGroup_feeds h hc hg.1) (emitGroup_covers hc fun piece hpiece => ?_) hg.2
    obtain ⟨t, hspells, -⟩ := hg.1 piece hpiece
    exact hspells.within

variable {rule : Rule} {place : Cursor} {m : Regex.Match}

/-- The groups of a match by a word of the program, if the program answers for each one that is
lexed again. -/
theorem feedsGroup_of_reads {program : Program} {w : List Event} {list : List GroupAction}
    (hw : w ∈ program.words) (hread : m.Reads place w d)
    (h : list.zipIdx.all (fun (group, i) =>
      group.delegate?.isNone || program.keepsIn (i + 1) test) = true) :
    ∀ group ∈ list.zip m.groups, FeedsGroup test place d group := by
  intro group hgroup piece hpiece
  obtain ⟨i, hi⟩ := List.mem_iff_getElem?.mp hgroup
  obtain ⟨haction, hgroup⟩ := List.getElem?_zip_eq_some.mp hi
  rw [Option.mem_def.mp hpiece] at hgroup
  obtain ⟨t, ht, hspells⟩ := hread.groups i piece hgroup
  refine ⟨t, hspells, fun hdelegate => ?_⟩
  have hkeeps := List.all_eq_true.mp h (group.1, i) (List.mem_zipIdx_iff_getElem?.mpr haction)
  rcases Bool.or_eq_true_iff.mp hkeeps with hnone | hkeeps
  · rw [Option.isNone_iff_eq_none.mp hnone] at hdelegate
    cases hdelegate
  · exact Program.keepsIn_sound hkeeps hw t ht

theorem emitAction_feeds {p : Pooled} {w : List Event} (h : rule.feeds test = true)
    (hmatcher : rule.matcher = some p) (hw : w ∈ p.matcher.regex.program.words)
    (hread : m.Reads place w d) : (ctx.emitAction rule.action m place).Feeds test := by
  have hstart : (Emission.start place).Feeds test := fun p hp => absurd hp List.not_mem_nil
  have hcovers := Emission.covers_start hread.inside.passes
  have hwhole : m.whole.Spells place (Event.text w) d := by
    rw [hread.whole]
    exact ⟨place, d, .refl _, rfl, hread.passes, rfl, .refl _⟩
  rw [Rule.feeds, hmatcher, Option.all_some] at h
  unfold emitAction
  split
  · exact hstart
  · exact hstart.emit hcovers hwhole nofun
  · next d' haction =>
    rw [haction] at h
    exact hstart.emit hcovers hwhole fun _ _ => Program.keeps_sound h hw
  · next list haction =>
    rw [haction] at h
    exact emitGroups_feeds hstart hcovers (feedsGroup_of_reads hw hread h)

/-- What a rule has lexed again holds only characters that pass, if the rule says so. Without a
pattern there is a match of nothing, which has no portions. -/
theorem feeds_sound (h : rule.feeds test = true) (hmatch : rule.matchAt? place = some m)
    {request : Delegate × Text}
    (hr : request ∈ (ctx.portions rule.action m place).filterMap Portion.relexed?) :
    ∀ x ∈ request.2, test.char x = true := by
  unfold Rule.matchAt? at hmatch
  split at hmatch
  · next p hmatcher =>
    obtain ⟨w, hw, d, hread⟩ := matchAt?_reads hmatch
    have hall : (ctx.emitAction rule.action m place).Feeds test :=
      emitAction_feeds h hmatcher hw hread
    obtain ⟨p, hp, hrequest⟩ := List.mem_filterMap.mp hr
    exact hall.fillTo p (List.mem_reverse.mp hp) request hrequest
  · cases hmatch
    have hinside : Regex.Match.Inside place ⟨⟨place.pos, place.pos⟩, []⟩ place :=
      ⟨rfl, .refl _, rfl, nofun⟩
    rw [portions_eq_nil hinside (beq_self_eq_true _)] at hr
    cases hr

end

end TableLexer
