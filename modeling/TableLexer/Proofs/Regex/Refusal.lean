import TableLexer.Proofs.Regex.Choice
import TableLexer.Proofs.Regex.Content
import TableLexer.Table

/-!
# What a match cannot begin with

Given the first characters of a text, the *lead*, the form of a program may show that it
matches nothing there, whatever follows the lead. As with the other questions about programs,
an answer of no says nothing.

Results:
1. `Program.lingers_sound`, `Program.refuses_sound`: a program is right if it says yes.
2. `Program.isSome_first?_text`, `Program.isSome_first?_set`: where a text and a set match.
3. `Rule.matchAt?_of_refuses`: a rule that refuses the lead does not match there.
-/

namespace TableLexer

open Regex

/-- No text that starts with the lead starts with `t`: they differ in a character. -/
def Text.differs (lead t : Text) : Bool := (lead.zip t).any fun (a, c) => a ≠ c

/-- The first character of the lead is not in the set. -/
def CharSet.avoids (s : CharSet) (lead : Text) : Bool := lead.head?.any (!s.contains ·)

theorem Text.differs_sound {lead t rest : Text} (h : lead.differs t = true) :
    ¬ t <+: lead ++ rest := by
  induction lead generalizing t with
  | nil => cases h
  | cons a lead ih =>
    cases t with
    | nil => cases h
    | cons c t =>
      simp only [differs, List.zip_cons_cons, List.any_cons, Bool.or_eq_true,
        decide_eq_true_eq] at h
      rw [List.cons_append, List.cons_prefix_cons]
      rintro ⟨rfl, ht⟩
      exact ih (h.resolve_left fun hne => hne rfl) ht

theorem CharSet.avoids_sound {s : CharSet} {lead rest : Text} {c : Char}
    (h : s.avoids lead = true) (hc : s.contains c = true) : ¬ [c] <+: lead ++ rest := by
  cases lead with
  | nil => cases h
  | cons a lead =>
    rw [List.cons_append, List.cons_prefix_cons]
    rintro ⟨rfl, -⟩
    simp [avoids, hc] at h

namespace Regex

namespace Program

/-! ## Questions about programs -/

/-- Where the lead comes next, every match is of the empty text. -/
def lingers (lead : Text) : Program → Bool
  | .fail => true
  | .empty => true
  | .text t => lead.differs t
  | .set s => s.avoids lead
  | .look _ => true
  | .group _ a => a.lingers lead
  | .seq a b => a.lingers lead && b.lingers lead
  | .alt a b => a.lingers lead && b.lingers lead
  | .star _ a => a.lingers lead
  | .span _ s => s.avoids lead
  | .mark _ => true

/-- Where the lead comes next, there is no match. -/
def refuses (lead : Text) : Program → Bool
  | .fail => true
  | .text t => lead.differs t
  | .set s => s.avoids lead
  | .group _ a => a.refuses lead
  | .seq a b => a.refuses lead || (a.lingers lead && b.refuses lead)
  | .alt a b => a.refuses lead && b.refuses lead
  | _ => false

/-! ## The answers are right -/

variable {program : Program} {lead rest : Text} {w : List Event}

theorem lingers_spreads (lead rest : Text) :
    Spreads (lingers lead) fun w => Event.text w <+: lead ++ rest → Event.text w = [] where
  nil _ := rfl
  append := by
    intro u v hu hv huv
    rw [Event.text_append] at huv ⊢
    have hnil := hu ((List.prefix_append _ _).trans huv)
    rw [hnil, List.nil_append] at huv ⊢
    exact hv huv
  text := by
    intro t ht hlead
    rw [Event.text_chars] at hlead
    exact absurd hlead (Text.differs_sound ht)
  set _ _ hs hc hlead := absurd hlead (CharSet.avoids_sound hs hc)
  span _ _ h := h
  group _ _ h := ⟨h, fun _ _ _ => rfl⟩
  seq _ _ := Bool.and_eq_true_iff.mp
  alt _ _ := Bool.and_eq_true_iff.mp
  star _ _ h := h

theorem lingers_sound (h : program.lingers lead = true) (hw : w ∈ program.words)
    (hlead : Event.text w <+: lead ++ rest) : Event.text w = [] :=
  (lingers_spreads lead rest).holds h hw hlead

theorem refuses_sound (h : program.refuses lead = true) (hw : w ∈ program.words) :
    ¬ Event.text w <+: lead ++ rest := by
  induction program generalizing w with
  | fail => exact absurd hw (Language.notMem_zero w)
  | text t =>
    obtain rfl : w = t.map .char := hw
    rw [Event.text_chars]
    exact Text.differs_sound h
  | set s =>
    obtain ⟨c, hc, rfl⟩ := hw
    exact CharSet.avoids_sound h hc
  | group n a ih =>
    obtain ⟨v, hv, rfl⟩ := hw
    rw [Event.text_append]
    exact fun hlead => ih h hv ((List.prefix_append _ _).trans hlead)
  | seq a b iha ihb =>
    obtain ⟨u, hu, v, hv, rfl⟩ := hw
    rw [Event.text_append]
    intro hlead
    have hfirst := (List.prefix_append _ _).trans hlead
    rcases Bool.or_eq_true_iff.mp h with ha | hb
    · exact iha ha hu hfirst
    · obtain ⟨ha, hb⟩ := Bool.and_eq_true_iff.mp hb
      rw [lingers_sound ha hu hfirst, List.nil_append] at hlead
      exact ihb hb hv hlead
  | alt a b iha ihb =>
    obtain ⟨ha, hb⟩ := Bool.and_eq_true_iff.mp h
    exact hw.elim (iha ha) (ihb hb)
  | empty => cases h
  | look => cases h
  | star => cases h
  | span => cases h
  | mark => cases h

/-! ## Texts and sets -/

theorem isSome_first?_text {t : Text} {place : Cursor} (h : t <+: place.rest) :
    ((text t).first? place).isSome := by
  obtain ⟨rest, hrest⟩ := h
  obtain ⟨d, hd, -⟩ := Cursor.exists_passes hrest.symm
  obtain ⟨q, hq, -⟩ : ∃ q, (Path.start place).along? t = some q ∧ q.place = d := along?_iff.mpr hd
  have hpaths : (text t).paths [Path.start place] = [q] := List.filterMap_cons_some hq
  rw [first?, hpaths]
  rfl

theorem isSome_first?_set {s : CharSet} {place : Cursor} {c : Char} {rest : Text}
    (hrest : place.rest = c :: rest) (hc : s.contains c = true) :
    ((set s).first? place).isSome := by
  have hnext : (Path.start place).advanceIf? s.contains = some (Path.start place).advance := by
    rw [Path.advanceIf?, Path.start, hrest, if_pos (by simpa using hc)]
  have hpaths : (set s).paths [Path.start place] = [(Path.start place).advance] :=
    List.filterMap_cons_some hnext
  rw [first?, hpaths]
  rfl

end Program

variable {lead : Text} {place : Cursor}

theorem matchAt?_of_refuses {r : Regex} (h : r.program.refuses lead = true)
    (hlead : lead <+: place.rest) : r.matchAt? place = none := by
  by_contra hmatch
  obtain ⟨m, hm⟩ := Option.ne_none_iff_exists'.mp hmatch
  obtain ⟨w, hw, d, hread⟩ := matchAt?_reads hm
  obtain ⟨rest, hrest⟩ := hlead
  have hprefix : Event.text w <+: lead ++ rest := hrest ▸ ⟨d.rest, hread.passes.rest.symm⟩
  exact Program.refuses_sound h hw hprefix

end Regex

/-! ## Rules -/

namespace Rule

/-- The rule matches nowhere where the lead comes next. -/
def refuses (lead : Text) (r : Rule) : Bool :=
  r.matcher.any fun p => p.matcher.regex.program.refuses lead

theorem matchAt?_of_refuses {r : Rule} {lead : Text} {place : Cursor}
    (h : r.refuses lead = true) (hlead : lead <+: place.rest) : r.matchAt? place = none := by
  obtain ⟨p, hp, hrefuses⟩ := (Option.any_eq_true _ _).mp h
  rw [matchAt?, hp]
  exact Regex.matchAt?_of_refuses hrefuses hlead

end Rule

end TableLexer
