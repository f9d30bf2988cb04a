import Mathlib.Computability.Language
import TableLexer.Proofs.Text.Passage
import TableLexer.Regex

/-!
# What a program goes through

The way of a path is a word of events: the characters it consumes and, where it leaves a
group, the number of the group with the text it has matched. The words of a program make up
a language in the usual sense. It says nothing of which word is preferred, and assertions and
marks, which only rule words out, do not count in it.

Results:
1. `Path.Reads.trans`: paths compose, and so do their words.
2. `Path.iterate_mem`, `Path.run_mem`: what repeating a step leads to has every property
   that the step keeps.
3. `Program.paths_reads`, `matchAt?_reads`: the way of each path of a program, and so of each
   match, is a word of its language.
-/

namespace TableLexer

/-- The extent is that of the text `t`, between the places `o` and `d`. -/
def Extent.Spells (o : Cursor) (t : Text) (d : Cursor) (e : Extent) : Prop :=
  ∃ first last, o.Precedes first ∧ first.pos = e.start ∧ first.Passes t last ∧
    last.pos = e.stop ∧ last.Precedes d

namespace Regex

open Cursor
open scoped Computability

/-! ## Words -/

/-- What happens on the way of a path: it consumes a character, or it leaves a group that has
matched a text. -/
inductive Event where
  | char (c : Char)
  | group (number : Nat) (t : Text)

namespace Event

def char? : Event → Option Char
  | .char c => some c
  | .group _ _ => none

/-- The text that a word consumes. -/
def text (w : List Event) : Text := w.filterMap char?

theorem text_append (v w : List Event) : text (v ++ w) = text v ++ text w :=
  List.filterMap_append

theorem text_chars (t : Text) : text (t.map .char) = t := by
  rw [text, List.filterMap_map]
  exact List.filterMap_some

end Event

/-- The words of a program. -/
def Program.words : Program → Language Event
  | .fail => 0
  | .empty => 1
  | .text t => {t.map .char}
  | .set s => {w | ∃ c, s.contains c = true ∧ w = [.char c]}
  | .look _ => 1
  | .group number a => {w | ∃ v ∈ a.words, w = v ++ [.group number (Event.text v)]}
  | .seq a b => a.words * b.words
  | .alt a b => a.words + b.words
  | .star _ a => a.words∗
  | .span _ s => ({w | ∃ c, s.contains c = true ∧ w = [.char c]} : Language Event)∗
  | .mark _ => 1

/-! ## Ways of paths -/

namespace Path

open Event

/-- The path `q` goes on from the path `p` by the word `w`: it stands behind the text of the
word, and it has recorded no groups but those of the word. -/
structure Reads (p : Path) (w : List Event) (q : Path) : Prop where
  place : p.place.Passes (text w) q.place
  starts : q.starts = p.starts
  captures : ∀ entry ∈ q.captures, entry ∈ p.captures ∨
    ∃ t, .group entry.1 t ∈ w ∧ entry.2.Spells p.place t q.place

variable {p q r : Path} {v w : List Event}

theorem Reads.refl (p : Path) : p.Reads [] p := ⟨.refl _, rfl, fun _ h => .inl h⟩

theorem Reads.trans (h : p.Reads v q) (h' : q.Reads w r) : p.Reads (v ++ w) r where
  place := by
    rw [text_append]
    exact h.place.trans h'.place
  starts := h'.starts.trans h.starts
  captures := by
    intro entry he
    rcases h'.captures entry he with he | ⟨t, ht, first, last, hf, hfirst, ht', hlast, hl⟩
    · rcases h.captures entry he with he | ⟨t, ht, first, last, hf, hfirst, ht', hlast, hl⟩
      · exact .inl he
      · exact .inr ⟨t, List.mem_append_left _ ht, first, last, hf, hfirst, ht', hlast,
          hl.trans ⟨_, h'.place⟩⟩
    · exact .inr ⟨t, List.mem_append_right _ ht, first, last, .trans ⟨_, h.place⟩ hf, hfirst, ht',
        hlast, hl⟩

/-- A path that only moves reads the characters on its way. -/
theorem Reads.move {t : Text} (hp : p.place.Passes t q.place) (hs : q.starts = p.starts)
    (hc : q.captures = p.captures) : p.Reads (t.map .char) q where
  place := by rwa [text_chars]
  starts := hs
  captures := fun _ he => .inl (hc ▸ he)

theorem reads_advanceIf? {test : Char → Bool} (h : p.advanceIf? test = some q) :
    ∃ c, test c = true ∧ p.Reads [.char c] q := by
  unfold Path.advanceIf? at h
  split at h
  · next ht =>
    cases h
    cases hr : p.place.rest with
    | nil => simp [hr] at ht
    | cons c rest =>
      refine ⟨c, by simpa [hr] using ht, ?_⟩
      exact Reads.move (t := [c]) (passes_next hr) rfl rfl
  · cases h

theorem reads_along? {t : Text} (h : p.along? t = some q) : p.Reads (t.map .char) q := by
  induction t generalizing p with
  | nil =>
    cases h
    exact .refl _
  | cons c t ih =>
    obtain ⟨r, hr, hq⟩ := Option.bind_eq_some_iff.mp h
    obtain ⟨c', hc, hread⟩ := reads_advanceIf? hr
    cases beq_iff_eq.mp hc
    exact hread.trans (ih hq)

theorem reads_pass? {mark : Nat} (h : p.pass? mark = some q) : p.Reads [] q := by
  unfold Path.pass? at h
  split at h
  · cases h
  · cases h
    exact .move (t := []) (.refl _) rfl rfl

/-- A path that enters a group and leaves it has read the group. -/
theorem Reads.leave {number : Nat} (h : p.enter.Reads w r) :
    p.Reads (w ++ [.group number (text w)]) (r.leave number) where
  place := by
    rw [text_append]
    exact (List.append_nil _).symm ▸ h.place
  starts := by
    show r.starts.tail = p.starts
    rw [h.starts]
    rfl
  captures := by
    intro entry he
    rcases List.mem_cons.mp he with rfl | he
    · have hstart : r.starts.headD r.pos = p.pos := by
        rw [h.starts]
        rfl
      refine .inr ⟨text w, List.mem_append_right _ (List.mem_singleton_self _), ?_⟩
      exact ⟨p.place, r.place, .refl _, hstart.symm, h.place, rfl, .refl _⟩
    · rcases h.captures entry he with he | ⟨t, ht, hspells⟩
      · exact .inl he
      · exact .inr ⟨t, List.mem_append_left _ ht, hspells⟩

/-! ## Lists of paths -/

/-- What repeating a step leads to has every property that the step keeps. -/
theorem iterate_mem {step : Path → List Path} {greedy : Bool} {P : Path → Prop}
    (keeps : ∀ p q, P p → q ∈ step p → P q) {paths : List Path} (hp : ∀ p ∈ paths, P p) :
    ∀ q ∈ iterate step greedy paths, P q := by
  have fold : ∀ (paths : List Path) (f : Found), (∀ p ∈ paths, P p) → (∀ q ∈ f.latest, P q) →
      ∀ q ∈ (paths.foldl (fun found p =>
        sweep step greedy (p.place.rest.length + 1) p found) f).latest, P q := by
    intro paths
    induction paths with
    | nil => exact fun _ _ hf => hf
    | cons p paths ih =>
      intro f hp hf
      exact ih _ (fun q hq => hp q (List.mem_cons_of_mem _ hq))
        (sweep_mem keeps (hp p List.mem_cons_self) hf)
  intro q hq
  exact fold paths (Found.none (lowest paths)) hp (by simp [Found.none]) q (mem_toList.mp hq)

section

variable {test : Char → Bool} {stop : Nat → Bool} {greedy : Bool} {P : Path → Prop}
  (keeps : ∀ p c rest, P p → p.place.rest = c :: rest → test c = true → P p.advance)

include keeps

theorem runOf_mem {rest : Text} {before : Option Char} {pos : Nat} {trail : List Nat}
    {shorter : List Path} (hp : P ⟨⟨before, pos, rest⟩, p.captures, p.starts, trail⟩)
    (hs : ∀ q ∈ shorter, P q) : ∀ q ∈ runOf test stop p shorter pos rest, P q := by
  induction rest generalizing before pos trail shorter with
  | nil => exact hs
  | cons c rest ih =>
    simp only [runOf]
    split
    · next ht =>
      have hnext : P ⟨⟨some c, pos + c.utf8Size, rest⟩, p.captures, p.starts, []⟩ :=
        keeps _ c rest hp rfl (Bool.and_eq_true_iff.mp ht).1
      refine ih hnext fun q hq => ?_
      rcases List.mem_cons.mp hq with rfl | hq
      · exact hnext
      · exact hs q hq
    · exact hs

theorem runFrom_mem (hp : P p) : ∀ q ∈ runFrom test stop greedy p, P q := by
  have hstart : P ⟨⟨p.place.before, p.pos, p.place.rest⟩, p.captures, p.starts, p.trail⟩ := hp
  have hall : ∀ q ∈ runOf test stop p [p] p.pos p.place.rest, P q :=
    runOf_mem keeps hstart (List.forall_mem_singleton.mpr hp)
  intro q hq
  unfold runFrom at hq
  split at hq
  · exact hall q hq
  · exact hall q (List.mem_reverse.mp hq)

omit keeps in
theorem mem_foldl_add {paths : List Path} {f : Found}
    (hq : q ∈ (paths.foldl Found.add f).latest) : q ∈ paths ∨ q ∈ f.latest := by
  induction paths generalizing f with
  | nil => exact .inr hq
  | cons p paths ih =>
    rcases ih hq with h | h
    · exact .inl (List.mem_cons_of_mem _ h)
    · rcases List.mem_cons.mp h with rfl | h
      · exact .inl List.mem_cons_self
      · exact .inr h

/-- Consuming characters that pass the test leads to paths with every property that each of
them keeps. -/
theorem run_mem {paths : List Path} (hp : ∀ p ∈ paths, P p) :
    ∀ q ∈ run test greedy paths, P q := by
  have fold : ∀ (paths : List Path) (f : Found), (∀ p ∈ paths, P p) → (∀ q ∈ f.latest, P q) →
      ∀ q ∈ (paths.foldl (fun found p =>
        if found.has p.pos then found
        else (runFrom test found.has greedy p).foldl Found.add found) f).latest, P q := by
    intro paths
    induction paths with
    | nil => exact fun _ _ hf => hf
    | cons p paths ih =>
      intro f hp hf
      refine ih _ (fun q hq => hp q (List.mem_cons_of_mem _ hq)) ?_
      intro q hq
      dsimp only at hq
      split at hq
      · exact hf q hq
      · rcases mem_foldl_add hq with h | h
        · exact runFrom_mem keeps (hp p List.mem_cons_self) q h
        · exact hf q h
  intro q hq
  unfold run at hq
  split at hq
  · exact absurd hq List.not_mem_nil
  · next p => exact runFrom_mem keeps (hp p List.mem_cons_self) q hq
  · exact fold paths (Found.none (lowest paths)) hp (by simp [Found.none]) q (mem_toList.mp hq)

end

end Path

open TableLexer.Regex.Path

/-! ## Programs -/

namespace Program

/-- The word of a round after others is one of the repetition. -/
theorem append_mem_kstar {l : Language Event} {v w : List Event} (hv : v ∈ l∗) (hw : w ∈ l) :
    v ++ w ∈ l∗ := by
  have hle : l∗ * l ≤ l∗ := kstar_mul_le_kstar
  exact hle (Language.append_mem_mul hv hw)

/-- The way of each path of a program is a word of its language. -/
theorem paths_reads (program : Program) (ps : List Path) :
    ∀ q ∈ program.paths ps, ∃ p ∈ ps, ∃ w ∈ program.words, p.Reads w q := by
  induction program generalizing ps with
  | fail => simp [paths]
  | empty => exact fun q hq => ⟨q, hq, [], rfl, .refl q⟩
  | text t =>
    intro q hq
    obtain ⟨p, hp, hpq⟩ := List.mem_filterMap.mp hq
    exact ⟨p, hp, _, rfl, reads_along? hpq⟩
  | set s =>
    intro q hq
    obtain ⟨p, hp, hpq⟩ := List.mem_filterMap.mp hq
    obtain ⟨c, hc, hread⟩ := reads_advanceIf? hpq
    exact ⟨p, hp, _, ⟨c, hc, rfl⟩, hread⟩
  | look l => exact fun q hq => ⟨q, (List.mem_filter.mp hq).1, [], rfl, .refl q⟩
  | group number a ih =>
    intro q hq
    obtain ⟨r, hr, rfl⟩ := List.mem_map.mp hq
    obtain ⟨p', hp', w, hw, hread⟩ := ih _ r hr
    obtain ⟨p, hp, rfl⟩ := List.mem_map.mp hp'
    exact ⟨p, hp, _, ⟨w, hw, rfl⟩, hread.leave⟩
  | seq a b iha ihb =>
    intro q hq
    obtain ⟨r, hr, w, hw, hrq⟩ := ihb _ q hq
    obtain ⟨p, hp, v, hv, hpr⟩ := iha _ r hr
    exact ⟨p, hp, v ++ w, Language.append_mem_mul hv hw, hpr.trans hrq⟩
  | alt a b iha ihb =>
    intro q hq
    obtain ⟨p, hp, hpq⟩ := List.mem_flatMap.mp (mem_of_mem_distinct hq)
    rcases List.mem_append.mp hpq with hpq | hpq
    · obtain ⟨p', hp', w, hw, hread⟩ := iha _ q hpq
      rw [List.mem_singleton.mp hp'] at hread
      exact ⟨p, hp, w, .inl hw, hread⟩
    · obtain ⟨p', hp', w, hw, hread⟩ := ihb _ q hpq
      rw [List.mem_singleton.mp hp'] at hread
      exact ⟨p, hp, w, .inr hw, hread⟩
  | star greedy a ih =>
    refine iterate_mem (P := fun q => ∃ p ∈ ps, ∃ w ∈ a.words∗, p.Reads w q) ?_
      fun p hp => ⟨p, hp, [], Language.nil_mem_kstar _, .refl p⟩
    rintro q r ⟨p, hp, v, hv, hpq⟩ hr
    obtain ⟨q', hq', w, hw, hqr⟩ := ih _ r hr
    rw [List.mem_singleton.mp hq'] at hqr
    exact ⟨p, hp, v ++ w, append_mem_kstar hv hw, hpq.trans hqr⟩
  | span greedy s =>
    refine run_mem (P := fun q => ∃ p ∈ ps, ∃ w ∈ (span greedy s).words, p.Reads w q) ?_
      fun p hp => ⟨p, hp, [], Language.nil_mem_kstar _, .refl p⟩
    rintro q c rest ⟨p, hp, v, hv, hpq⟩ hrest hc
    refine ⟨p, hp, v ++ [.char c], append_mem_kstar hv ⟨c, hc, rfl⟩, hpq.trans ?_⟩
    exact .move (t := [c]) (passes_next hrest) rfl rfl
  | mark id =>
    intro q hq
    obtain ⟨p, hp, hpq⟩ := List.mem_filterMap.mp hq
    exact ⟨p, hp, [], rfl, reads_pass? hpq⟩

end Program

/-! ## Matches -/

/-- The match goes from the place `c` to the place `d` by the word `w`, and its groups are
among those of the word. -/
structure Match.Reads (c : Cursor) (w : List Event) (m : Match) (d : Cursor) : Prop where
  whole : m.whole = ⟨c.pos, d.pos⟩
  passes : c.Passes (Event.text w) d
  groups : ∀ i e, m.groups[i]? = some (some e) →
    ∃ t, .group (i + 1) t ∈ w ∧ e.Spells c t d

/-- The preferred match at a place goes by a word of the program. -/
theorem matchAt?_reads {r : Regex} {place : Cursor} {m : Match} (h : r.matchAt? place = some m) :
    ∃ w ∈ r.program.words, ∃ d, m.Reads place w d := by
  obtain ⟨path, hpath, rfl⟩ := Option.map_eq_some_iff.mp h
  obtain ⟨p, hp, w, hw, hread⟩ := r.program.paths_reads _ path (List.mem_of_mem_head? hpath)
  rw [List.mem_singleton.mp hp] at hread
  refine ⟨w, hw, path.place, rfl, hread.place, fun i e he => ?_⟩
  rw [List.getElem?_map, Option.map_eq_some_iff] at he
  obtain ⟨j, hj, he⟩ := he
  obtain ⟨hlt, rfl⟩ := List.getElem?_eq_some_iff.mp hj
  rw [List.getElem_range] at he
  obtain ⟨l, l', hl, -⟩ := List.lookup_eq_some_iff.mp he
  have hentry : (i + 1, e) ∈ path.captures := by
    rw [hl]
    exact List.mem_append_right _ List.mem_cons_self
  exact (hread.captures _ hentry).resolve_left List.not_mem_nil

end Regex

end TableLexer
