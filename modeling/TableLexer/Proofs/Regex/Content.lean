import TableLexer.Proofs.Regex.Words

/-!
# What a match contains

Three questions about a program that its form answers: whether every match contains a
character of some kind, whether it contains no others, and whether a group does not. They
are answered without going through texts, so a program can be asked by evaluation; an answer
of no says nothing.

Results:
1. `Program.Spreads.holds`: what the answers for the parts of a program carry over to its words.
2. `Program.needs_sound`, `Program.keeps_sound`, `Program.keepsIn_sound`: a program is right
   if it says yes.
3. `matchAt?_advances`: so a match that needs any character at all is not empty.
4. `first?_isSome_of_repeats`: a program that repeats a set matches where a member follows.
-/

namespace TableLexer

namespace Regex

open Event
open scoped Computability

/-! ## Kinds of characters -/

/-- A kind of characters. A set passes only if all of its members do; how this is found out
is up to the test. -/
structure CharTest where
  char : Char → Bool
  set : CharSet → Bool
  sound : ∀ s c, set s = true → s.contains c = true → char c = true

namespace CharTest

/-- All characters pass. -/
def all : CharTest := ⟨fun _ => true, fun _ => true, fun _ _ _ _ => rfl⟩

/-- One character passes. Sets are not looked into. -/
def only (key : Char) : CharTest := ⟨fun c => c = key, fun _ => false, nofun⟩

/-- All characters but one pass. -/
def except (key : Char) : CharTest where
  char c := c ≠ key
  set s := !s.contains key
  sound := by
    intro s c hs hc
    refine decide_eq_true fun heq => ?_
    rw [heq] at hc
    rw [hc] at hs
    cases hs

end CharTest

namespace Program

/-! ## Questions about programs -/

/-- Every match contains a character that passes the test. -/
def needs (test : CharTest) : Program → Bool
  | .fail => true
  | .empty => false
  | .text t => t.any test.char
  | .set s => test.set s
  | .look _ => false
  | .group _ a => a.needs test
  | .seq a b => a.needs test || b.needs test
  | .alt a b => a.needs test && b.needs test
  | .star _ _ => false
  | .span _ _ => false
  | .mark _ => false

/-- All characters of a match pass the test. -/
def keeps (test : CharTest) : Program → Bool
  | .fail => true
  | .empty => true
  | .text t => t.all test.char
  | .set s => test.set s
  | .look _ => true
  | .group _ a => a.keeps test
  | .seq a b => a.keeps test && b.keeps test
  | .alt a b => a.keeps test && b.keeps test
  | .star _ a => a.keeps test
  | .span _ s => test.set s
  | .mark _ => true

/-- All characters of a group pass the test, whenever the group takes part. -/
def keepsIn (number : Nat) (test : CharTest) : Program → Bool
  | .group n a => (n ≠ number || a.keeps test) && a.keepsIn number test
  | .seq a b => a.keepsIn number test && b.keepsIn number test
  | .alt a b => a.keepsIn number test && b.keepsIn number test
  | .star _ a => a.keepsIn number test
  | _ => true

/-- The set from which the program takes a first character, before any number of others, if it
is of that form. -/
def repeats? : Program → Option CharSet
  | .seq (.set s) (.span _ _) => some s
  | _ => none

/-! ## The answers are right -/

variable {program : Program} {test : CharTest} {number : Nat} {w : List Event}

/-- What holds of the words of a language, and of words in a row, holds of its repetition. -/
theorem kstar_induction {l : Language Event} {P : List Event → Prop} (nil : P [])
    (append : ∀ v w, P v → P w → P (v ++ w)) (h : ∀ w ∈ l, P w) : ∀ w ∈ l∗, P w := by
  intro w hw
  obtain ⟨rounds, rfl, hrounds⟩ := Language.mem_kstar.mp hw
  induction rounds with
  | nil => exact nil
  | cons v rounds ih =>
    rw [List.forall_mem_cons] at hrounds
    exact append _ _ (h v hrounds.1) (ih hrounds.2 (Language.join_mem_kstar hrounds.2))

theorem needs_sound (h : program.needs test = true) (hw : w ∈ program.words) :
    ∃ c ∈ Event.text w, test.char c = true := by
  induction program generalizing w with
  | fail => exact absurd hw (Language.notMem_zero w)
  | text t =>
    obtain rfl : w = t.map .char := hw
    rw [text_chars]
    exact List.any_eq_true.mp h
  | set s =>
    obtain ⟨c, hc, rfl⟩ := hw
    exact ⟨c, List.mem_singleton_self c, test.sound s c h hc⟩
  | group n a ih =>
    obtain ⟨v, hv, rfl⟩ := hw
    obtain ⟨c, hc, hpass⟩ := ih h hv
    exact ⟨c, text_append v _ ▸ List.mem_append_left _ hc, hpass⟩
  | seq a b iha ihb =>
    obtain ⟨u, hu, v, hv, rfl⟩ := hw
    rw [text_append]
    rcases Bool.or_eq_true_iff.mp h with h | h
    · obtain ⟨c, hc, hpass⟩ := iha h hu
      exact ⟨c, List.mem_append_left _ hc, hpass⟩
    · obtain ⟨c, hc, hpass⟩ := ihb h hv
      exact ⟨c, List.mem_append_right _ hc, hpass⟩
  | alt a b iha ihb =>
    obtain ⟨ha, hb⟩ := Bool.and_eq_true_iff.mp h
    exact hw.elim (iha ha) (ihb hb)
  | empty => cases h
  | look => cases h
  | star => cases h
  | span => cases h
  | mark => cases h

/-- A question about programs whose yes goes down to the parts, and a property of words that
comes back up from them: it holds where there are no parts, of the end of a group and of words
in a row. -/
structure Spreads (asked : Program → Bool) (P : List Event → Prop) : Prop where
  nil : P []
  append : ∀ v w, P v → P w → P (v ++ w)
  text : ∀ t, asked (.text t) = true → P (t.map .char)
  set : ∀ s c, asked (.set s) = true → s.contains c = true → P [.char c]
  span : ∀ greedy s, asked (.span greedy s) = true → asked (.set s) = true
  group : ∀ n a, asked (.group n a) = true →
    asked a = true ∧ ∀ w ∈ a.words, P [.group n (Event.text w)]
  seq : ∀ a b, asked (.seq a b) = true → asked a = true ∧ asked b = true
  alt : ∀ a b, asked (.alt a b) = true → asked a = true ∧ asked b = true
  star : ∀ greedy a, asked (.star greedy a) = true → asked a = true

/-- Every word of a program that answers yes has the property. -/
theorem Spreads.holds {asked : Program → Bool} {P : List Event → Prop} (hs : Spreads asked P)
    (h : asked program = true) (hw : w ∈ program.words) : P w := by
  have hset : ∀ s, asked (.set s) = true → ∀ w ∈ (Program.set s).words, P w := by
    rintro s h _ ⟨c, hc, rfl⟩
    exact hs.set s c h hc
  induction program generalizing w with
  | fail => exact absurd hw (Language.notMem_zero w)
  | text t =>
    obtain rfl : w = t.map .char := hw
    exact hs.text t h
  | set s => exact hset s h w hw
  | group n a ih =>
    obtain ⟨v, hv, rfl⟩ := hw
    obtain ⟨ha, hend⟩ := hs.group n a h
    exact hs.append v _ (ih ha hv) (hend v hv)
  | seq a b iha ihb =>
    obtain ⟨u, hu, v, hv, rfl⟩ := hw
    obtain ⟨ha, hb⟩ := hs.seq a b h
    exact hs.append u v (iha ha hu) (ihb hb hv)
  | alt a b iha ihb =>
    obtain ⟨ha, hb⟩ := hs.alt a b h
    exact hw.elim (iha ha) (ihb hb)
  | star greedy a ih =>
    exact kstar_induction hs.nil hs.append (fun w hw => ih (hs.star greedy a h) hw) w hw
  | span greedy s =>
    exact kstar_induction hs.nil hs.append (hset s (hs.span greedy s h)) w hw
  | empty | look | mark =>
    obtain rfl : w = [] := hw
    exact hs.nil

theorem keeps_spreads (test : CharTest) :
    Spreads (keeps test) fun w => ∀ c ∈ Event.text w, test.char c = true where
  nil := List.forall_mem_nil _
  append := by
    intro u v hu hv c hc
    rw [text_append] at hc
    exact (List.mem_append.mp hc).elim (hu c) (hv c)
  text := by
    intro t ht
    rw [text_chars]
    exact List.all_eq_true.mp ht
  set := by
    intro s c hs hc c' hc'
    rw [List.mem_singleton.mp hc']
    exact test.sound s c hs hc
  span _ _ h := h
  group _ _ h := ⟨h, fun _ _ => List.forall_mem_nil _⟩
  seq _ _ := Bool.and_eq_true_iff.mp
  alt _ _ := Bool.and_eq_true_iff.mp
  star _ _ h := h

theorem keeps_sound (h : program.keeps test = true) (hw : w ∈ program.words) :
    ∀ c ∈ Event.text w, test.char c = true :=
  (keeps_spreads test).holds h hw

theorem keepsIn_spreads (number : Nat) (test : CharTest) :
    Spreads (keepsIn number test) fun w =>
      ∀ t, .group number t ∈ w → ∀ c ∈ t, test.char c = true where
  nil t ht := absurd ht List.not_mem_nil
  append u v hu hv t ht := (List.mem_append.mp ht).elim (hu t) (hv t)
  text := by
    intro t' _ t ht
    obtain ⟨c, -, hc⟩ := List.mem_map.mp ht
    cases hc
  set := by
    intro s c _ _ t ht
    cases List.mem_singleton.mp ht
  span _ _ _ := rfl
  group := by
    intro n a h
    obtain ⟨hin, ha⟩ := Bool.and_eq_true_iff.mp h
    refine ⟨ha, fun w hw t ht => ?_⟩
    cases List.mem_singleton.mp ht
    exact keeps_sound (by simpa using hin) hw
  seq _ _ := Bool.and_eq_true_iff.mp
  alt _ _ := Bool.and_eq_true_iff.mp
  star _ _ h := h

theorem keepsIn_sound (h : program.keepsIn number test = true) (hw : w ∈ program.words) :
    ∀ t, .group number t ∈ w → ∀ c ∈ t, test.char c = true :=
  (keepsIn_spreads number test).holds h hw

/-! ## Repeated sets -/

/-- A program that repeats a set matches where a member of the set follows. -/
theorem first?_isSome_of_repeats {s : CharSet} {place : Cursor} {c : Char} {rest : Text}
    (h : program.repeats? = some s) (hrest : place.rest = c :: rest) (hc : s.contains c = true) :
    (program.first? place).isSome := by
  obtain ⟨greedy, s', rfl⟩ : ∃ greedy s', program = .seq (.set s) (.span greedy s') := by
    unfold repeats? at h
    split at h
    · cases h
      exact ⟨_, _, rfl⟩
    · cases h
  have hshorter : ∀ (p : Path) (shorter : List Path) (pos : Nat) (rest : Text), shorter ≠ [] →
      Path.runOf s'.contains (fun _ => false) p shorter pos rest ≠ [] := by
    intro p shorter pos rest hs
    induction rest generalizing shorter pos with
    | nil => exact hs
    | cons c rest ih =>
      simp only [Path.runOf]
      split
      · exact ih _ _ (List.cons_ne_nil _ _)
      · exact hs
  have hset : (Path.start place).advanceIf? s.contains = some (Path.start place).advance := by
    rw [Path.advanceIf?, Path.start, hrest, if_pos (by simpa using hc)]
  have hpaths : (Program.seq (.set s) (.span greedy s')).paths [Path.start place]
      = Path.runFrom s'.contains (fun _ => false) greedy (Path.start place).advance := by
    rw [paths, paths, paths, List.filterMap_cons_some hset]
    rfl
  rw [first?, hpaths, List.isSome_head?, Path.runFrom]
  split
  · exact hshorter _ _ _ _ (List.cons_ne_nil _ _)
  · exact List.reverse_ne_nil_iff.mpr (hshorter _ _ _ _ (List.cons_ne_nil _ _))

end Program

/-- The match of a program that needs any character at all is not empty. -/
theorem matchAt?_advances {r : Regex} {place : Cursor} {m : Match}
    (hneeds : r.program.needs .all = true) (h : r.matchAt? place = some m) :
    m.whole.isEmpty = false := by
  obtain ⟨w, hw, d, hread⟩ := matchAt?_reads h
  obtain ⟨c, hc, -⟩ := Program.needs_sound hneeds hw
  have hlt : place.pos < d.pos := hread.passes.lt (List.ne_nil_of_mem hc)
  rw [hread.whole, Extent.isEmpty]
  exact beq_false_of_ne (Nat.ne_of_lt hlt)

end Regex

end TableLexer
