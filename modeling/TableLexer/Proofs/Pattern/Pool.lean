import TableLexer.Pattern.Pool
import TableLexer.Proofs.Table.Success

/-!
# What pools compile

Whatever a pool has compiled before, a pattern gets the matcher that its expansion has by
itself, or the error that it has by itself. What has been compiled is found again at its slot, and
two patterns have one slot exactly if they have the same expansion.

Results:
1. `Sound.compile_alone`: what a pool makes of a pattern, but for the slot, does not depend on it.
2. `Arises.compile_iff`: the same of patterns that compile.
3. `compile_again`: a pattern that has been compiled is found again in any larger pool.
4. `slot_eq_iff`: the slots in one pool are those of the expansions.
-/

namespace TableLexer

theorem Matcher.compile_eq_ok_iff {flags : PatternFlags} {r : Text} {m : Matcher} :
    Matcher.compile r flags = .ok m ↔
      ∃ regex, Regex.compile flags.mode r = some regex ∧ m = ⟨r, flags, regex⟩ := by
  unfold Matcher.compile
  cases Regex.compile flags.mode r with
  | none => simp
  | some regex => simp [eq_comm]

namespace Pool

variable {flags : PatternFlags} {fragments : Fragments} {p q r : Pool} {text text' : Text}
  {m : Matcher} {found found' : Pooled}

/-! ## Definitions -/

/-- What a pattern compiles to by itself. -/
def alone (flags : PatternFlags) (fragments : Fragments) (text : Text) :
    Except PatternError Matcher :=
  fragments.expand text >>= (Matcher.compile · flags)

/-- The pools that come about by compiling patterns with the flags and fragments. -/
inductive Arises (flags : PatternFlags) (fragments : Fragments) : Pool → Prop
  | new : Arises flags fragments (.new flags fragments)
  | compile {p q : Pool} {text : Text} {found : Pooled} (h : Arises flags fragments p)
      (hc : p.compile text = .ok (found, q)) : Arises flags fragments q

/-- All matchers of the pool have been compiled with its flags. -/
structure Sound (flags : PatternFlags) (fragments : Fragments) (p : Pool) : Prop where
  sameFlags : p.flags = flags
  sameFragments : p.fragments = fragments
  matchers : ∀ m ∈ p.matchers, Matcher.compile m.pattern flags = .ok m

/-- The pool `q` has the matchers of `p` at the same slots and compiles alike. -/
structure Grows (p q : Pool) : Prop where
  flags : q.flags = p.flags
  fragments : q.fragments = p.fragments
  matchers : p.matchers <+: q.matchers

/-! ## One pattern -/

theorem compile_eq_ok_iff :
    p.compile text = .ok (found, q) ↔
      ∃ expanded, p.fragments.expand text = .ok expanded ∧
        (find? expanded 0 p.matchers = some found ∧ q = p ∨
          find? expanded 0 p.matchers = none ∧
            ∃ m, Matcher.compile expanded p.flags = .ok m ∧ found = ⟨p.count, m⟩ ∧
              q = { p with matchers := p.matchers ++ [m] }) := by
  rw [compile, bind_eq_ok_iff]
  refine exists_congr fun expanded => and_congr_right fun _ => ?_
  cases find? expanded 0 p.matchers with
  | some f =>
    simp only [Except.ok.injEq, Prod.mk.injEq, Option.some.injEq, reduceCtorEq, false_and, or_false]
    exact and_congr_right fun _ => eq_comm
  | none =>
    simp only [bind_eq_ok_iff, Except.ok.injEq, Prod.mk.injEq, reduceCtorEq, false_and, false_or,
      true_and]
    exact exists_congr fun m => and_congr_right fun _ => and_congr eq_comm eq_comm

theorem pattern_of_compile {expanded : Text} (h : Matcher.compile expanded flags = .ok m) :
    m.pattern = expanded := by
  obtain ⟨regex, -, rfl⟩ := Matcher.compile_eq_ok_iff.mp h
  rfl

theorem flags_of_compile {expanded : Text} (h : Matcher.compile expanded flags = .ok m) :
    m.flags = flags := by
  obtain ⟨regex, -, rfl⟩ := Matcher.compile_eq_ok_iff.mp h
  rfl

/-- What a pool makes of a pattern is what the pattern compiles to by itself, errors included. -/
theorem Sound.compile_alone (hp : p.Sound flags fragments) (text : Text) :
    (p.compile text).map (·.1.matcher) = alone flags fragments text := by
  obtain ⟨hflags, hfragments, hmatchers⟩ := hp
  rw [compile, alone, hfragments, hflags]
  cases fragments.expand text with
  | error e => rfl
  | ok expanded =>
    dsimp only [bind, Except.bind]
    cases hfind : find? expanded 0 p.matchers with
    | some found =>
      obtain ⟨-, hget, hpattern⟩ := find?_eq_some hfind
      exact (hpattern ▸ hmatchers _ (List.mem_of_getElem? hget)).symm
    | none => cases Matcher.compile expanded flags <;> rfl

theorem Sound.alone_of_compile (hp : p.Sound flags fragments)
    (h : p.compile text = .ok (found, q)) : alone flags fragments text = .ok found.matcher := by
  rw [← hp.compile_alone, h]
  rfl

/-- Which error a pattern gives does not depend on what has been compiled. -/
theorem Sound.compile_eq_error_iff (hp : p.Sound flags fragments) {e : PatternError} :
    p.compile text = .error e ↔ alone flags fragments text = .error e := by
  rw [← hp.compile_alone, map_eq_error_iff]

theorem Sound.kept (hp : p.Sound flags fragments) (h : p.compile text = .ok (found, q)) :
    q.Sound flags fragments := by
  obtain ⟨expanded, -, ⟨-, rfl⟩ | ⟨-, m, hm, -, rfl⟩⟩ := compile_eq_ok_iff.mp h
  · exact hp
  · rw [hp.sameFlags] at hm
    refine ⟨hp.sameFlags, hp.sameFragments, fun m' hm' => ?_⟩
    rcases List.mem_append.mp hm' with hm' | hm'
    · exact hp.matchers m' hm'
    · rw [List.mem_singleton.mp hm', pattern_of_compile hm, hm]

theorem Arises.sound (h : Arises flags fragments p) : p.Sound flags fragments := by
  induction h with
  | new => exact ⟨rfl, rfl, fun _ h => absurd h List.not_mem_nil⟩
  | compile _ hc ih => exact ih.kept hc

/-- A pool compiles exactly the patterns of which the expansion can be compiled, to its
matcher. -/
theorem Arises.compile_iff (h : Arises flags fragments p) :
    (∃ slot q, p.compile text = .ok (⟨slot, m⟩, q)) ↔
      ∃ expanded, fragments.expand text = .ok expanded ∧ Matcher.compile expanded flags = .ok m := by
  rw [← bind_eq_ok_iff, ← alone, ← h.sound.compile_alone, map_eq_ok_iff]
  constructor
  · rintro ⟨slot, q, hc⟩
    exact ⟨_, hc, rfl⟩
  · rintro ⟨⟨found, q⟩, hc, rfl⟩
    exact ⟨found.slot, q, hc⟩

/-! ## Growth -/

theorem Grows.refl (p : Pool) : p.Grows p := ⟨rfl, rfl, List.prefix_rfl⟩

theorem Grows.trans (h : p.Grows q) (h' : q.Grows r) : p.Grows r :=
  ⟨h'.flags.trans h.flags, h'.fragments.trans h.fragments, h.matchers.trans h'.matchers⟩

theorem Grows.antisymm (h : p.Grows q) (h' : q.Grows p) : p = q := by
  have hm : p.matchers = q.matchers := h.matchers.eq_of_length_le h'.matchers.length_le
  obtain ⟨hf, hs, -⟩ := h
  cases p
  cases q
  simp_all

theorem find?_append (expanded : Text) (slot : Nat) (ms more : List Matcher) :
    find? expanded slot (ms ++ more)
      = (find? expanded slot ms).or (find? expanded (slot + ms.length) more) := by
  induction ms generalizing slot with
  | nil => rfl
  | cons m ms ih =>
    rw [List.cons_append, find?, find?]
    split
    · rfl
    · rw [ih, List.length_cons, Nat.add_assoc, Nat.add_comm 1]

theorem compile_grows (h : p.compile text = .ok (found, q)) : p.Grows q := by
  obtain ⟨expanded, -, ⟨-, rfl⟩ | ⟨-, m, -, -, rfl⟩⟩ := compile_eq_ok_iff.mp h
  · exact .refl _
  · exact ⟨rfl, rfl, List.prefix_append _ _⟩

/-- A pattern that has been compiled is found again. -/
theorem compile_again (h : p.compile text = .ok (found, q)) (hr : q.Grows r) :
    r.compile text = .ok (found, r) := by
  have hfragments : r.fragments = p.fragments := hr.fragments.trans (compile_grows h).fragments
  obtain ⟨more, hmore⟩ := hr.matchers
  obtain ⟨expanded, hexpand, hcase⟩ := compile_eq_ok_iff.mp h
  refine compile_eq_ok_iff.mpr ⟨expanded, hfragments ▸ hexpand, .inl ⟨?_, rfl⟩⟩
  rw [← hmore, find?_append]
  rcases hcase with ⟨hfind, rfl⟩ | ⟨hfind, m, hm, rfl, rfl⟩
  · rw [hfind]
    rfl
  · rw [find?_append, hfind, find?, if_pos (pattern_of_compile hm), Nat.zero_add]
    rfl

/-! ## Slots -/

/-- What is found again has the first slot of its expansion. -/
theorem find?_of_compile (h : p.compile text = .ok (found, p)) :
    find? found.matcher.pattern 0 p.matchers = some found := by
  obtain ⟨expanded, -, ⟨hfind, -⟩ | ⟨-, m, -, -, hp⟩⟩ := compile_eq_ok_iff.mp h
  · rwa [(find?_eq_some hfind).2.2]
  · have hlength := congrArg count hp
    simp [count] at hlength

/-- Of patterns that a pool has compiled those have one slot that have one expansion. -/
theorem slot_eq_iff (h : p.compile text = .ok (found, p)) (h' : p.compile text' = .ok (found', p)) :
    found.slot = found'.slot ↔ found.matcher.pattern = found'.matcher.pattern := by
  constructor
  · intro hslot
    have hget := compile_slot h
    rw [hslot, compile_slot h'] at hget
    rw [Option.some.inj hget]
  · intro hpattern
    have hfind := find?_of_compile h
    rw [hpattern, find?_of_compile h'] at hfind
    rw [Option.some.inj hfind]

end Pool

end TableLexer
