import TableLexer.Proofs.Pattern.Pool
import TableLexer.Proofs.Pattern.Settled
import TableLexer.Proofs.Regex.Reader

/-!
# A reference to a fragment

A reference stands for its fragment in a group that does not capture. The group takes one
level of nesting, so a fragment that nests as deep as patterns may cannot be referred to, and
in verbose mode a comment at the end of the fragment swallows the end of the group. All other
fragments that are patterns can be referred to, and the reference matches as the fragment does.

Results:
1. `Matcher.compile_group`: a pattern in a group has the same program, if it has one there.
2. `Pool.Arises.compile_reference_iff`: which fragments can be referred to.
3. `Pool.Arises.compile_reference`: a reference to one of them matches like it.
-/

namespace TableLexer

variable {flags : PatternFlags} {f : Fragments} {p : Pool} {name r : Text} {m : Matcher}

/-- A reference to the fragment of the name. -/
def reference (name : Text) : Text := Piece.write (.reference name)

/-- The pattern in a group that does not capture. -/
def grouped (r : Text) : Text := "(?:".toList ++ r ++ [')']

/-- A pattern in a group compiles to what it compiles to by itself, or not at all. -/
theorem Matcher.compile_group {m' : Matcher} (h : Matcher.compile r flags = .ok m) :
    Matcher.compile (grouped r) flags = .ok m' ↔
      m' = { m with pattern := grouped r } ∧
        ¬ Regex.Parser.Nests flags.mode r Regex.Parser.maxHeight ∧
        ¬ Regex.Parser.EndsInComment flags.mode r := by
  obtain ⟨regex, hregex, rfl⟩ := compile_eq_ok_iff.mp h
  obtain ⟨tree, htree, rfl⟩ := Option.map_eq_some_iff.mp hregex
  rw [compile_eq_ok_iff]
  constructor
  · rintro ⟨regex', hregex', rfl⟩
    obtain ⟨tree', htree', rfl⟩ := Option.map_eq_some_iff.mp hregex'
    obtain ⟨rfl, hread⟩ := (Regex.Parser.parse_group htree).mp htree'
    exact ⟨rfl, hread⟩
  · rintro ⟨rfl, hread⟩
    have hgroup := (Regex.Parser.parse_group htree).mpr ⟨rfl, hread⟩
    exact ⟨_, Option.map_eq_some_iff.mpr ⟨tree, hgroup, rfl⟩, rfl⟩

theorem Fragments.notMem_of_isName (h : isName name = true) : '\x7d' ∉ name := by
  intro hmem
  have hall := (Bool.and_eq_true_iff.mp h).2
  exact absurd (List.all_eq_true.mp hall _ hmem) (by decide)

theorem Fragments.expand_reference (hname : isName name = true) (hget : f.get? name = some r)
    (hr : Settled r) : f.expand (reference name) = .ok (grouped r) := by
  obtain ⟨l, hread, hfills⟩ := hr.expands f
  exact expand_ok_iff.mpr ⟨[.reference name], .reference (notMem_of_isName hname) .nil,
    .reference hname hget hread hfills .nil⟩

/-- A fragment without references that is a pattern can be referred to exactly if it nests on
fewer levels than patterns may and does not end in a comment that has not been ended, and then the
matcher is its own, with the text of the group. -/
theorem Pool.Arises.compile_reference_iff {m' : Matcher} (hp : p.Arises flags f)
    (hname : Fragments.isName name = true) (hget : f.get? name = some r) (hr : Settled r)
    (hm : Matcher.compile r flags = .ok m) :
    (∃ slot q, p.compile (reference name) = .ok (⟨slot, m'⟩, q)) ↔
      m' = { m with pattern := grouped r } ∧
        ¬ Regex.Parser.Nests flags.mode r Regex.Parser.maxHeight ∧
        ¬ Regex.Parser.EndsInComment flags.mode r := by
  have hexpand := Fragments.expand_reference hname hget hr
  rw [hp.compile_iff, ← Matcher.compile_group hm]
  constructor
  · rintro ⟨expanded, hexpand', hm'⟩
    cases hexpand.symm.trans hexpand'
    exact hm'
  · exact fun hm' => ⟨grouped r, hexpand, hm'⟩

/-- A fragment without references that is a pattern can be referred to, if it nests on fewer
levels than patterns may and does not end in a comment that has not been ended. The reference has
as many groups as the fragment and matches the same at every place. -/
theorem Pool.Arises.compile_reference (hp : p.Arises flags f)
    (hname : Fragments.isName name = true) (hget : f.get? name = some r) (hr : Settled r)
    (hm : Matcher.compile r flags = .ok m)
    (hlevels : ¬ Regex.Parser.Nests flags.mode r Regex.Parser.maxHeight)
    (hcomment : ¬ Regex.Parser.EndsInComment flags.mode r) :
    ∃ slot q m', p.compile (reference name) = .ok (⟨slot, m'⟩, q) ∧
      m'.groupCount = m.groupCount ∧ ∀ text pos, m'.matchAt? text pos = m.matchAt? text pos := by
  obtain ⟨slot, q, hc⟩ := (hp.compile_reference_iff hname hget hr hm).mpr ⟨rfl, hlevels, hcomment⟩
  exact ⟨slot, q, _, hc, rfl, fun _ _ => rfl⟩

/-- A choice with a comment that is ended, in verbose mode. -/
theorem Pool.Arises.compile_reference_choice :
    let flags : PatternFlags := { PatternFlags.standard with verbose := true }
    let r := "(a | bc)? # two words\n".toList
    let f : Fragments := ⟨[("x".toList, r)]⟩
    ∃ m, Matcher.compile r flags = .ok m ∧
      ∃ slot q m', (Pool.new flags f).compile (reference "x".toList) = .ok (⟨slot, m'⟩, q) ∧
        m'.groupCount = m.groupCount ∧
        ∀ text pos, m'.matchAt? text pos = m.matchAt? text pos := by
  intro flags r f
  have hok : Succeeds (Matcher.compile r flags) := by decide +kernel
  have hexpand : f.expand r = .ok r := by decide +kernel
  obtain ⟨m, hm⟩ := hok
  refine ⟨m, hm, compile_reference .new (by decide) rfl (Fragments.expand_eq_self.mp hexpand) hm
    (by decide +kernel) fun hends => ?_⟩
  have halone : (Regex.Parser.parse flags.mode r).isSome = true := by decide +kernel
  have hclosed : (Regex.Parser.parse flags.mode (r ++ [')'])).isSome = false := by decide +kernel
  rw [hends [] List.not_mem_nil, halone] at hclosed
  cases hclosed

/-- In verbose mode a letter and a comment that has not been ended are a pattern without
references, but cannot be referred to: the comment swallows the end of the group. -/
theorem not_compile_reference_comment :
    let flags : PatternFlags := { PatternFlags.standard with verbose := true }
    let f : Fragments := ⟨[("x".toList, "a#c".toList)]⟩
    Succeeds (Matcher.compile "a#c".toList flags) ∧
      f.expand "a#c".toList = .ok "a#c".toList ∧
      ¬ Succeeds ((Pool.new flags f).compile (reference "x".toList)) := by
  decide +kernel

/-- A letter in as many groups as may be nested. -/
def deepest : Text := List.replicate 250 '(' ++ 'a' :: List.replicate 250 ')'

/-- It is a pattern without references as well, but the group of a reference is one level more. -/
theorem not_compile_reference_deepest :
    let f : Fragments := ⟨[("x".toList, deepest)]⟩
    Succeeds (Matcher.compile deepest .standard) ∧
      f.expand deepest = .ok deepest ∧
      ¬ Succeeds ((Pool.new .standard f).compile (reference "x".toList)) := by
  decide +kernel

end TableLexer
