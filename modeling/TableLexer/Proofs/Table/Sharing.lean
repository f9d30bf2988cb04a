import TableLexer.Proofs.Table.Closure
import TableLexer.Proofs.Table.Validity

/-!
# Matchers that rules share

A rule can stand in many states: where it is written, where it is spliced, and in synthetic states.
Each of them has a copy, and other rules were compiled in between. But all rules of a table come
out again when they are compiled with the stock at the end, and in one stock an expansion has one
slot. So two rules share their matcher exactly if they have the same expansion, whichever states
they are taken from, and whether a regular expression or a list of words is written for them.

Results:
1. `rule_carries`: a rule has the matcher of the pattern that is written for it.
2. `sharesMatcher_iff`: rules of one stock share their matcher if they have the same expansion.
3. `build_shares`: so do all rules of a table.
-/

namespace TableLexer

open Grammar Build

/-! ## Definitions -/

/-- What a pattern comes down to: of a list of words the regular expression for it, and all
references replaced. -/
def Grammar.expansion (g : Grammar) (p : PatternSpec) : Except PatternError Text :=
  patternText p >>= g.fragments.expand

/-- The rule has a matcher if a pattern is written: that of its expansion, with the flags of the
grammar. -/
def Grammar.Carries (g : Grammar) (spec : RuleSpec) (r : Rule) : Prop :=
  Option.Rel (fun p found => g.expansion p = .ok found.matcher.pattern ∧
    found.matcher.flags = g.flags) spec.pattern r.matcher

/-! ## Rules of one stock -/

section

variable {library : Library} {g : Grammar} {s : Stock} {spec spec' : RuleSpec} {r r' : Rule}
  {p : Pooled}

theorem rule_carries (hs : s.pool.Genuine g)
    (h : Build.rule library g.stateNames "" spec s = .ok (r, s)) : g.Carries spec r := by
  obtain ⟨hspec, hm, -⟩ | ⟨written, text, found, hspec, hm, htext, hcompile⟩ :=
    matcher_cases (rule_parts h).1
  · rw [Carries, hspec, hm]
    exact .none
  · rw [Carries, hspec, hm]
    have hexpand : g.fragments.expand text = .ok found.matcher.pattern :=
      hs.fragments ▸ Pool.compile_pattern hcompile
    exact .some ⟨bind_eq_ok_iff.mpr ⟨text, htext, hexpand⟩,
      Pool.flags_of_compile (Pool.compile_genuine hs hcompile).2⟩

theorem Grammar.Carries.flags (h : g.Carries spec r) (hp : p ∈ r.matcher) :
    p.matcher.flags = g.flags := by
  unfold Carries at h
  rw [Option.mem_def.mp hp] at h
  cases hspec : spec.pattern with
  | none =>
    rw [hspec] at h
    cases h
  | some written =>
    rw [hspec] at h
    cases h with
    | some h => exact h.2

/-- The matcher of a rule is found again in the pool of its stock. -/
theorem exists_compile_of_mem_matcher
    (h : Build.rule library g.stateNames "" spec s = .ok (r, s)) (hp : p ∈ r.matcher) :
    ∃ text, s.pool.compile text = .ok (p, s.pool) := by
  obtain ⟨-, hm, -⟩ | ⟨-, text, found, -, hm, -, hcompile⟩ := matcher_cases (rule_parts h).1
  · cases hm.symm.trans (Option.mem_def.mp hp)
  · cases hm.symm.trans (Option.mem_def.mp hp)
    exact ⟨text, hcompile⟩

theorem Rule.sharesMatcher_eq_true : r.sharesMatcher r' = true ↔
    ∃ p ∈ r.matcher, ∃ q ∈ r'.matcher, p.slot = q.slot := by
  unfold sharesMatcher
  cases r.matcher <;> cases r'.matcher <;> simp

theorem sharesMatcher_iff (h : Build.rule library g.stateNames "" spec s = .ok (r, s))
    (h' : Build.rule library g.stateNames "" spec' s = .ok (r', s)) :
    r.sharesMatcher r' = true ↔
      ∃ p ∈ r.matcher, ∃ q ∈ r'.matcher, p.matcher.pattern = q.matcher.pattern := by
  rw [Rule.sharesMatcher_eq_true]
  refine exists_congr fun p => and_congr_right fun hp => exists_congr fun q =>
    and_congr_right fun hq => ?_
  obtain ⟨text, hcompile⟩ := exists_compile_of_mem_matcher h hp
  obtain ⟨text', hcompile'⟩ := exists_compile_of_mem_matcher h' hq
  exact Pool.slot_eq_iff hcompile hcompile'

end

/-! ## Tables -/

namespace Grammar

variable {library : Library} {g : Grammar} {t : Table}

/-- Each rule of a table that has been built carries the pattern that is written for it, in the
states in which it stands and in synthetic ones, and any two rules of the table, from whichever
states, share their matcher exactly if both have a pattern and the expansions are the same. All
matchers have the flags of the table. -/
theorem build_shares (h : g.build library = .ok t) :
    (∀ name ∈ g.stateNames, ∃ rules, t.resolve name = .ok rules ∧
      List.Forall₂ g.Carries (g.flat name) rules) ∧
    (∀ id, ∀ r ∈ t.rules id, ∃ name ∈ g.stateNames, ∃ spec ∈ g.flat name, g.Carries spec r) ∧
    (∀ id, ∀ r ∈ t.rules id, ∀ p ∈ r.matcher, p.matcher.flags = t.flags) ∧
    ∀ id id', ∀ r ∈ t.rules id, ∀ r' ∈ t.rules id', r.sharesMatcher r' = true ↔
      ∃ p ∈ r.matcher, ∃ q ∈ r'.matcher, p.matcher.pattern = q.matcher.pattern := by
  obtain ⟨s, hs, rfl⟩ := (build_eq_ok_iff (build_wellSpliced h)).mp h
  have hgenuine := stock?_genuine hs
  have hrule : ∀ id, ∀ r ∈ (g.assemble (g.rulesAt library s) s.combined).rules id,
      ∃ name ∈ g.stateNames, ∃ spec ∈ g.flat name,
        Build.rule library g.stateNames "" spec s = .ok (r, s) := by
    intro id r hr
    obtain ⟨id', hr'⟩ := exists_of_mem_assemble_rules hr
    exact rule_of_mem_rulesAt hs hr'
  refine ⟨fun name hname => ?_, fun id r hr => ?_, fun id r hr p hp => ?_,
    fun id id' r hr r' hr' => ?_⟩
  · obtain ⟨i, hi⟩ := findIdx?_of_mem hname
    exact ⟨_, assemble_resolve hi,
      (rules?_each (rules?_rulesAt hs hi)).imp fun _ _ hx => rule_carries hgenuine hx⟩
  · obtain ⟨name, hname, spec, hspec, hcompiled⟩ := hrule id r hr
    exact ⟨name, hname, spec, hspec, rule_carries hgenuine hcompiled⟩
  · obtain ⟨name, hname, spec, hspec, hcompiled⟩ := hrule id r hr
    exact (rule_carries hgenuine hcompiled).flags hp
  · obtain ⟨-, -, spec, -, hcompiled⟩ := hrule id r hr
    obtain ⟨-, -, spec', -, hcompiled'⟩ := hrule id' r' hr'
    exact sharesMatcher_iff hcompiled hcompiled'

/-- A grammar in which one expansion is written as a list of words, as a regular expression and with
a reference, and another one is only like it; the first state has rules of both others. -/
def threeWays : Grammar :=
  ((((Grammar.new "three").withFragment "kw".toList "if|in".toList).state rootState
    [.splice "words",
    .rule ⟨some (.regex "(?:if|in)".toList), .kind .text, [.pushCombined ["words", "other"]]⟩,
    .rule ⟨none, .nothing, []⟩]).state "words"
    [.rule ⟨some (.words ["in".toList, "if".toList, "in".toList] [] []), .kind .keyword, []⟩]).state
    "other"
    [.rule ⟨some (.regex "\x7b:kw\x7d".toList), .kind .name, []⟩,
    .rule ⟨some (.regex "(?:in|if)".toList), .kind .name, []⟩]

theorem build_shares_threeWays : ∃ t, threeWays.build [] = .ok t ∧
    (∃ r ∈ t.rules ⟨0⟩, ∃ r' ∈ t.rules ⟨2⟩, r.action ≠ r'.action ∧ r.sharesMatcher r' = true) ∧
    ∃ r ∈ t.rules ⟨3⟩, ∃ r' ∈ t.rules ⟨2⟩, r.action = r'.action ∧ r.sharesMatcher r' ≠ true := by
  obtain ⟨t, ht, ⟨r, hr, r', hr', haction, hsame⟩, e, he, e', he', heq, hother⟩ :
      ∃ t, threeWays.build [] = .ok t ∧
        (∃ r ∈ t.rules ⟨0⟩, ∃ r' ∈ t.rules ⟨2⟩, r.action ≠ r'.action ∧
          ∃ p ∈ r.matcher, ∃ q ∈ r'.matcher, p.matcher.pattern = q.matcher.pattern) ∧
        ∃ r ∈ t.rules ⟨3⟩, ∃ r' ∈ t.rules ⟨2⟩, r.action = r'.action ∧
          ¬ ∃ p ∈ r.matcher, ∃ q ∈ r'.matcher, p.matcher.pattern = q.matcher.pattern :=
    ⟨_, rfl, by decide⟩
  obtain ⟨-, -, -, hshares⟩ := build_shares ht
  exact ⟨t, ht, ⟨r, hr, r', hr', haction, (hshares _ _ r hr r' hr').mpr hsame⟩,
    e, he, e', he', heq, fun hs => hother ((hshares _ _ e he e' he').mp hs)⟩

end Grammar

end TableLexer
