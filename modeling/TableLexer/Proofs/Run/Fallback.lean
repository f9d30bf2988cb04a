import TableLexer.Proofs.Run.Renaming

/-!
# The fallback kind is a label

What no rule classifies gets the fallback kind: the gaps between the groups of a match and
the groups that are skipped, characters at which no rule matches or one is forced, and text
that is not lexed again because runs would nest too deeply. A run that goes on with another
fallback kind differs in nothing but the kinds of such tokens.

Results:
1. `withConfig_renamed`: the run with the other kind goes along with the first one.
2. `run_relabelled`: so its tokens have the same offsets and texts, and the two kinds are
   the only ones that stand for each other.
-/

namespace TableLexer

/-- One kind may stand in the place of another one. -/
def Relabelling.standIn (f g : Kind) : Relabelling :=
  ⟨fun a b => b = a ∨ (a = f ∧ b = g), fun _ => .inl rfl⟩

/-- The runs show the same, but for one kind that may stand in the place of another one. -/
structure Run.ShowsBut (f g : Kind) (r r' : Run) : Prop where
  rest : List.Forall₂ (Token.Relabelled (.standIn f g)) r.rest r'.rest
  given : ∀ n, List.Forall₂ (Token.Relabelled (.standIn f g)) (r.pull n).1 (r'.pull n).1
  position : ∀ n, (r'.pull n).2.position = (r.pull n).2.position
  stack : ∀ n, (r'.pull n).2.state.stack = (r.pull n).2.state.stack
  stackNames : ∀ n, (r'.pull n).2.stackNames = (r.pull n).2.stackNames

section

variable {L : Relabelling}

theorem Token.Relabelled.refl (t : Token) : t.Relabelled L t := ⟨rfl, L.refl _, rfl⟩

theorem Streak.Renamed.refl (s : Streak) : s.Renamed .same s :=
  ⟨rfl, rfl, List.forall₂_same.mpr fun _ _ => rfl⟩

theorem RunState.Renamed.refl (s : RunState) : s.Renamed .same s := by
  refine ⟨rfl, List.forall₂_same.mpr fun _ _ => rfl, ?_⟩
  cases s.streak with
  | none => exact .none
  | some streak => exact .some (.refl streak)

/-- Runs that go on from one state with corresponding limits correspond. -/
theorem withConfig_renamed (r : Run) {config config' : LexConfig}
    (hc : config.Relabelled L config') :
    (r.withConfig config).Renamed .same L (r.withConfig config') := by
  have hrelex : ∀ d d' text, Delegate.Renamed .same d d' →
      List.Forall₂ (Token.Relabelled L) (relex r.library config 0 r.table d text)
        (relex r.library config' 0 r.table d' text) :=
    fun _ _ text hd => relex_renamed r.library hc 0 (.refl r.table) hd text
  exact ⟨⟨.refl r.table, hc, List.forall₂_same.mpr fun _ _ => rfl, hrelex⟩, .refl r.state,
    List.forall₂_same.mpr fun t _ => .refl t⟩

end

/-- A run, just started or on its way, that goes on with another fallback kind gives as many
tokens as before, with the same offsets and texts, and is at the same places with the same
stacks whenever some of them have been asked for. A token either has the kind that it would
have had, or the one fallback kind instead of the other. -/
theorem run_relabelled (r : Run) (f g : Kind) (maxDepth maxEmptySteps : Nat) :
    (r.withConfig ⟨f, maxDepth, maxEmptySteps⟩).ShowsBut f g
      (r.withConfig ⟨g, maxDepth, maxEmptySteps⟩) := by
  have hconfig : LexConfig.Relabelled (.standIn f g) ⟨f, maxDepth, maxEmptySteps⟩
      ⟨g, maxDepth, maxEmptySteps⟩ := ⟨.inr ⟨rfl, rfl⟩, rfl, rfl⟩
  have hruns := withConfig_renamed r hconfig
  refine ⟨hruns.rest, fun n => (hruns.pull n).1, fun n => (hruns.pull n).2.position, fun n => ?_,
    fun n => (hruns.pull n).2.stackNames⟩
  have hstack : List.Forall₂ (· = ·) _ _ := (hruns.pull n).2.state.stack
  rw [List.forall₂_eq_eq_eq] at hstack
  exact hstack.symm

/-- A name in brackets, a character that is skipped, and text that is lexed again. -/
def skipping : Grammar :=
  (Grammar.new "skipping").state rootState
    [.rule ⟨some (.regex "<(a)(.)(.*)>".toList),
      .groups [.kind .name, .skip, .delegate (.root .this)], []⟩]

/-- The brackets are gaps, the second character of each pair is skipped, the inner run ends
at the limit, and no rule matches the last character. -/
example : ∃ table, skipping.build [] = .ok table ∧
    ∃ r, Run.start [] table [] "<ab<ab!>>.".toList = .ok r ∧
    ∀ fallback ∈ [Kind.text, Kind.other],
      (r.withConfig ⟨fallback, 1, 32⟩).rest.map Token.kind =
        [fallback, .name, fallback, fallback, .name, fallback, fallback, fallback, fallback,
          fallback] := by
  decide +kernel

end TableLexer
