import TableLexer.Proofs.Regex.Tokens

/-!
# Reading in a group

The reader knows nothing of the groups around the outermost one that it has seen opened, and
comes back to them only at a closing parenthesis. So a pattern is read inside a group as it is
read alone, up to the parenthesis that closes the group.

Results:
1. `Parser.run_append`: reading a pattern with a closing parenthesis behind it.
2. `Parser.parse_group`: what is read of a pattern in a group that does not capture.
-/

namespace TableLexer.Regex.Parser

/-! ## Groups around the reader -/

namespace State

/-- The reader inside of more groups. -/
def under (s : State) (frames : List Frame) : State := { s with around := s.around ++ frames }

variable {s s' : State} {token : Token} {frames : List Frame}

@[simp] theorem under_frame : (s.under frames).frame = s.frame := rfl

@[simp] theorem under_around : (s.under frames).around = s.around ++ frames := rfl

@[simp] theorem under_mode : (s.under frames).mode = s.mode := rfl

@[simp] theorem under_names : (s.under frames).names = s.names := rfl

theorem enter?_under {o : Opening} (h : s.enter? o = some s') :
    (s.under frames).enter? o = some (s'.under frames) := by
  cases o with
  | flags flags =>
    cases h
    rfl
  | plain flags =>
    cases h
    rfl
  | numbered =>
    cases h
    rfl
  | named name =>
    rw [enter?] at h ⊢
    split at h
    · cases h
    · next hnew =>
      cases h
      exact if_neg hnew

theorem closeGroup?_under (h : s.closeGroup? = some s') :
    (s.under frames).closeGroup? = some (s'.under frames) := by
  unfold closeGroup? at h
  split at h
  · cases h
  · next parent around heq =>
    cases h
    simp only [closeGroup?, under_around, heq]
    rfl

theorem repeatLast?_under {min : Nat} {max : Option Nat} {lazy : Bool}
    (h : s.repeatLast? min max lazy = some s') :
    (s.under frames).repeatLast? min max lazy = some (s'.under frames) := by
  unfold repeatLast? at h ⊢
  rw [under_frame]
  split at h
  · next item items heq =>
    split at h
    · cases h
    · next hitem =>
      cases h
      exact if_neg hitem
  · cases h

/-- A token is applied inside of more groups as it is without them. -/
theorem accept?_under (h : s.accept? token = some s') :
    (s.under frames).accept? token = some (s'.under frames) := by
  cases token with
  | opening o => exact enter?_under h
  | closing => exact closeGroup?_under h
  | bar =>
    cases h
    rfl
  | item tree height =>
    cases h
    rfl
  | repetition min max lazy => exact repeatLast?_under h

/-- The number of the outermost group, if it captures. -/
def outermost (s : State) : Option Nat := (s.around.map Frame.number).getLastD s.frame.number

theorem outermost_openGroup (number : Option Nat) (mode : Mode) :
    (s.openGroup number mode).outermost = s.outermost :=
  List.getLastD_cons

theorem outermost_enter? {o : Opening} (h : s.enter? o = some s') : s'.outermost = s.outermost := by
  cases o with
  | flags flags =>
    cases h
    rfl
  | plain flags =>
    cases h
    exact outermost_openGroup ..
  | numbered =>
    cases h
    exact outermost_openGroup _ s.mode
  | named name =>
    rw [enter?] at h
    split at h
    · cases h
    · cases h
      exact outermost_openGroup _ s.mode

/-- A group that is closed is not the outermost one. -/
theorem outermost_closeGroup? (h : s.closeGroup? = some s') : s'.outermost = s.outermost := by
  unfold closeGroup? at h
  split at h
  · cases h
  · next parent around heq =>
    cases h
    rw [outermost, outermost, heq, List.map_cons, List.getLastD_cons]
    rfl

theorem outermost_repeatLast? {min : Nat} {max : Option Nat} {lazy : Bool}
    (h : s.repeatLast? min max lazy = some s') : s'.outermost = s.outermost := by
  unfold repeatLast? at h
  split at h
  · split at h
    · cases h
    · cases h
      rfl
  · cases h

theorem outermost_accept? (h : s.accept? token = some s') : s'.outermost = s.outermost := by
  cases token with
  | opening o => exact outermost_enter? h
  | closing => exact outermost_closeGroup? h
  | bar =>
    cases h
    rfl
  | item tree height =>
    cases h
    rfl
  | repetition min max lazy => exact outermost_repeatLast? h

end State

/-! ## Reading to the end -/

variable {s s' : State} {rest rest' : Text}

theorem step_eq_some (h : step s rest = some (s', rest')) :
    ∃ token, token? s.mode rest = some (token, rest') ∧ s.accept? token = some s' := by
  rw [step_eq] at h
  obtain ⟨⟨token, after⟩, htoken, h⟩ := Option.bind_eq_some_iff.mp h
  obtain ⟨s₁, happly, heq⟩ := Option.map_eq_some_iff.mp h
  cases heq
  exact ⟨token, htoken, happly⟩

theorem length_lt_of_step (h : step s rest = some (s', rest')) : rest'.length < rest.length := by
  obtain ⟨token, htoken, -⟩ := step_eq_some h
  exact (takes_token? htoken).2

theorem readAll_fuel {fuel fuel' : Nat} (h : rest.length < fuel) (h' : rest.length < fuel') :
    readAll fuel s rest = readAll fuel' s rest := by
  refine eq_of_bounded (fun fuel x => readAll fuel x.1 x.2) (fun x => x.2.length + 1)
    (fun _ _ h => absurd h (Nat.succ_ne_zero _)) ?_ (x := (s, rest)) h h'
  rintro fuel fuel' ⟨s, rest⟩ ih
  simp only [readAll]
  split
  · rfl
  · cases hstep : step s (s.mode.skip rest) with
    | none => rfl
    | some x =>
      exact ih x (Nat.succ_lt_succ
        (Nat.lt_of_lt_of_le (length_lt_of_step hstep) (s.mode.length_skip_le rest)))

/-- The end of reading, without a bound. -/
def run (s : State) (rest : Text) : Option State := readAll (rest.length + 1) s rest

theorem run_nil (h : s.mode.skip rest = []) : run s rest = some s := by
  rw [run, readAll, h]

theorem run_cons (h : s.mode.skip rest ≠ []) :
    run s rest = (step s (s.mode.skip rest)).bind fun x => run x.1 x.2 := by
  rw [run, readAll]
  split
  · next hskip => exact absurd hskip h
  · cases hstep : step s (s.mode.skip rest) with
    | none => rfl
    | some x =>
      have hlt := length_lt_of_step hstep
      have hle := s.mode.length_skip_le rest
      exact readAll_fuel (by omega) (Nat.lt_succ_self _)

theorem run_skip (s : State) (rest : Text) : run s rest = run s (s.mode.skip rest) := by
  by_cases h : s.mode.skip rest = []
  · rw [run_nil h, h, run_nil (s.mode.skip_closes closes_nil)]
  · rw [run_cons h, run_cons (by rwa [s.mode.skip_skip]), s.mode.skip_skip]

/-- Reading inside of more groups, with a closing parenthesis and more behind: the reader comes
to the parenthesis, or all behind is lost in a comment. By induction on what is left to read, which
may be lost before the next token or with it. -/
theorem run_append (h : run s rest = some s') :
    (∀ frames t, Closes t → run (s.under frames) (rest ++ t) = run (s'.under frames) t) ∨
      ∀ frames t, Closes t → '\n' ∉ t →
        run (s.under frames) (rest ++ t) = some (s'.under frames) := by
  induction hlen : rest.length using Nat.strongRecOn generalizing s rest with
  | _ length ih =>
  subst hlen
  have hskipped : ∀ {frames : List Frame} {x y : Text}, s.mode.skip x = y →
      run (s.under frames) x = run (s.under frames) y := by
    rintro frames x y rfl
    exact run_skip (s.under frames) x
  by_cases hnil : s.mode.skip rest = []
  · obtain rfl : s = s' := Option.some.inj ((run_nil hnil).symm.trans h)
    rcases (s.mode.takes_skip false rest).behind with hb | ⟨-, hb⟩
    · refine .inl fun frames t ht => ?_
      exact hskipped ((hb t ht).trans (by rw [hnil]; rfl))
    · refine .inr fun frames t ht hn => ?_
      exact run_nil (hb t ht hn)
  have hbehind : ∀ t, Closes t → s.mode.skip (rest ++ t) = s.mode.skip rest ++ t := by
    rcases (s.mode.takes_skip false rest).behind with hb | ⟨hq, -⟩
    · exact hb
    · exact absurd hq hnil
  rw [run_cons hnil] at h
  obtain ⟨⟨s₁, after⟩, hstep, hrun⟩ := Option.bind_eq_some_iff.mp h
  obtain ⟨token, htoken, happly⟩ := step_eq_some hstep
  obtain ⟨htakes, hlt⟩ := takes_token? htoken
  have hnext : ∀ frames t after', Closes t →
      token? s.mode (s.mode.skip rest ++ t) = some (token, after') →
        run (s.under frames) (rest ++ t) = run (s₁.under frames) after' := by
    intro frames t after' ht htoken'
    have hskip : (s.under frames).mode.skip (rest ++ t) = s.mode.skip rest ++ t := hbehind t ht
    rw [run_cons, hskip, step_eq]
    · show (Option.bind (token? s.mode (s.mode.skip rest ++ t)) _).bind _ = _
      rw [htoken']
      show Option.bind (Option.map _ ((s.under frames).accept? token)) _ = _
      rw [State.accept?_under happly]
      rfl
    · rw [hskip]
      exact List.append_ne_nil_of_left_ne_nil hnil t
  rcases htakes.behind with hb | ⟨rfl, hb⟩
  · have hle := s.mode.length_skip_le rest
    rcases ih _ (Nat.lt_of_lt_of_le hlt hle) hrun rfl with hih | hih
    · exact .inl fun frames t ht => (hnext frames t _ ht (hb t ht)).trans (hih frames t ht)
    · exact .inr fun frames t ht hn => (hnext frames t _ ht (hb t ht)).trans (hih frames t ht hn)
  · refine .inr fun frames t ht hn => (hnext frames t _ ht (hb t ht hn)).trans ?_
    have hempty : s₁.mode.skip [] = [] := s₁.mode.skip_closes closes_nil
    obtain rfl : s₁ = s' := Option.some.inj ((run_nil hempty).symm.trans hrun)
    exact run_nil hempty

theorem outermost_run (h : run s rest = some s') : s'.outermost = s.outermost := by
  induction hlen : rest.length using Nat.strongRecOn generalizing s rest with
  | _ length ih =>
  subst hlen
  by_cases hnil : s.mode.skip rest = []
  · rw [Option.some.inj ((run_nil hnil).symm.trans h)]
  · rw [run_cons hnil] at h
    obtain ⟨⟨s₁, after⟩, hstep, hrun⟩ := Option.bind_eq_some_iff.mp h
    obtain ⟨token, -, happly⟩ := step_eq_some hstep
    have hlt := length_lt_of_step hstep
    have hle := s.mode.length_skip_le rest
    exact (ih _ (Nat.lt_of_lt_of_le hlt hle) hrun rfl).trans (State.outermost_accept? happly)

/-! ## A pattern in a group -/

variable {m : Mode} {p : Text} {tree : Tree}

/-- The pattern ends in a comment that has not been ended: a closing parenthesis behind it is lost
with all that follows on the same line. -/
def EndsInComment (m : Mode) (p : Text) : Prop :=
  ∀ rest, '\n' ∉ rest → parse m (p ++ ')' :: rest) = parse m p

/-- The pattern is written on that many levels. -/
def Nests (m : Mode) (p : Text) (levels : Nat) : Prop :=
  ∃ s, readAll (p.length + 1) (State.start m) p = some s ∧ s.frame.body.height = levels

instance (m : Mode) (p : Text) (levels : Nat) : Decidable (Nests m p levels) :=
  decidable_of_iff
    ((readAll (p.length + 1) (State.start m) p).any (·.frame.body.height = levels) = true)
    (by simp [Nests, Option.any_eq_true])

/-- The tree that has been read at the end of a pattern. -/
def State.finish? (s : State) : Option Tree :=
  if s.around.isEmpty then
    if s.frame.body.height ≤ maxHeight then some s.frame.body.tree else none
  else none

theorem parse_eq (m : Mode) (p : Text) : parse m p = (run (State.start m) p).bind State.finish? :=
  rfl

theorem State.finish?_eq_some :
    s.finish? = some tree ↔
      s.around = [] ∧ s.frame.body.height ≤ maxHeight ∧ s.frame.body.tree = tree := by
  unfold finish?
  split
  · next haround =>
    split
    · next hheight => simp [List.isEmpty_iff.mp haround, hheight]
    · next hheight => simp [hheight]
  · next haround => simp [mt List.isEmpty_iff.mpr haround]

theorem run_group (m : Mode) (rest : Text) :
    run (State.start m) ('(' :: '?' :: ':' :: rest)
      = run ((State.start m).under [(State.start m).frame]) rest := by
  have hopening : readOpening m ('?' :: ':' :: rest) = some (.plain [], rest) := by
    rw [readOpening_eq, m.skip_graphic (by decide)]
    rfl
  have hskip : (State.start m).mode.skip ('(' :: '?' :: ':' :: rest) = '(' :: '?' :: ':' :: rest :=
    m.skip_graphic (by decide)
  rw [run_cons (by rw [hskip]; exact List.cons_ne_nil _ _), hskip, step_eq]
  show ((Option.map _ (readOpening m ('?' :: ':' :: rest))).bind _).bind _ = _
  rw [hopening]
  rfl

/-- The parenthesis that closes the only group. -/
theorem run_close {f : Frame} (haround : s.around = []) (hnumber : s.frame.number = none)
    (rest : Text) :
    run (s.under [f]) (')' :: rest) =
      run { s with
        frame := f.push ⟨s.frame.body.tree, 1 + s.frame.body.height, false⟩
        mode := s.frame.outer } rest := by
  have hskip : (s.under [f]).mode.skip (')' :: rest) = ')' :: rest :=
    s.mode.skip_closes (by simp [Closes])
  have hclose : (s.under [f]).closeGroup? = some { s with
      frame := f.push ⟨s.frame.body.tree, 1 + s.frame.body.height, false⟩
      mode := s.frame.outer } := by
    simp [State.closeGroup?, haround, hnumber, State.under]
  rw [run_cons (by rw [hskip]; exact List.cons_ne_nil _ _), hskip]
  show (Option.map (·, rest) (s.under [f]).closeGroup?).bind _ = _
  rw [hclose]
  rfl

/-- A parenthesis that closes no group is wrong. -/
theorem run_unmatched (haround : s.around = []) (rest : Text) : run s (')' :: rest) = none := by
  have hskip : s.mode.skip (')' :: rest) = ')' :: rest := s.mode.skip_closes (by simp [Closes])
  have hclose : s.closeGroup? = none := by simp [State.closeGroup?, haround]
  rw [run_cons (by rw [hskip]; exact List.cons_ne_nil _ _), hskip]
  show (Option.map (·, rest) s.closeGroup?).bind _ = _
  rw [hclose]
  rfl

/-- A pattern is read in a group that does not capture as it is read alone if there is a level
left and the end of the group is not lost in a comment; if not, it is not read there at all. -/
theorem parse_group {tree' : Tree} (h : parse m p = some tree) :
    parse m ('(' :: '?' :: ':' :: (p ++ [')'])) = some tree' ↔
      tree' = tree ∧ ¬ Nests m p maxHeight ∧ ¬ EndsInComment m p := by
  rw [parse_eq] at h
  obtain ⟨s, hrun, hfinish⟩ := Option.bind_eq_some_iff.mp h
  obtain ⟨haround, hheight, htree⟩ := State.finish?_eq_some.mp hfinish
  have hnests : Nests m p maxHeight ↔ s.frame.body.height = maxHeight :=
    ⟨fun ⟨s', hs', heq⟩ => Option.some.inj (hrun.symm.trans hs') ▸ heq, fun heq => ⟨s, hrun, heq⟩⟩
  have halone : ∀ x : State, x.under [] = x := fun x => by rw [State.under, List.append_nil]
  have hcloses : ∀ t, Closes (')' :: t) := by simp [Closes]
  rw [parse_eq, run_group, hnests]
  rcases run_append hrun with hgroup | hlost
  · have hnumber : s.frame.number = none := by
      have hnone : s.outermost = none := outermost_run hrun
      simpa [State.outermost, haround] using hnone
    have hcomment : ¬ EndsInComment m p := by
      intro hends
      have hall := hgroup [] [')'] (hcloses [])
      rw [halone, halone, run_unmatched haround] at hall
      have hbad := hends [] List.not_mem_nil
      rw [parse_eq, parse_eq, hall, hrun] at hbad
      exact Option.some_ne_none _ (hbad.trans hfinish).symm
    have hbody : 1 + s.frame.body.height ≤ maxHeight ↔ s.frame.body.height ≠ maxHeight := by omega
    rw [hgroup _ _ (hcloses []), run_close haround hnumber,
      run_nil (Mode.skip_closes _ closes_nil)]
    refine State.finish?_eq_some.trans ?_
    constructor
    · rintro ⟨-, hle, htree'⟩
      exact ⟨htree'.symm.trans htree, hbody.mp hle, hcomment⟩
    · rintro ⟨rfl, hne, -⟩
      exact ⟨haround, hbody.mpr hne, htree⟩
  · have hcomment : EndsInComment m p := by
      intro rest hrest
      have hall := hlost [] (')' :: rest) (hcloses rest) (by simpa using hrest)
      rw [halone, halone] at hall
      rw [parse_eq, parse_eq, hall, hrun]
    rw [hlost _ _ (hcloses []) (by decide)]
    simp [hcomment, State.finish?]

end TableLexer.Regex.Parser
