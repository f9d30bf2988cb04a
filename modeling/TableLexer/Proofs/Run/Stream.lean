import TableLexer.Proofs.Run.Trace
import TableLexer.Proofs.Table.Success
import TableLexer.Run
import TableLexer.Table.Build

/-!
# The tokens of a run tile its text

A run is asked for one token after the other. Whatever the table, the stack and the
limits are, the tokens come one after the other without a gap, the first at the start
of the text and the last up to its end; and at any time the tokens given so far and
those still in the queue make up the text that has been consumed.

Results:
1. `relex_tile`: the tokens of nested runs tile the text they were started on.
2. `next_spec`, `pull_spec`: the tokens asked for are those that a run to its end
   gives.
3. `Abreast.next`, `Abreast.pull`: runs that steps keep in relation are kept so while they
   are asked for tokens.
4. `Reads.next`: asking for a token keeps tokens and consumed text in line.
5. `pulled_cover`: all of it, for as many tokens as are asked for.
-/

namespace TableLexer

open Cursor

/-! ## Nested runs -/

/-- The tokens of nested runs tile the text they were started on. -/
theorem relex_tile (library : Library) (config : LexConfig) (depth : Nat) (current : Table)
    (d : Delegate) {t : Text} (ht : t ≠ []) :
    Token.Tile 0 t (relex library config depth current d t) := by
  induction hn : config.maxDepth - depth generalizing depth current d t with
  | zero =>
    rw [relex, if_pos (by omega)]
    have hwhole : (⟨0, config.fallback, t⟩ : Token).text ≠ [] := ht
    exact Tiles.single hwhole
  | succ n ih =>
    rw [relex, if_neg (by omega)]
    refine RunContext.tokensOfText_tile ?_ t
    intro d' t' ht'
    exact ih (depth + 1) _ d' ht' (by omega)

namespace Run

variable {r : Run} {fuel n : Nat} {text : Text}

theorem relexTiles (r : Run) : r.context.RelexTiles :=
  fun d _ ht => relex_tile r.library r.config 0 r.table d ht

/-! ## Advancing -/

/-- There is a token to give, or the text has ended. -/
def Settled (r : Run) : Prop := r.queue ≠ [] ∨ r.state.place.rest = []

theorem settled_or (r : Run) : r.Settled ∨ (r.queue = [] ∧ r.state.place.rest ≠ []) := by
  by_cases hq : r.queue = []
  · by_cases hr : r.state.place.rest = []
    · exact .inl (.inr hr)
    · exact .inr ⟨hq, hr⟩
  · exact .inl (.inl hq)

/-- The run after a step. -/
def stepped (r : Run) : Run :=
  { r with state := (r.context.step r.state).2, queue := (r.context.step r.state).1 }

theorem advance_of_settled (h : r.Settled) : r.advance fuel = r := by
  cases fuel with
  | zero => rfl
  | succ fuel =>
    rw [advance, if_pos]
    rcases h with h | h
    · simp [h]
    · simp [h]

theorem advance_succ (hq : r.queue = []) (hr : r.state.place.rest ≠ []) :
    r.advance (fuel + 1) = r.stepped.advance fuel := by
  rw [advance, if_neg]
  · rfl
  · simp [hq, hr]

/-- What every step keeps is kept while a run advances. -/
theorem advance_keeps {P : Run → Prop}
    (keeps : ∀ r : Run, r.queue = [] → r.state.place.rest ≠ [] → P r → P r.stepped)
    (h : P r) : P (r.advance fuel) := by
  induction fuel generalizing r with
  | zero => exact h
  | succ fuel ih =>
    rcases r.settled_or with hs | ⟨hq, hr⟩
    · rwa [advance_of_settled hs]
    · rw [advance_succ hq hr]
      exact ih (keeps r hq hr h)

/-- The fuel for the rest of the text is less after the step, but still enough. -/
theorem stepped_rest (hq : r.queue = []) (hr : r.state.place.rest ≠ []) :
    r.stepped.rest = r.rest := by
  have hlt : r.context.potential (r.context.step r.state).2 < r.context.potential r.state :=
    RunContext.step_potential hr
  have hle : r.context.potential r.state ≤ r.context.enough r.state.place.rest.length :=
    RunContext.potential_le_enough
  have hfuel : r.context.enough r.state.place.rest.length
      = (r.context.enough r.state.place.rest.length - 1) + 1 := by omega
  rw [rest, rest, hq, List.nil_append, hfuel, RunContext.exhaust_succ hr]
  refine congrArg _ (RunContext.exhaust_eq RunContext.potential_le_enough ?_)
  exact Nat.le_sub_one_of_lt (Nat.lt_of_lt_of_le hlt hle)

/-- What is left of a run stays the same while it advances. -/
theorem advance_rest : (r.advance fuel).rest = r.rest := by
  have keeps : ∀ r' : Run, r'.queue = [] → r'.state.place.rest ≠ [] →
      r'.rest = r.rest → r'.stepped.rest = r.rest :=
    fun r' hq hr h => (stepped_rest hq hr).trans h
  exact advance_keeps keeps rfl

/-- With enough fuel a run advances up to the next tokens or the end of its text. What is
consumed is not empty, so neither are the tokens that tile it. -/
theorem advance_settled (h : r.context.budget r.state ≤ fuel) : (r.advance fuel).Settled := by
  induction fuel generalizing r with
  | zero => exact absurd h (Nat.not_le_of_lt RunContext.budget_pos)
  | succ fuel ih =>
    rcases r.settled_or with hs | ⟨hq, hr⟩
    · rwa [advance_of_settled hs]
    · rw [advance_succ hq hr]
      rcases r.context.step_moves_or_counts hr with ⟨t, hm⟩ | hc
      · have htokens : r.stepped.queue ≠ [] := fun hnil =>
          hm.ne_nil ((hm.tile r.relexTiles).eq_nil_iff.mp hnil)
        rw [advance_of_settled (.inl htokens)]
        exact .inl htokens
      · refine ih ?_
        have hb : r.stepped.context.budget r.stepped.state + 1 = r.context.budget r.state :=
          hc.budget
        omega

/-! ## Asking for tokens -/

theorem rest_of_ended (hr : r.state.place.rest = []) : r.rest = r.queue := by
  rw [rest, RunContext.exhaust_nil hr, List.append_nil]

/-- Asked for a token, a run gives the first one of those that are left and keeps the
others. -/
theorem next_spec (r : Run) : r.next.1 = r.rest.head? ∧ r.next.2.rest = r.rest.tail := by
  have hsettled : (r.advance r.context.patience).Settled :=
    advance_settled RunContext.budget_le
  have hrest : (r.advance r.context.patience).rest = r.rest := advance_rest
  unfold next
  generalize r.advance r.context.patience = ahead at hsettled hrest
  cases hq : ahead.queue with
  | nil =>
    have hended := hsettled.resolve_left (fun h => h hq)
    rw [rest_of_ended hended, hq] at hrest
    simp only [hq]
    rw [← hrest, rest_of_ended hended, hq]
    exact ⟨rfl, rfl⟩
  | cons token queue =>
    simp only [hq]
    rw [← hrest, rest, hq]
    exact ⟨rfl, rfl⟩

/-- Asks for so many tokens: those that come, and the run after them. -/
def pull : Nat → Run → List Token × Run
  | 0, r => ([], r)
  | n + 1, r =>
      match r.next with
      | (none, r) => ([], r)
      | (some token, r) => (token :: (pull n r).1, (pull n r).2)

/-- The tokens asked for are the first ones of a run to the end. -/
theorem pull_spec (n : Nat) (r : Run) :
    (r.pull n).1 = r.rest.take n ∧ (r.pull n).2.rest = r.rest.drop n := by
  induction n generalizing r with
  | zero => exact ⟨rfl, rfl⟩
  | succ n ih =>
    obtain ⟨hfst, hsnd⟩ := r.next_spec
    rw [pull]
    generalize r.next = out at hfst hsnd
    obtain ⟨token, r'⟩ := out
    cases hrest : r.rest with
    | nil =>
      rw [hrest] at hfst hsnd
      cases hfst
      exact ⟨rfl, hsnd⟩
    | cons first others =>
      rw [hrest] at hfst hsnd
      cases hfst
      obtain ⟨htake, hdrop⟩ := ih r'
      rw [List.tail_cons] at hsnd
      rw [hsnd] at htake hdrop
      exact ⟨congrArg (List.cons first) htake, hdrop⟩

/-! ## Two runs side by side -/

/-- Runs of the relation are in step while they are asked for tokens: the tokens in their
queues correspond, they end together, and the relation is kept by a step of both and when
both queues are replaced. -/
structure Abreast (T : Token → Token → Prop) (P : Run → Run → Prop) : Prop where
  queue {r r' : Run} (h : P r r') : List.Forall₂ T r.queue r'.queue
  ended {r r' : Run} (h : P r r') : r'.state.place.rest = [] ↔ r.state.place.rest = []
  stepped {r r' : Run} (h : P r r') (hr : r.state.place.rest ≠ []) : P r.stepped r'.stepped
  given {r r' : Run} {queue queue' : List Token} (h : P r r') (ht : List.Forall₂ T queue queue') :
    P { r with queue } { r' with queue := queue' }

/-- A run that has advanced enough does not advance further: a step with tokens is the last one. -/
theorem advance_le (h : r.context.budget r.state ≤ fuel) (hle : fuel ≤ fuel') :
    r.advance fuel' = r.advance fuel := by
  induction fuel generalizing r fuel' with
  | zero => exact absurd h (Nat.not_le_of_lt RunContext.budget_pos)
  | succ fuel ih =>
    obtain ⟨fuel', rfl⟩ := Nat.exists_eq_succ_of_ne_zero (Nat.ne_of_gt (Nat.lt_of_lt_of_le
      (Nat.succ_pos fuel) hle))
    rcases r.settled_or with hs | ⟨hq, hr⟩
    · rw [advance_of_settled hs, advance_of_settled hs]
    · rw [advance_succ hq hr, advance_succ hq hr]
      rcases r.context.step_moves_or_counts hr with ⟨t, hm⟩ | hc
      · have htokens : r.stepped.queue ≠ [] := fun hnil =>
          hm.ne_nil ((hm.tile r.relexTiles).eq_nil_iff.mp hnil)
        rw [advance_of_settled (.inl htokens), advance_of_settled (.inl htokens)]
      · have hb : r.stepped.context.budget r.stepped.state + 1 = r.context.budget r.state :=
          hc.budget
        exact ih (by omega) (Nat.le_of_succ_le_succ hle)

namespace Abreast

variable {T : Token → Token → Prop} {P : Run → Run → Prop} {r' : Run}

theorem queue_eq_nil_iff (hP : Abreast T P) (h : P r r') : r'.queue = [] ↔ r.queue = [] := by
  have hqueue := hP.queue h
  constructor
  · intro hq
    rwa [hq, List.forall₂_nil_right_iff] at hqueue
  · intro hq
    rwa [hq, List.forall₂_nil_left_iff] at hqueue

theorem advance (hP : Abreast T P) (h : P r r') (fuel : Nat) :
    P (r.advance fuel) (r'.advance fuel) := by
  induction fuel generalizing r r' with
  | zero => exact h
  | succ fuel ih =>
    rcases r.settled_or with hs | ⟨hq, hr⟩
    · have hs' : r'.Settled := hs.imp (mt (hP.queue_eq_nil_iff h).mp) (hP.ended h).mpr
      rwa [advance_of_settled hs, advance_of_settled hs']
    · rw [advance_succ hq hr,
        advance_succ ((hP.queue_eq_nil_iff h).mpr hq) (mt (hP.ended h).mp hr)]
      exact ih (hP.stepped h hr)

/-- The runs may have different patience, but neither runs out of it. -/
theorem next (hP : Abreast T P) (h : P r r') :
    Option.Rel T r.next.1 r'.next.1 ∧ P r.next.2 r'.next.2 := by
  have hahead : P (r.advance r.context.patience) (r'.advance r'.context.patience) := by
    have hmax := hP.advance h (max r.context.patience r'.context.patience)
    rwa [advance_le RunContext.budget_le (Nat.le_max_left _ _),
      advance_le RunContext.budget_le (Nat.le_max_right _ _)] at hmax
  have hqueue := hP.queue hahead
  unfold Run.next
  generalize r.advance r.context.patience = ahead at hahead hqueue
  generalize r'.advance r'.context.patience = ahead' at hahead hqueue
  dsimp only
  cases hq : ahead.queue with
  | nil =>
    rw [hq, List.forall₂_nil_left_iff] at hqueue
    rw [hqueue]
    exact ⟨.none, hahead⟩
  | cons token queue =>
    rw [hq] at hqueue
    obtain ⟨token', queue', htoken, hrest, hq'⟩ := List.forall₂_cons_left_iff.mp hqueue
    rw [hq']
    exact ⟨.some htoken, hP.given hahead hrest⟩

/-- The tokens asked for correspond, and so do the runs after them. -/
theorem pull (hP : Abreast T P) (h : P r r') (n : Nat) :
    List.Forall₂ T (r.pull n).1 (r'.pull n).1 ∧ P (r.pull n).2 (r'.pull n).2 := by
  induction n generalizing r r' with
  | zero => exact ⟨.nil, h⟩
  | succ n ih =>
    obtain ⟨htoken, hnext⟩ := hP.next h
    unfold Run.pull
    generalize r.next = out at htoken hnext
    generalize r'.next = out' at htoken hnext
    obtain ⟨token, ahead⟩ := out
    obtain ⟨token', ahead'⟩ := out'
    cases htoken with
    | none => exact ⟨.nil, hnext⟩
    | some htoken => exact ⟨.cons htoken (ih hnext).1, (ih hnext).2⟩

/-- All tokens that are left are asked for at some time. -/
theorem rest (hP : Abreast T P) (h : P r r') : List.Forall₂ T r.rest r'.rest := by
  have hgiven := (hP.pull h (max r.rest.length r'.rest.length)).1
  rwa [(pull_spec _ r).1, (pull_spec _ r').1, List.take_of_length_le (Nat.le_max_left _ _),
    List.take_of_length_le (Nat.le_max_right _ _)] at hgiven

end Abreast

/-! ## Tokens and consumed text -/

/-- A run without tokens left is at the end of its text. -/
theorem ended_of_rest (h : r.rest = []) : r.state.place.rest = [] := by
  have htile : Token.Tile r.state.place.pos r.state.place.rest
      (r.context.exhaust (r.context.enough r.state.place.rest.length) r.state) :=
    RunContext.exhaust_tile r.relexTiles RunContext.potential_le_enough
  exact htile.eq_nil_iff.mp (List.append_eq_nil_iff.mp h).2

/-- The run is over the text, and the tokens given so far with those in the queue tile
what has been consumed of it. -/
def Reads (text : Text) (given : List Token) (r : Run) : Prop :=
  ∃ t, (ofText text).Passes t r.state.place ∧ Token.Tile 0 t (given ++ r.queue)

variable {given : List Token}

theorem Reads.stepped (h : Reads text given r) (hq : r.queue = [])
    (hr : r.state.place.rest ≠ []) : Reads text given r.stepped := by
  obtain ⟨t, ht, htile⟩ := h
  rw [hq, List.append_nil] at htile
  rcases r.context.step_moves_or_counts hr with ⟨u, hm⟩ | hc
  · refine ⟨t ++ u, ht.trans hm.passes, htile.append ?_⟩
    have hpos : r.state.place.pos = 0 + t.size := ht.pos
    rw [← hpos]
    exact hm.tile r.relexTiles
  · have hplace : r.stepped.state.place = r.state.place := hc.place
    have hqueue : r.stepped.queue = [] := hc.tokens
    refine ⟨t, ?_, ?_⟩
    · rw [hplace]
      exact ht
    · rw [hqueue, List.append_nil]
      exact htile

theorem Reads.advance (h : Reads text given r) : Reads text given (r.advance fuel) :=
  advance_keeps (fun _ hq hr h => h.stepped hq hr) h

/-- Asking for a token keeps tokens and consumed text in line. -/
theorem Reads.next (h : Reads text given r) : Reads text (given ++ r.next.1.toList) r.next.2 := by
  obtain ⟨t, ht, htile⟩ : Reads text given (r.advance r.context.patience) := h.advance
  unfold Run.next
  generalize r.advance r.context.patience = ahead at ht htile
  cases hq : ahead.queue with
  | nil =>
    simp only [hq]
    rw [hq] at htile
    refine ⟨t, ht, ?_⟩
    simpa [hq] using htile
  | cons token queue =>
    simp only [hq]
    rw [hq] at htile
    refine ⟨t, ht, ?_⟩
    simpa using htile

theorem Reads.pull (h : Reads text given r) (n : Nat) :
    Reads text (given ++ (r.pull n).1) (r.pull n).2 := by
  induction n generalizing r given with
  | zero => simpa [Run.pull] using h
  | succ n ih =>
    have hnext := h.next
    rw [Run.pull]
    generalize r.next = out at hnext
    obtain ⟨token, r'⟩ := out
    cases token with
    | none => exact hnext
    | some token =>
      have hpull := ih hnext
      rwa [List.append_assoc] at hpull

/-- With the tokens that are left, those given tile the whole text. -/
theorem Reads.whole (h : Reads text given r) : Token.Tile 0 text (given ++ r.rest) := by
  obtain ⟨t, ht, htile⟩ := h
  have hpos : r.state.place.pos = 0 + t.size := ht.pos
  have hall : text = t ++ r.state.place.rest := ht.rest
  have hrest : Token.Tile r.state.place.pos r.state.place.rest
      (r.context.exhaust (r.context.enough r.state.place.rest.length) r.state) :=
    RunContext.exhaust_tile r.relexTiles RunContext.potential_le_enough
  rw [rest, ← List.append_assoc, hall]
  rw [hpos] at hrest
  exact htile.append hrest

end Run

/-! ## Tilings by offsets -/

/-- The tokens lie end to end between two offsets of the text: each one is not empty
and holds the text between its own offsets, which never lie inside a character. -/
def Token.Cover (text : Text) : (start stop : Nat) → List Token → Prop
  | start, stop, [] => start = stop
  | start, stop, token :: rest =>
      token.start = start ∧ token.start < token.stop ∧
        text.slice? token.start token.stop = some token.text ∧
        Token.Cover text token.stop stop rest

theorem Token.Tile.cover {text t u : Text} {c d : Cursor} {l : List Token}
    (h : Token.Tile c.pos u l) (hc : (ofText text).Passes t c) (hd : c.Passes u d) :
    Token.Cover text c.pos d.pos l := by
  induction l generalizing t u c with
  | nil =>
    cases h
    rw [hd.eq_of_nil]
    exact rfl
  | cons token l ih =>
    obtain ⟨hstart, hne, v, rfl, hrest⟩ := h
    obtain ⟨m, hm, hmd⟩ := hd.halve
    have hstop : token.stop = m.pos := by rw [Token.stop, hstart, hm.pos]
    refine ⟨hstart, ?_, ?_, ?_⟩
    · rw [hstop, hstart]
      exact hm.lt hne
    · rw [hstop, hstart]
      exact Text.slice?_of_passes hc hm
    · rw [hstop]
      rw [← hm.pos] at hrest
      exact ih hrest (hc.trans hm) hmd

namespace Run

variable {library : Library} {table : Table} {states : List String} {text : Text} {r : Run}

/-- A run starts if its states have ids, and then with these on its stack. -/
theorem start_eq_ok_iff {config : LexConfig} :
    (Run.start library table states text).map (·.withConfig config) = .ok r ↔
      ∃ ids, (if states.isEmpty then [rootState] else states).mapM table.stateId = .ok ids ∧
        r = ⟨library, table, config, ids.reverse, ⟨ofText text, ids.reverse, none⟩, []⟩ := by
  rw [map_eq_ok_iff]
  constructor
  · rintro ⟨r₀, hr₀, rfl⟩
    obtain ⟨ids, hids, h⟩ := bind_eq_ok_iff.mp hr₀
    cases h
    exact ⟨ids, hids, rfl⟩
  · rintro ⟨ids, hids, rfl⟩
    exact ⟨_, bind_eq_ok_iff.mpr ⟨ids, hids, rfl⟩, rfl⟩

theorem reads_start {config : LexConfig}
    (h : (Run.start library table states text).map (·.withConfig config) = .ok r) :
    Reads text [] r := by
  obtain ⟨ids, -, rfl⟩ := start_eq_ok_iff.mp h
  exact ⟨[], .refl _, Tiles.nil⟩

/-- A run over a text in any states of any table, whatever the limits are: its tokens
cover the text from its start to its end, and whenever some of them have been asked
for, these and the ones in the queue cover exactly what has been consumed. -/
theorem pulled_cover {config : LexConfig}
    (h : (Run.start library table states text).map (·.withConfig config) = .ok r) :
    Token.Cover text 0 text.size r.rest ∧ (r.rest = [] ↔ text = []) ∧
      ∀ n, (r.pull n).1 = r.rest.take n ∧
        Token.Cover text 0 (r.pull n).2.position ((r.pull n).1 ++ (r.pull n).2.queue) ∧
        text.slice? 0 (r.pull n).2.position =
          some (((r.pull n).1 ++ (r.pull n).2.queue).map Token.text).flatten := by
  have hreads := reads_start h
  have hwhole : Token.Tile 0 text r.rest := hreads.whole
  refine ⟨hwhole.cover (.refl _) (ofText_passes text), hwhole.eq_nil_iff, fun n => ?_⟩
  obtain ⟨t, ht, htile⟩ := hreads.pull n
  rw [List.nil_append] at htile
  refine ⟨(pull_spec n r).1, htile.cover (.refl _) ht, ?_⟩
  rw [htile.flatten]
  exact Text.slice?_of_passes (.refl _) ht

/-- A grammar whose table lexes the first group of a match with itself again and, where
it has no match, pushes its only state without an end. -/
def pushing : Grammar :=
  (Grammar.new "pushing").state rootState
    [.rule ⟨some (.regex "(a.)(.)".toList),
      .groups [.delegate (.root .this), .kind .text], [.pushCurrent]⟩,
    .rule ⟨none, .nothing, [.push rootState]⟩]

theorem pulled_cover_pushing :
    ∃ table r, pushing.build [] = .ok table ∧
      (Run.start [] table [] "aéb".toList).map (·.withConfig ⟨.text, 1, 2⟩) = .ok r ∧
      Token.Cover "aéb".toList 0 4 r.rest ∧
      ∀ n, Token.Cover "aéb".toList 0 (r.pull n).2.position
        ((r.pull n).1 ++ (r.pull n).2.queue) := by
  obtain ⟨table, ht, r, hr⟩ : ∃ table, pushing.build [] = .ok table ∧
      ∃ r, (Run.start [] table [] "aéb".toList).map (·.withConfig ⟨.text, 1, 2⟩) = .ok r :=
    by decide +kernel
  obtain ⟨hall, -, hpulled⟩ := pulled_cover hr
  exact ⟨table, r, ht, hr, hall, fun n => (hpulled n).2.1⟩

end Run

end TableLexer
