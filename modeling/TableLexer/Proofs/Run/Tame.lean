import TableLexer.Proofs.Run.Brisk
import TableLexer.Proofs.Run.Relexed

/-!
# Tables with shallow runs

Text that a run has lexed again may have some of its own text lexed again in turn. A table is
tame in some of its states if this does not happen to runs that start in them, for one of two
reasons:

* *keyed*: a rule that has text lexed again matches a character, the key, that is never in
  that text.
* *fed*: text is lexed again in a state that begins with rules which match at all characters
  in it and do nothing but classify them.

Results:
1. `Table.Keyed.request`, `Table.Fed.request`: what text is lexed again, and in which state.
2. `Table.Keyed.silent`, `RunState.Fed.silent`: a run over it asks for no further ones.
3. `InnerRun.shallow`: so runs with a brisk and tame table nest on one level only.
4. `InnerRun.Shallow.unlimited`, `Run.shallow_looksLike`: they meet no limit that is positive,
   and nothing tells them from those with other ones.
-/

namespace TableLexer

open Cursor Regex RunContext

/-! ## Definitions -/

namespace Rule

/-- All text that the rule matches holds the character. -/
def needs (key : Char) (r : Rule) : Bool :=
  r.matcher.any fun p => p.matcher.regex.program.needs (.only key)

/-- The set from which the rule takes a first character, before any number of others, if it is
of that form. -/
def repeats? (r : Rule) : Option CharSet := r.matcher.bind (·.matcher.regex.program.repeats?)

/-- The rule takes characters and has no other effect than to classify them. -/
def isPlain (r : Rule) : Bool := r.repeats?.isSome && r.action.delegates.isEmpty && r.ops.isEmpty

end Rule

namespace Table

variable (t : Table) (K : List StateId)

/-- What the states `K` have lexed again starts in them, but it does not hold the key, which
all text holds of which some is lexed again. -/
def Keyed (key : Char) : Prop :=
  ∀ id ∈ K, ∀ r ∈ t.rules id, r.action.delegates ≠ [] →
    r.needs key = true ∧ r.feeds (.except key) = true ∧
    ∀ d ∈ r.action.delegates, d.target = .this ∧ d.stack ≠ [] ∧ ∀ id' ∈ d.stack, id' ∈ K

/-- The plain rules with which the rules of a state begin. -/
def plain (id : StateId) : List Rule := (t.rules id).takeWhile Rule.isPlain

/-- The characters at which one of the plain rules of a state matches. -/
def feed (id : StateId) : CharTest where
  char c := (t.plain id).any fun r => r.repeats?.any (·.contains c)
  set s := (t.plain id).any fun r => r.repeats? = some s
  sound := by
    intro s c hs hc
    obtain ⟨r, hr, hset⟩ := List.any_eq_true.mp hs
    refine List.any_eq_true.mpr ⟨r, hr, ?_⟩
    rw [of_decide_eq_true hset]
    exact hc

/-- What the states `K` have lexed again starts in a state the plain rules of which match at
all of its characters. -/
def Fed (id : StateId) : Prop :=
  ∀ id' ∈ K, ∀ r ∈ t.rules id', r.action.delegates ≠ [] →
    r.feeds (t.feed id) = true ∧
    ∀ d ∈ r.action.delegates, d.target = .this ∧ d.stack.getLast? = some id

/-- Text that the states `K` have lexed again has none of it lexed again once more. -/
inductive Tame : Prop
  | keyed (key : Char) (h : t.Keyed K key)
  | fed (id : StateId) (h : t.Fed K id)

instance (key : Char) : Decidable (t.Keyed K key) :=
  inferInstanceAs (Decidable (∀ id ∈ K, ∀ r ∈ t.rules id, _ → _ ∧ _ ∧ _))

instance (id : StateId) : Decidable (t.Fed K id) :=
  inferInstanceAs (Decidable (∀ id' ∈ K, ∀ r ∈ t.rules id', _ → _ ∧ _))

end Table

namespace InnerRun

variable (library : Library) (config : LexConfig)

/-- The run gives up no match of nothing and slips at most once at a place. -/
structure Calm (r : InnerRun) : Prop where
  keeps : ∀ s ∈ r.states library config, ¬ (r.context library config).GivesUp s
  slips : ∀ pos, (r.states library config).countP
    (fun s => s.place.pos = pos ∧ (r.context library config).Slips s) ≤ 1

/-- The run asks for no runs inside of it. -/
def Silent (r : InnerRun) : Prop :=
  ∀ s ∈ r.states library config, (r.context library config).delegations s = []

/-- The run and those inside of it are calm, and the latter ask for no further ones. -/
structure Shallow (top : InnerRun) : Prop where
  calm : ∀ level, ∀ r ∈ top.below library config level, r.Calm library config
  silent : ∀ level, ∀ r ∈ top.below library config (level + 1), r.Silent library config

end InnerRun

/-- The limits allow text to be lexed again, and a match of nothing. -/
structure LexConfig.Positive (config : LexConfig) : Prop where
  depth : 1 ≤ config.maxDepth
  emptySteps : 1 ≤ config.maxEmptySteps

/-- The plain rules of the state on top match at all characters that are left. -/
structure RunState.Fed (t : Table) (id : StateId) (s : RunState) : Prop where
  head? : s.stack.head? = some id
  chars : ∀ c ∈ s.place.rest, (t.feed id).char c = true

/-! ## Rules -/

namespace Rule

variable {r : Rule} {place : Cursor} {m : Regex.Match}

/-- A rule that needs a character matches only where it follows. -/
theorem mem_of_needs {key : Char} (h : r.needs key = true) (hm : r.matchAt? place = some m) :
    key ∈ place.rest := by
  obtain ⟨p, hp, hneeds⟩ := (Option.any_eq_true _ _).mp h
  rw [matchAt?, hp] at hm
  obtain ⟨w, hw, d, hread⟩ := matchAt?_reads hm
  obtain ⟨c, hc, hkey⟩ := Program.needs_sound hneeds hw
  rw [hread.passes.rest, ← (of_decide_eq_true hkey : c = key)]
  exact List.mem_append_left _ hc

/-- A rule that repeats a set matches where a member of the set follows. -/
theorem matchAt?_isSome_of_repeats {s : CharSet} {c : Char} {rest : Text}
    (h : r.repeats? = some s) (hrest : place.rest = c :: rest) (hc : s.contains c = true) :
    (r.matchAt? place).isSome := by
  obtain ⟨p, hp, hrepeats⟩ := Option.bind_eq_some_iff.mp h
  rw [matchAt?, hp]
  dsimp only
  rw [Regex.matchAt?, Option.isSome_map]
  exact Program.first?_isSome_of_repeats hrepeats hrest hc

theorem isPlain_iff :
    r.isPlain = true ↔ r.repeats?.isSome = true ∧ r.action.delegates = [] ∧ r.ops = [] := by
  simp only [isPlain, Bool.and_eq_true, List.isEmpty_iff, and_assoc]

end Rule

/-! ## What steps ask for -/

namespace RunContext

variable {ctx : RunContext} {K : List StateId} {s : RunState} {rule : Rule} {m : Regex.Match}
  {request : Delegate × Text}

/-- Runs are asked for by the rule that applies, and they are those of its action. -/
theorem exists_of_mem_delegations (hs : s.stack ≠ []) (h : request ∈ ctx.delegations s) :
    ∃ rule m, ctx.Selects s rule m ∧ request.1 ∈ rule.action.delegates ∧
      request ∈ (ctx.portions rule.action m s.place).filterMap Portion.relexed? := by
  unfold delegations requested at h
  rw [refill_eq hs] at h
  split at h
  · cases h
  · next rule m hsel => exact ⟨rule, m, selects_iff.mpr hsel, asks_portions h, h⟩

/-- A step leaves the end of the text before it. -/
theorem step_rest (ctx : RunContext) (hr : s.place.rest ≠ []) :
    (ctx.step s).2.place.rest <:+ s.place.rest := by
  rcases ctx.step_moves_or_counts hr with ⟨t, h⟩ | h
  · exact ⟨t, h.passes.rest.symm⟩
  · rw [h.place]

/-- No rule asks for a run, so the step does not. -/
theorem delegations_eq_nil (hs : s.stack ≠ [])
    (h : ∀ rule m, ctx.Selects s rule m → rule.action.delegates = []) : ctx.delegations s = [] := by
  refine List.eq_nil_iff_forall_not_mem.mpr fun request hr => ?_
  obtain ⟨rule, m, hsel, hmem, -⟩ := exists_of_mem_delegations hs hr
  rw [h rule m hsel] at hmem
  cases hmem

end RunContext

/-! ## Keyed tables -/

namespace Table.Keyed

variable {ctx : RunContext} {K : List StateId} {key : Char} {s : RunState}

/-- Where the key does not follow, no run is asked for. -/
theorem delegations_eq_nil (hk : ctx.table.Keyed K key) (hs : s.Brisk ctx.table K)
    (hkey : key ∉ s.place.rest) : ctx.delegations s = [] := by
  refine RunContext.delegations_eq_nil hs.ne_nil fun rule m hsel => ?_
  obtain ⟨id, hid, hrule, hmatch⟩ := hs.mem hsel
  by_contra hne
  have hneeds := (hk id hid rule hrule hne).1
  exact hkey (Rule.mem_of_needs hneeds hmatch)

/-- A run that is asked for starts in the states, over text without the key. -/
theorem request (hk : ctx.table.Keyed K key) (hs : s.Brisk ctx.table K) {d : Delegate} {t : Text}
    (hr : (d, t) ∈ ctx.delegations s) :
    d.target = .this ∧ (d.stack ≠ [] ∧ ∀ id ∈ d.stack, id ∈ K) ∧ key ∉ t := by
  obtain ⟨rule, m, hsel, hmem, hportion⟩ := exists_of_mem_delegations hs.ne_nil hr
  obtain ⟨id, hid, hrule, hmatch⟩ := hs.mem hsel
  obtain ⟨-, hfeeds, hdelegates⟩ := hk id hid rule hrule (List.ne_nil_of_mem hmem)
  obtain ⟨htarget, hstack⟩ := hdelegates d hmem
  refine ⟨htarget, hstack, fun hin => ?_⟩
  have hexcept : decide (key ≠ key) = true := feeds_sound hfeeds hmatch hportion key hin
  exact of_decide_eq_true hexcept rfl

/-- Over text without the key no run is asked for. -/
theorem silent (hk : ctx.table.Keyed K key) (hb : ctx.table.Brisk K)
    (hlimit : 1 ≤ ctx.config.maxEmptySteps) (hs : s.Brisk ctx.table K) (hkey : key ∉ s.place.rest)
    {fuel : Nat} : ∀ r ∈ ctx.visited fuel s, ctx.delegations r = [] := by
  have hkeeps : ∀ r : RunState, r.Brisk ctx.table K ∧ key ∉ r.place.rest → r.place.rest ≠ [] →
      (ctx.step r).2.Brisk ctx.table K ∧ key ∉ (ctx.step r).2.place.rest :=
    fun r h hr => ⟨hb.step hlimit h.1 hr, fun hin => h.2 ((ctx.step_rest hr).subset hin)⟩
  intro r hr
  obtain ⟨hbrisk, hnot⟩ := (forall_visited hkeeps ⟨hs, hkey⟩ r hr).1
  exact hk.delegations_eq_nil hbrisk hnot

end Table.Keyed

/-! ## Fed states -/

section

variable {ctx : RunContext} {t : Table} {K : List StateId} {id : StateId} {s : RunState}
  {rule : Rule} {m : Regex.Match}

/-- Where a plain rule of a state matches, the first rule that does is plain. -/
theorem Table.firstMatch?_plain {place : Cursor} {r : Rule} (hr : r ∈ t.plain id)
    (hmatch : (r.matchAt? place).isSome) :
    ∃ rule m, firstMatch? place (t.rules id) = some (rule, m) ∧ rule.isPlain = true := by
  obtain ⟨rule, m, hfirst⟩ := exists_firstMatch? hr hmatch
  refine ⟨rule, m, ?_, List.mem_takeWhile_imp (mem_of_firstMatch? hfirst).1⟩
  rw [firstMatch?, ← List.takeWhile_append_dropWhile (p := Rule.isPlain) (l := t.rules id),
    List.findSome?_append]
  exact congrArg (Option.or · _) hfirst

namespace RunState.Fed

theorem ne_nil (h : s.Fed t id) : s.stack ≠ [] := by
  obtain ⟨below, hstack⟩ := List.head?_eq_some_iff.mp h.head?
  rw [hstack]
  exact List.cons_ne_nil _ _

/-- A plain rule applies. -/
theorem selects (h : s.Fed ctx.table id) (hr : s.place.rest ≠ []) :
    ∃ rule m, ctx.Selects s rule m ∧ rule.isPlain = true := by
  obtain ⟨below, hstack⟩ := List.head?_eq_some_iff.mp h.head?
  obtain ⟨c, rest, hrest⟩ := List.exists_cons_of_ne_nil hr
  have hchar := h.chars c (hrest ▸ List.mem_cons_self)
  obtain ⟨r, hplain, hany⟩ := List.any_eq_true.mp hchar
  obtain ⟨set, hset, hc⟩ := (Option.any_eq_true _ _).mp hany
  obtain ⟨rule, m, hfirst, hrule⟩ :=
    Table.firstMatch?_plain hplain (Rule.matchAt?_isSome_of_repeats hset hrest hc)
  exact ⟨rule, m, ⟨id, below, hstack, hfirst⟩, hrule⟩

/-- A rule that applies asks for no run and leaves the stack as it is. -/
theorem plain_of_selects (h : s.Fed ctx.table id) (hr : s.place.rest ≠ [])
    (hsel : ctx.Selects s rule m) : rule.action.delegates = [] ∧ rule.ops = [] := by
  obtain ⟨rule', m', hsel', hplain⟩ := h.selects hr
  rw [selects_iff] at hsel hsel'
  rw [hsel'] at hsel
  cases hsel
  exact (Rule.isPlain_iff.mp hplain).2

theorem not_slips (h : s.Fed ctx.table id) (hr : s.place.rest ≠ []) : ¬ ctx.Slips s := by
  rw [slips_iff h.ne_nil]
  rintro ⟨rule, m, hsel, -, hne⟩
  rw [(h.plain_of_selects hr hsel).2] at hne
  exact hne rfl

theorem delegations_eq_nil (h : s.Fed ctx.table id) (hr : s.place.rest ≠ []) :
    ctx.delegations s = [] :=
  RunContext.delegations_eq_nil h.ne_nil fun _ _ hsel => (h.plain_of_selects hr hsel).1

theorem step_stack (h : s.Fed ctx.table id) (hr : s.place.rest ≠ []) :
    (ctx.step s).2.stack = s.stack := by
  obtain ⟨rule, m, hsel, -⟩ := h.selects hr
  have hkeeps : ∀ {rule m}, ctx.Selects s rule m → applyOps rule.ops s.stack = s.stack :=
    fun hsel => by rw [(h.plain_of_selects hr hsel).2]; rfl
  have hforce : (ctx.forceChar s).2.stack = s.stack := by
    unfold forceChar takeChar
    split <;> rfl
  have hout := step_outcome ctx s
  rw [refill_eq h.ne_nil] at hout
  generalize ctx.step s = out at hout
  cases hout with
  | lost hnone => exact absurd hsel (hnone rule m)
  | reset hnone => exact absurd hsel (hnone rule m)
  | consumed hsel => exact hkeeps hsel
  | idle => exact hforce
  | counted hsel _ hne => exact absurd (hkeeps hsel) hne
  | abandoned hsel _ hne => exact absurd (hkeeps hsel) hne

theorem step (h : s.Fed ctx.table id) (hr : s.place.rest ≠ []) :
    (ctx.step s).2.Fed ctx.table id where
  head? := h.step_stack hr ▸ h.head?
  chars c hc := h.chars c ((ctx.step_rest hr).subset hc)

/-- A run in a fed state does not slip and asks for no runs inside of it. -/
theorem silent (h : s.Fed ctx.table id) {fuel : Nat} :
    ∀ r ∈ ctx.visited fuel s, ¬ ctx.Slips r ∧ ctx.delegations r = [] := by
  intro r hr
  obtain ⟨hfed, hrest⟩ := forall_visited (fun _ h hr => h.step hr) h r hr
  exact ⟨hfed.not_slips hrest, hfed.delegations_eq_nil hrest⟩

end RunState.Fed

/-- A run that is asked for starts in the fed state, over text that its plain rules match. -/
theorem Table.Fed.request (hf : ctx.table.Fed K id) (hs : s.Brisk ctx.table K) {d : Delegate}
    {t : Text} (hr : (d, t) ∈ ctx.delegations s) :
    d.target = .this ∧ d.stack.getLast? = some id ∧ ∀ c ∈ t, (ctx.table.feed id).char c = true := by
  obtain ⟨rule, m, hsel, hmem, hportion⟩ := exists_of_mem_delegations hs.ne_nil hr
  obtain ⟨id', hid', hrule, hmatch⟩ := hs.mem hsel
  obtain ⟨hfeeds, hdelegates⟩ := hf id' hid' rule hrule (List.ne_nil_of_mem hmem)
  obtain ⟨htarget, hstack⟩ := hdelegates d hmem
  exact ⟨htarget, hstack, feeds_sound hfeeds hmatch hportion⟩

end

/-! ## Runs inside runs -/

namespace InnerRun

variable {library : Library} {config : LexConfig} {r inner top : InnerRun} {K : List StateId}
  {s : RunState} {d : Delegate} {t : Text}

theorem begin_brisk (h : r.initial ≠ [] ∧ ∀ id ∈ r.initial, id ∈ K) :
    ((r.context library config).begin r.text).Brisk r.table K := .begin _ _ h.1 h.2

theorem calm_of_brisk (hb : r.table.Brisk K) (hlimit : 1 ≤ config.maxEmptySteps)
    (h : r.initial ≠ [] ∧ ∀ id ∈ r.initial, id ∈ K) : r.Calm library config where
  keeps s hs :=
    Table.Brisk.not_givesUp hb hlimit (Table.Brisk.visited hb hlimit (begin_brisk h) s hs)
  slips := (Table.Brisk.slipsAt_le hb hlimit (begin_brisk h) _).1

theorem calm_of_fed {id : StateId} (hhead : r.initial.head? = some id)
    (hchars : ∀ c ∈ r.text, (r.table.feed id).char c = true) :
    r.Calm library config ∧ r.Silent library config := by
  have hbegin : ((r.context library config).begin r.text).Fed r.table id := ⟨hhead, hchars⟩
  have hall : ∀ s ∈ r.states library config, ¬ (r.context library config).Slips s ∧
      (r.context library config).delegations s = [] := RunState.Fed.silent hbegin
  refine ⟨⟨fun s hs hgives => (hall s hs).1 hgives.slips, fun pos => ?_⟩, fun s hs => (hall s hs).2⟩
  have hnone : (r.states library config).countP
      (fun s => s.place.pos = pos ∧ (r.context library config).Slips s) = 0 := by
    refine List.countP_eq_zero.mpr fun s hs => ?_
    rw [decide_eq_true_eq]
    exact fun hslip => (hall s hs).1 hslip.2
  exact hnone ▸ Nat.zero_le _

/-- A run inside of a run with a brisk and tame table is calm and asks for no further
ones. -/
theorem calm_of_request (hb : r.table.Brisk K) (ht : r.table.Tame K)
    (hlimit : 1 ≤ config.maxEmptySteps) (hs : s.Brisk r.table K)
    (hr : (d, t) ∈ (r.context library config).delegations s) :
    (r.delegate library (d, t)).Calm library config ∧
      (r.delegate library (d, t)).Silent library config := by
  obtain ⟨target, stack⟩ := d
  cases ht with
  | keyed key hk =>
    obtain ⟨htarget, hstack, hkey⟩ := Table.Keyed.request hk hs hr
    cases htarget
    have hinitial : stack.reverse ≠ [] ∧ ∀ id ∈ stack.reverse, id ∈ K :=
      ⟨List.reverse_ne_nil_iff.mpr hstack.1, fun id hid => hstack.2 id (List.mem_reverse.mp hid)⟩
    exact ⟨calm_of_brisk hb hlimit hinitial,
      Table.Keyed.silent hk hb hlimit (begin_brisk hinitial) hkey⟩
  | fed id hf =>
    obtain ⟨htarget, hlast, hchars⟩ := Table.Fed.request hf hs hr
    cases htarget
    exact calm_of_fed (List.head?_reverse.trans hlast) hchars

theorem started_of_silent (h : r.Silent library config) : r.started library config = [] := by
  unfold started
  split
  · rfl
  · rw [List.flatMap_eq_nil_iff.mpr h]
    rfl

/-- Runs with a brisk and tame table nest on one level only: those on it ask for none. -/
theorem shallow (hb : top.table.Brisk K) (ht : top.table.Tame K)
    (hlimit : 1 ≤ config.maxEmptySteps) (h : top.initial ≠ [] ∧ ∀ id ∈ top.initial, id ∈ K) :
    top.Shallow library config := by
  have hinner : ∀ level, ∀ r ∈ top.below library config (level + 1),
      r.Calm library config ∧ r.Silent library config := by
    intro level
    induction level with
    | zero =>
      intro r hr
      obtain ⟨r', hr', hstarted⟩ := List.mem_flatMap.mp hr
      rw [List.mem_singleton.mp hr'] at hstarted
      unfold started at hstarted
      split at hstarted
      · cases hstarted
      · obtain ⟨request, hmem, rfl⟩ := List.mem_map.mp hstarted
        obtain ⟨s, hs, hrequest⟩ := List.mem_flatMap.mp hmem
        exact calm_of_request hb ht hlimit
          (Table.Brisk.visited hb hlimit (begin_brisk h) s hs) hrequest
    | succ level ih =>
      intro r hr
      obtain ⟨r', hr', hstarted⟩ := List.mem_flatMap.mp hr
      rw [started_of_silent (ih r' hr').2] at hstarted
      cases hstarted
  refine ⟨fun level r hr => ?_, fun level r hr => (hinner level r hr).2⟩
  cases level with
  | zero =>
    rw [List.mem_singleton.mp hr]
    exact calm_of_brisk hb hlimit h
  | succ level => exact (hinner level r hr).1

/-- So they meet no limit that is positive. -/
theorem Shallow.unlimited (h : top.Shallow library config) (htop : top.depth = 0)
    (hlimit : 1 ≤ config.maxDepth) : top.Unlimited library config := by
  intro level r hr
  refine ⟨(h.calm level r hr).keeps, fun hle => ?_⟩
  cases level with
  | zero =>
    rw [List.mem_singleton.mp hr, htop] at hle
    omega
  | succ level => exact h.silent level r hr

/-- Runs with positive limits are in lockstep. -/
theorem Shallow.lockstep {config' : LexConfig} (htop : top.depth = 0)
    (h : top.Shallow library ⟨config.fallback, 1, 1⟩)
    (hfallback : config'.fallback = config.fallback)
    (hlimits : config.Positive) (hlimits' : config'.Positive) :
    (top.context library config).Lockstep (top.context library config')
      ((top.context library config).begin top.text)
      ((top.context library config').begin top.text) := by
  have hfree := h.unlimited htop (Nat.le_refl 1)
  have hlow : (top.context library ⟨config.fallback, 1, 1⟩).Lockstep (top.context library config)
      _ _ := hfree.lockstep rfl hlimits.depth hlimits.emptySteps
  have hhigh : (top.context library ⟨config.fallback, 1, 1⟩).Lockstep (top.context library config')
      _ _ := hfree.lockstep hfallback hlimits'.depth hlimits'.emptySteps
  exact hlow.symm.trans hhigh

end InnerRun

/-! ## Runs -/

namespace Run

variable {library : Library} {table : Table} {states : List String} {text : Text}
  {config config' : LexConfig} {r : Run}

/-- Shallow runs with positive limits cannot be told from each other. -/
theorem shallow_looksLike
    (h : (Run.start library table states text).map (·.withConfig config) = .ok r)
    (hshallow : (r.outermost text).Shallow library ⟨config.fallback, 1, 1⟩)
    (hfallback : config'.fallback = config.fallback) (hlimits : config.Positive)
    (hlimits' : config'.Positive) : r.LooksLike (r.withConfig config') := by
  obtain ⟨ids, -, rfl⟩ := start_eq_ok_iff.mp h
  exact Lockstep.looksLike ⟨rfl, hshallow.lockstep rfl hfallback hlimits hlimits'⟩ rfl

end Run

end TableLexer
