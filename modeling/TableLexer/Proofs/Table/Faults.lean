import Mathlib.Data.List.Chain
import TableLexer.Proofs.Table.Validity

/-!
# What errors of a build say

The error of a build tells of a fault that is there. It names the state in which the faulty entry
is written, which need not be the one that was to be made ready, and what it says of that entry is
true: the pattern has the error by itself, the groups are counted right, the name is missing where
the rule looks for it. A circle of splices is named without the way that led into it.

Results:
1. `rule_fault`: the error of a rule tells of a fault of the rule.
2. `Awaits.circles`: the circle that is reported is one.
3. `stateIn_blames`: so is what is said when one state after the other has to be made ready.
4. `Grammar.Fault.not_valid`: a grammar with a fault is not valid.
5. `build_error_fault`: the error of a build tells of a fault of the grammar.
-/

namespace TableLexer

open Grammar Build

/-! ## Definitions -/

/-- The rule refers by the name to a state of the table that it is in. -/
def RuleSpec.RefersTo (r : RuleSpec) (name : String) : Prop :=
  (∃ op ∈ r.ops, name ∈ op.targets) ∨
    ∃ d ∈ r.action.delegates, d.target = .this ∧ name ∈ d.stack

/-- What is wrong with a rule by itself, as the error that tells of it. -/
inductive RuleSpec.Fault (g : Grammar) (library : Library) (state : String) (r : RuleSpec) :
    BuildError → Prop
  /-- The pattern cannot be expanded, or its expansion cannot be compiled. -/
  | pattern {p : PatternSpec} {e : PatternError} (hp : p ∈ r.pattern)
      (he : (patternText p >>= Pool.alone g.flags g.fragments) = .error e) :
      Fault g library state r (.pattern state e)
  /-- The pattern has more or fewer groups than there are actions for groups. -/
  | groups {p : PatternSpec} {m : Matcher} {list : List GroupSpec} (hp : p ∈ r.pattern)
      (hm : g.Accepts p m) (hlist : r.action = .groups list) (hne : m.groupCount ≠ list.length) :
      Fault g library state r (.groupCountMismatch state m.pattern list.length m.groupCount)
  | noPattern {list : List GroupSpec} (hp : r.pattern = none) (hlist : r.action = .groups list) :
      Fault g library state r (.groupsWithoutPattern state)
  | emptyName (h : r.RefersTo "") : Fault g library state r (.emptyStateName state)
  | undefined {name : String} (h : r.RefersTo name) (hnone : name ∉ g.stateNames) :
      Fault g library state r (.undefinedState state name)
  /-- A run is to start in a state that the table it is with does not define. -/
  | foreign {d : DelegateSpec} {id : TableId} {name : String} (hd : d ∈ r.action.delegates)
      (htable : d.target = .table id) (hname : name ∈ d.stack)
      (hnone : name ∉ (library.table id).definedNames) :
      Fault g library state r (.undefinedState state ((library.table id).name ++ ":" ++ name))

namespace Grammar

variable (g : Grammar) (library : Library)

/-- Each state of the chain splices the next, the last is the first again, and no other state is
there twice. -/
structure Circles (chain : List String) : Prop where
  splices : chain.IsChain g.Splices
  closed : ∃ first others, chain = first :: (others ++ [first]) ∧ (first :: others).Nodup

/-- What is wrong with a grammar, as the error that tells of it: with a rule that is written in the
state, with a splice that is, or with splices that make a circle. -/
inductive Fault : BuildError → Prop
  | rule {state : String} {r : RuleSpec} {e : BuildError} (hr : Entry.rule r ∈ g.entriesOf state)
      (he : r.Fault g library state e) : Fault e
  | splice {state target : String} (h : g.Splices state target) (hnone : target ∉ g.stateNames) :
      Fault (.undefinedSplice state target)
  | circle {chain : List String} (h : g.Circles chain) : Fault (.spliceCycle chain)

end Grammar

namespace Build

variable {library : Library} {g : Grammar} {state : String} {s : Stock} {r : RuleSpec}
  {e : BuildError}

/-! ## References to states -/

theorem not_mem_of_findIdx? {target : String}
    (h : g.stateNames.findIdx? (· == target) = none) : target ∉ g.stateNames := by
  intro hmem
  obtain ⟨i, hi⟩ := findIdx?_of_mem hmem
  cases h.symm.trans hi

theorem localState_fault {target : String} (hr : r.RefersTo target)
    (h : localState g.stateNames state target = .error e) : r.Fault g library state e := by
  unfold localState at h
  split at h
  · next hempty =>
    cases h
    exact .emptyName (String.isEmpty_iff.mp hempty ▸ hr)
  · split at h
    · cases h
    · next hfind =>
      cases h
      exact .undefined hr (not_mem_of_findIdx? hfind)

theorem foreignState_fault {d : DelegateSpec} {id : TableId} {target : String}
    (hd : d ∈ r.action.delegates) (htable : d.target = .table id) (htarget : target ∈ d.stack)
    (h : foreignState state (library.table id) target = .error e) :
    r.Fault g library state e := by
  obtain ⟨missing, hmissing, rfl⟩ := mapError_eq_error_iff.mp h
  have hnone : target ∉ (library.table id).definedNames := fun hmem => by
    obtain ⟨found, hfound⟩ := stateId_succeeds_iff.mpr hmem
    cases hfound.symm.trans hmissing
  unfold Table.stateId at hmissing
  split at hmissing
  · cases hmissing
  · cases hmissing
    exact .foreign hd htable htarget hnone

theorem delegate_fault {d : DelegateSpec} (hd : d ∈ r.action.delegates)
    (h : delegate library g.stateNames state d = .error e) : r.Fault g library state e := by
  rcases bind_eq_error_iff.mp h with h | ⟨stack, -, ⟨⟩⟩
  obtain ⟨target, htarget, h⟩ := exists_of_mapM_eq_error h
  cases hd' : d.target with
  | this =>
    rw [hd'] at h
    exact localState_fault (.inr ⟨d, hd, hd', htarget⟩) h
  | table id =>
    rw [hd'] at h
    exact foreignState_fault hd hd' htarget h

/-! ## Rules -/

/-- What has been compiled before plays no part in the error. -/
theorem matcher_fault {p : Pool} (hp : p.Genuine g) (h : matcher state r.pattern p = .error e) :
    r.Fault g library state e := by
  cases hpattern : r.pattern with
  | none =>
    rw [hpattern] at h
    cases h
  | some written =>
    rw [hpattern] at h
    rcases bind_eq_error_iff.mp h with h | ⟨found, -, ⟨⟩⟩
    obtain ⟨cause, hcause, rfl⟩ := mapError_eq_error_iff.mp h
    refine .pattern (Option.mem_def.mpr hpattern) (bind_eq_error_iff.mpr ?_)
    refine (bind_eq_error_iff.mp hcause).imp_right fun ⟨text, htext, hcompile⟩ => ?_
    exact ⟨text, htext, (Pool.genuine_iff.mp hp).compile_eq_error_iff.mp hcompile⟩

theorem groupAction_fault {list : List GroupSpec} {group : GroupSpec}
    (hlist : r.action = .groups list) (hgroup : group ∈ list)
    (h : groupAction library g.stateNames state group = .error e) : r.Fault g library state e := by
  cases group with
  | kind kind => cases h
  | skip => cases h
  | delegate d =>
    refine delegate_fault ?_ (map_eq_error_iff.mp h)
    rw [hlist]
    exact List.mem_filterMap.mpr ⟨_, hgroup, rfl⟩

theorem action_fault {m : Option Pooled}
    (hm : Option.Rel (fun spec found => g.Accepts spec found.matcher) r.pattern m)
    (h : action library g.stateNames state m r.action = .error e) : r.Fault g library state e := by
  cases haction : r.action with
  | nothing =>
    rw [haction] at h
    cases h
  | kind kind =>
    rw [haction] at h
    cases h
  | delegate d =>
    rw [haction] at h
    refine delegate_fault ?_ (map_eq_error_iff.mp h)
    rw [haction]
    exact List.mem_singleton_self d
  | groups list =>
    rw [haction] at h
    cases hpattern : r.pattern with
    | none =>
      rw [hpattern] at hm
      cases hm
      cases h
      exact .noPattern hpattern haction
    | some written =>
      rw [hpattern] at hm
      cases hm with
      | @some _ found haccepts =>
        unfold action at h
        dsimp only at h
        split at h
        · obtain ⟨group, hgroup, h⟩ := exists_of_mapM_eq_error (map_eq_error_iff.mp h)
          exact groupAction_fault haction hgroup h
        · next hne =>
          cases h
          exact .groups (Option.mem_def.mpr hpattern) haccepts haction hne

theorem combine_fault {targets : List String} (hr : ∀ target ∈ targets, r.RefersTo target)
    (h : combine g.stateNames state targets s = .error e) : r.Fault g library state e := by
  rcases bind_eq_error_iff.mp h with h | ⟨parts, -, h⟩
  · obtain ⟨target, htarget, h⟩ := exists_of_mapM_eq_error h
    exact localState_fault (hr target htarget) h
  · dsimp only at h
    split at h <;> cases h

theorem stackOp_fault {op : StackOpSpec} (hop : op ∈ r.ops)
    (h : stackOp g.stateNames state op s = .error e) : r.Fault g library state e := by
  have hr : ∀ target ∈ op.targets, r.RefersTo target := fun target ht => .inl ⟨op, hop, ht⟩
  cases op with
  | push target =>
    rcases bind_eq_error_iff.mp h with h | ⟨id, -, ⟨⟩⟩
    exact localState_fault (hr target (List.mem_singleton_self target)) h
  | goto target =>
    rcases bind_eq_error_iff.mp h with h | ⟨id, -, ⟨⟩⟩
    exact localState_fault (hr target (List.mem_singleton_self target)) h
  | pushCurrent => cases h
  | pop count => cases h
  | pushCombined targets =>
    rcases bind_eq_error_iff.mp h with h | ⟨found, -, ⟨⟩⟩
    exact combine_fault hr h

theorem stackOps_fault {ops : List StackOpSpec} (hops : ops ⊆ r.ops)
    (h : stackOps g.stateNames state ops s = .error e) : r.Fault g library state e := by
  induction ops generalizing s with
  | nil => cases h
  | cons op ops ih =>
    obtain ⟨hop, hrest⟩ := List.cons_subset.mp hops
    rcases bind_eq_error_iff.mp h with h | ⟨first, -, h⟩
    · exact stackOp_fault hop h
    · rcases bind_eq_error_iff.mp h with h | ⟨others, -, ⟨⟩⟩
      exact ih hrest h

/-- The error of a rule tells of a fault of the rule, whatever has been compiled before. -/
theorem rule_fault (hs : s.pool.Genuine g)
    (h : rule library g.stateNames state r s = .error e) : r.Fault g library state e := by
  rcases bind_eq_error_iff.mp h with hm | ⟨⟨m, pool⟩, hm, h⟩
  · exact matcher_fault hs hm
  rcases bind_eq_error_iff.mp h with haction | ⟨a, -, h⟩
  · exact action_fault (matcher_genuine hs hm).2 haction
  rcases bind_eq_error_iff.mp h with hops | ⟨found, -, ⟨⟩⟩
  exact stackOps_fault (List.Subset.refl _) hops

/-! ## States that wait -/

section

variable {active : List StateId} {id : StateId} {p : Progress}

/-- Each of the states that wait splices the next one, the last of them the state. All but the
first have been found by their names, so that no two of them have the same name. -/
structure Awaits (g : Grammar) (active : List StateId) (id : StateId) : Prop where
  waiting : Waiting g active
  known : id ∈ g.ids
  splices : ((active ++ [id]).map (stateName g)).IsChain g.Splices
  found : ∀ a ∈ (active ++ [id]).tail,
    g.stateNames.findIdx? (· == stateName g a) = some a.index

theorem Awaits.first (hid : id ∈ g.ids) : Awaits g [] id where
  waiting := ⟨List.nodup_nil, fun _ h => absurd h List.not_mem_nil⟩
  known := hid
  splices := List.isChain_singleton _
  found _ h := absurd h List.not_mem_nil

theorem Awaits.more {target : String} {i : Nat} (h : Awaits g active id) (hfree : id ∉ active)
    (hs : g.Splices (stateName g id) target)
    (hi : g.stateNames.findIdx? (· == target) = some i) : Awaits g (active ++ [id]) ⟨i⟩ := by
  obtain ⟨hlt, hname⟩ := stateName_of_findIdx? hi
  refine ⟨h.waiting.more h.known hfree, mem_ids.mpr hlt, ?_, fun a ha => ?_⟩
  · have hlast : [stateName g id, target].IsChain g.Splices := List.isChain_pair.mpr hs
    have hchain := h.splices
    rw [List.map_append, List.map_singleton] at hchain
    rw [List.map_append, List.map_append, List.map_singleton, List.map_singleton, hname]
    exact hchain.append_overlap hlast (List.cons_ne_nil _ _)
  · rw [List.tail_append_of_ne_nil (by simp)] at ha
    rcases List.mem_append.mp ha with ha | ha
    · exact h.found a ha
    · rw [List.mem_singleton.mp ha, hname]
      exact hi

/-- States that have been found by their names have different ones. -/
theorem eq_of_stateName {a b : StateId}
    (ha : g.stateNames.findIdx? (· == stateName g a) = some a.index)
    (hb : g.stateNames.findIdx? (· == stateName g b) = some b.index)
    (h : stateName g a = stateName g b) : a = b := by
  rw [h, hb] at ha
  cases a
  cases b
  cases ha
  rfl

/-- A state that is to be made ready while it waits closes a circle. The states that wait before it
are not on the circle. -/
theorem Awaits.circles (h : Awaits g active id) (hmem : id ∈ active) :
    g.Circles ((active.dropWhile (· ≠ id) ++ [id]).map (stateName g)) := by
  obtain ⟨front, back, rfl, hfront⟩ := List.eq_append_cons_of_mem hmem
  have hdrop : (front ++ id :: back).dropWhile (· ≠ id) = id :: back := by
    have hne : ∀ a ∈ front, decide (a ≠ id) = true := fun a ha =>
      decide_eq_true fun heq : a = id => hfront (heq ▸ ha)
    rw [List.dropWhile_append_of_pos hne, List.dropWhile_cons_of_neg (by simp)]
  have htail : ∀ a ∈ id :: back, a ∈ (front ++ id :: back ++ [id]).tail := by
    intro a ha
    cases front with
    | nil =>
      rcases List.mem_cons.mp ha with rfl | ha
      · exact List.mem_append_right back (List.mem_singleton_self a)
      · exact List.mem_append_left [id] ha
    | cons first front => exact List.mem_append_left [id] (List.mem_append_right front ha)
  have hnodup : ((id :: back).map (stateName g)).Nodup := by
    refine List.Nodup.map_on (fun a ha b hb heq => ?_) (List.nodup_append.mp h.waiting.nodup).2.1
    exact eq_of_stateName (h.found a (htail a ha)) (h.found b (htail b hb)) heq
  have hsplices := h.splices
  rw [List.append_assoc, List.map_append] at hsplices
  rw [hdrop]
  exact ⟨hsplices.right_of_append, stateName g id, back.map (stateName g), by simp, hnodup⟩

/-! ## Making states ready -/

/-- There is either an error, and then a fault of the grammar, or more rules with a pool that is
still one of the grammar. -/
def Blames (library : Library) (g : Grammar) : Except BuildError (List Rule × Progress) → Prop
  | .ok (_, p) => p.stock.pool.Genuine g
  | .error e => g.Fault library e

theorem Blames.bind {x : Except BuildError (List Rule × Progress)}
    {f : List Rule × Progress → Except BuildError (List Rule × Progress)}
    (hx : Blames library g x)
    (hf : ∀ rules q, q.stock.pool.Genuine g → Blames library g (f (rules, q))) :
    Blames library g (x >>= f) := by
  cases x with
  | error e => exact hx
  | ok found => exact hf found.1 found.2 hx

theorem entries_blames {splice : StateId → Progress → Except BuildError (List Rule × Progress)}
    {es : List Entry} (hes : es ⊆ g.entriesOf state)
    (hsplice : ∀ target i, g.Splices state target →
      g.stateNames.findIdx? (· == target) = some i → ∀ p, p.stock.pool.Genuine g →
        Blames library g (splice ⟨i⟩ p))
    (hp : p.stock.pool.Genuine g) :
    Blames library g (entries library g.stateNames splice state es p) := by
  induction es generalizing p with
  | nil => exact hp
  | cons entry es ih =>
    obtain ⟨hentry, hothers⟩ := List.cons_subset.mp hes
    cases entry with
    | splice target =>
      rw [entries]
      cases hi : g.stateNames.findIdx? (· == target) with
      | none => exact .splice hentry (not_mem_of_findIdx? hi)
      | some i =>
        exact (hsplice target i hentry hi p hp).bind fun first q hq =>
          (ih hothers hq).bind fun others q' hq' => hq'
    | inherit => exact ih hothers hp
    | rule r =>
      rw [entries]
      cases hr : rule library g.stateNames state r p.stock with
      | error e => exact .rule hentry (rule_fault hp hr)
      | ok found =>
        have hrest := ih (p := { p with stock := found.2 }) hothers (rule_genuine hp hr)
        exact hrest.bind fun others q hq => hq

theorem stateWith_blames
    {splice : List StateId → StateId → Progress → Except BuildError (List Rule × Progress)}
    (h : Awaits g active id)
    (hsplice : ∀ i, Awaits g (active ++ [id]) ⟨i⟩ → id ∉ active → ∀ p, p.stock.pool.Genuine g →
      Blames library g (splice (active ++ [id]) ⟨i⟩ p))
    (hp : p.stock.pool.Genuine g) : Blames library g (stateWith library g splice active id p) := by
  unfold stateWith
  cases p.ready.lookup id with
  | some rules => exact hp
  | none =>
    dsimp only
    split
    · next hmem => exact .circle (h.circles (List.contains_iff_mem.mp hmem))
    · next hfree =>
      have hid : id ∉ active := fun hmem => hfree (List.contains_iff_mem.mpr hmem)
      have hentries : Blames library g (entries library g.stateNames (splice (active ++ [id]))
          (stateName g id) (g.entriesOf (stateName g id)) p) :=
        entries_blames (List.Subset.refl _)
          (fun target i hs hi q hq => hsplice i (h.more hid hs hi) hid q hq) hp
      exact hentries.bind fun rules q hq => hq

/-- What comes of making a state ready is told truly, whichever states wait for it. Where no
depth is left all of them wait, and there is none that could still be spliced. -/
theorem stateIn_blames {depth : Nat} (h : Awaits g active id)
    (hdepth : g.states.length ≤ depth + active.length) (hp : p.stock.pool.Genuine g) :
    Blames library g (stateIn library g depth active id p) := by
  induction depth generalizing active id p with
  | zero =>
    refine stateWith_blames h (fun i hmore _ q hq => ?_) hp
    have hle := hmore.waiting.length_le
    rw [List.length_append, List.length_singleton] at hle
    omega
  | succ depth ih =>
    refine stateWith_blames h (fun i hmore _ q hq => ih hmore ?_ hq) hp
    rw [List.length_append, List.length_singleton]
    omega

theorem allStates_fault {ids : List StateId} (hids : ids ⊆ g.ids) (hp : p.stock.pool.Genuine g)
    (h : allStates library g ids p = .error e) : g.Fault library e := by
  induction ids generalizing p with
  | nil => cases h
  | cons id ids ih =>
    obtain ⟨hid, hids⟩ := List.cons_subset.mp hids
    have hfirst : Blames library g (stateIn library g g.states.length [] id p) :=
      stateIn_blames (.first hid) (Nat.le_refl _) hp
    rcases bind_eq_error_iff.mp h with hx | ⟨⟨rules, q⟩, hx, h⟩
    · rw [hx] at hfirst
      exact hfirst
    · rw [hx] at hfirst
      exact ih hids hfirst h

end

end Build

/-! ## Faults are faults -/

section

variable {g : Grammar} {library : Library} {state : String} {r : RuleSpec} {e : BuildError}

theorem RuleSpec.Valid.refers (h : r.Valid g library) {name : String} (hr : r.RefersTo name) :
    g.Refers name := by
  rcases hr with ⟨op, hop, hname⟩ | ⟨d, hd, hthis, hname⟩
  · exact h.ops op hop name hname
  · have hstarts := h.delegates d hd name hname
    rwa [hthis] at hstarts

theorem RuleSpec.Fault.not_valid (h : r.Fault g library state e) : ¬ r.Valid g library := by
  intro hvalid
  cases h with
  | pattern hp he =>
    obtain ⟨m, text, expanded, htext, hexpand, hm⟩ := hvalid.pattern _ hp
    have halone : Pool.alone g.flags g.fragments text = .ok m :=
      bind_eq_ok_iff.mpr ⟨expanded, hexpand, hm⟩
    cases he.symm.trans (bind_eq_ok_iff.mpr ⟨text, htext, halone⟩)
  | groups hp hm hlist hne =>
    obtain ⟨p', hp', m', hm', hcount⟩ := hvalid.groups _ hlist
    cases Option.mem_unique hp hp'
    exact hne (accepts_unique hm hm' ▸ hcount)
  | noPattern hp hlist =>
    obtain ⟨p, hp', -⟩ := hvalid.groups _ hlist
    cases hp.symm.trans hp'
  | emptyName h => exact (hvalid.refers h).1 rfl
  | undefined h hnone => exact hnone (hvalid.refers h).2
  | foreign hd htable hname hnone =>
    have hstarts := hvalid.delegates _ hd _ hname
    rw [htable] at hstarts
    exact hnone hstarts

theorem Grammar.Circles.transGen {chain : List String} (h : g.Circles chain) :
    ∃ name, Relation.TransGen g.Splices name name := by
  obtain ⟨first, others, rfl, -⟩ := h.closed
  obtain ⟨second, rest, hrest⟩ := List.exists_cons_of_ne_nil
    (List.append_ne_nil_of_right_ne_nil others (List.cons_ne_nil first []))
  have hchain := h.splices
  rw [hrest] at hchain
  obtain ⟨hfirst, htail⟩ := List.isChain_cons_cons.mp hchain
  have hlast : (second :: rest).getLast (List.cons_ne_nil _ _) = first := by
    simp only [← hrest, List.getLast_append_singleton]
  exact ⟨first, .head' hfirst (List.relationReflTransGen_of_exists_isChain_cons rest htail hlast)⟩

/-- A grammar with a fault is not valid, whichever error tells of it. -/
theorem Grammar.Fault.not_valid (h : g.Fault library e) : ¬ g.Valid library := by
  intro hvalid
  cases h with
  | rule hr he => exact he.not_valid (hvalid.rules _ _ hr)
  | splice h hnone => exact hnone (hvalid.spliced.defined _ _ h)
  | circle h =>
    obtain ⟨name, hcircle⟩ := h.transGen
    exact hvalid.spliced.acyclic name hcircle

end

/-! ## Grammars -/

namespace Grammar

variable {g : Grammar} {library : Library} {e : BuildError}

/-- The error of a build tells of a fault of the grammar: what it says is true of an entry that is
written in the state it names, or of a circle of splices that it lists from a state on the circle
to the same state. -/
theorem build_error_fault (h : g.build library = .error e) : g.Fault library e := by
  rcases bind_eq_error_iff.mp h with h | ⟨p, -, ⟨⟩⟩
  exact allStates_fault (List.Subset.refl _) (Pool.genuine_new g) h

/-- A grammar in which a way of two states leads into a circle of three. -/
def leadIn : Grammar :=
  (((((Grammar.new "lead").state rootState [.splice "way"]).state "way"
    [.rule ⟨none, .nothing, []⟩, .splice "b"]).state "a" [.splice "b"]).state "b"
    [.splice "c"]).state "c" [.splice "a"]

theorem build_error_fault_leadIn : leadIn.Circles ["b", "c", "a", "b"] := by
  have hbuild : leadIn.build [] = .error (.spliceCycle ["b", "c", "a", "b"]) := rfl
  cases build_error_fault hbuild with
  | rule _ he => cases he
  | circle h => exact h

end Grammar

end TableLexer
