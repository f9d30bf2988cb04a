import Mathlib.Data.Fintype.EquivFin
import TableLexer.Proofs.Run.Step
import TableLexer.Proofs.Table.Closure
import TableLexer.Run

/-!
# Which state is pushed again

A rule may push the state once more that is on top when it matches. Its changes of the stack are
made one after another, however, and what is pushed again is the state that is on top by then. So
it is the right one only where the changes before it have left that state on top, or a copy of it:
what they have put above it must have been removed, and it must not have been removed itself. This
can be seen from the changes alone. A combined push counts as a push, of a synthetic state.

Results:
1. `repeats_of_exposes`: where the changes leave the state on top, it is pushed again, whatever
   the stack is.
2. `exposes_of_repeats`: where they do not, a stack of two states shows it.
3. `Rule.repeatsRunning_iff`: the rules that push again what was on top when they matched.
4. `not_repeatsRunning_doubling`: a run in which a rule pushes another state twice.
-/

namespace TableLexer

open RunContext

/-- Each `pushCurrent` among the changes puts the state `current` on top of the stack. -/
def Repeats (current : StateId) (ops : List StackOp) (stack : List StateId) : Prop :=
  ∀ done rest, ops = done ++ .pushCurrent :: rest →
    applyOps (done ++ [.pushCurrent]) stack = current :: applyOps done stack

/-- Wherever the rule matches in a run, each of its `pushCurrent` pushes the state that is on top
then, one of whose rules it is. -/
def Rule.RepeatsRunning (rule : Rule) : Prop :=
  ∀ (ctx : RunContext) (s : RunState) (m : Regex.Match), ctx.Selects s rule m →
    ∀ top ∈ s.stack.head?, Repeats top rule.ops s.stack

namespace StackOp

/-- What a change makes of marks for the states on top of a stack, which tell the copies of one
state from others. -/
def mark (marks : List Bool) : StackOp → List Bool
  | .push _ => false :: marks
  | .pushCurrent => true :: marks
  | .pop count => marks.drop count
  | .goto _ => false :: marks.tail

/-- Whether a copy is on top at each `pushCurrent` among the changes. -/
def exposes : (marks : List Bool) → List StackOp → Bool
  | _, [] => true
  | marks, op :: ops => (op != .pushCurrent || marks.head? == some true) && exposes (op.mark marks) ops

theorem exposes_cons {marks : List Bool} {op : StackOp} {ops : List StackOp} :
    exposes marks (op :: ops) = true ↔
      (op = .pushCurrent → marks.head? = some true) ∧ exposes (op.mark marks) ops = true := by
  rw [exposes, Bool.and_eq_true]
  by_cases hop : op = .pushCurrent <;> simp [hop]

end StackOp

section

variable {current : StateId} {marks : List Bool} {stack : List StateId} {op : StackOp}
  {ops : List StackOp}

theorem repeats_cons : Repeats current (op :: ops) stack ↔
    (op = .pushCurrent → applyOp stack op = current :: stack) ∧
      Repeats current ops (applyOp stack op) := by
  constructor
  · intro h
    refine ⟨?_, fun done rest hops => h (op :: done) rest (by rw [hops]; rfl)⟩
    rintro rfl
    exact h [] ops rfl
  · rintro ⟨hop, hrest⟩ done rest h
    cases done with
    | nil =>
      obtain ⟨rfl, rfl⟩ := List.cons.inj h
      exact hop rfl
    | cons first done =>
      obtain ⟨rfl, hops⟩ := List.cons.inj h
      exact hrest done rest hops

/-! ## Where a copy is on top -/

/-- All that the marks show as copies are. -/
def Marks (current : StateId) (marks : List Bool) (stack : List StateId) : Prop :=
  ∀ i : Nat, marks[i]? = some true → stack[i]? = some current

theorem Marks.nil (current : StateId) (stack : List StateId) : Marks current [] stack :=
  fun i hi => by simp at hi

theorem Marks.cons {id : StateId} (h : Marks current marks stack) {copy : Bool}
    (hid : copy = true → id = current) : Marks current (copy :: marks) (id :: stack) := by
  intro i hi
  cases i with
  | zero => simpa using hid (by simpa using hi)
  | succ i => exact h i (by simpa using hi)

theorem Marks.tail (h : Marks current marks stack) : Marks current marks.tail stack.tail := by
  intro i hi
  rw [List.getElem?_tail] at hi ⊢
  exact h (i + 1) hi

theorem Marks.top (h : Marks current marks stack) (htop : marks.head? = some true) :
    ∃ below, stack = current :: below := by
  rw [List.head?_eq_getElem?] at htop
  exact List.head?_eq_some_iff.mp (List.head?_eq_getElem? ▸ h 0 htop)

/-- A copy below what is removed is not the last state, so that nothing is kept back. -/
theorem Marks.applyOp (h : Marks current marks stack)
    (hop : op = .pushCurrent → marks.head? = some true) :
    Marks current (op.mark marks) (applyOp stack op) := by
  cases op with
  | push id => exact h.cons nofun
  | pushCurrent =>
    obtain ⟨below, rfl⟩ := h.top (hop rfl)
    exact h.cons fun _ => rfl
  | pop count =>
    intro i hi
    rw [StackOp.mark, List.getElem?_drop] at hi
    have hcopy := h _ hi
    obtain ⟨hlt, -⟩ := List.getElem?_eq_some_iff.mp hcopy
    have hcount : min count (stack.length - 1) = count := by omega
    rw [RunContext.applyOp, List.getElem?_drop, hcount]
    exact hcopy
  | goto id => exact h.tail.cons nofun

theorem repeats_of_exposes (h : Marks current marks stack)
    (he : StackOp.exposes marks ops = true) : Repeats current ops stack := by
  induction ops generalizing marks stack with
  | nil => rintro (_ | _) _ hnil <;> cases hnil
  | cons op ops ih =>
    obtain ⟨hop, hops⟩ := StackOp.exposes_cons.mp he
    refine repeats_cons.mpr ⟨?_, ih (h.applyOp hop) hops⟩
    rintro rfl
    obtain ⟨below, rfl⟩ := h.top (hop rfl)
    rfl

/-! ## Where something else is on top -/

/-- The marks show all copies, and the last state of the stack is none. -/
structure Shown (current : StateId) (marks : List Bool) (stack : List StateId) : Prop where
  marked : ∀ i : Nat, stack[i]? = some current → marks[i]? = some true
  above : ∀ i : Nat, stack[i]? = some current → i + 1 < stack.length

theorem Shown.nil {bottom : StateId} (h : bottom ≠ current) : Shown current [] [bottom] := by
  refine ⟨fun i hi => absurd ?_ h, fun i hi => absurd ?_ h⟩ <;>
    exact (List.mem_singleton.mp (List.mem_of_getElem? hi)).symm

theorem Shown.cons {id : StateId} (h : Shown current marks stack) {copy : Bool}
    (hid : id = current → copy = true ∧ stack ≠ []) :
    Shown current (copy :: marks) (id :: stack) where
  marked i hi := by
    cases i with
    | zero => simpa using (hid (by simpa using hi)).1
    | succ i => exact h.marked i (by simpa using hi)
  above i hi := by
    cases i with
    | zero => simpa [List.length_pos_iff] using (hid (by simpa using hi)).2
    | succ i => simpa using h.above i (by simpa using hi)

theorem Shown.tail (h : Shown current marks stack) : Shown current marks.tail stack.tail where
  marked i hi := by
    rw [List.getElem?_tail] at hi ⊢
    exact h.marked (i + 1) hi
  above i hi := by
    rw [List.getElem?_tail] at hi
    have := h.above (i + 1) hi
    rw [List.length_tail]
    omega

/-- The last state is kept back only if it is on top then, and it is no copy. -/
theorem Shown.pop (h : Shown current marks stack) (count : Nat) :
    Shown current (marks.drop count) (applyOp stack (.pop count)) := by
  have hcount : ∀ i, stack[min count (stack.length - 1) + i]? = some current →
      min count (stack.length - 1) = count := by
    intro i hi
    have := h.above _ hi
    omega
  refine ⟨fun i hi => ?_, fun i hi => ?_⟩ <;> rw [applyOp, List.getElem?_drop] at hi
  · rw [List.getElem?_drop]
    exact h.marked _ (hcount i hi ▸ hi)
  · have := h.above _ hi
    rw [applyOp, List.length_drop]
    omega

/-- What is pushed again is what is on top. -/
theorem head_of_pushCurrent (h : applyOp stack .pushCurrent = current :: stack) :
    ∃ below, stack = current :: below := by
  cases stack with
  | nil => cases h
  | cons top below => exact ⟨below, by rw [(List.cons.inj h).1]⟩

theorem Shown.applyOp (h : Shown current marks stack) (hop : ∀ id ∈ op.state?, id ≠ current)
    (hpush : op = .pushCurrent → RunContext.applyOp stack op = current :: stack) :
    Shown current (op.mark marks) (RunContext.applyOp stack op) := by
  cases op with
  | push id => exact h.cons fun hid => absurd hid (hop id rfl)
  | pushCurrent =>
    obtain ⟨below, rfl⟩ := head_of_pushCurrent (hpush rfl)
    exact h.cons fun _ => ⟨rfl, List.cons_ne_nil _ _⟩
  | pop count => exact h.pop count
  | goto id => exact h.tail.cons fun hid => absurd hid (hop id rfl)

theorem exposes_of_repeats (h : Shown current marks stack)
    (hops : ∀ op ∈ ops, ∀ id ∈ op.state?, id ≠ current) (hr : Repeats current ops stack) :
    StackOp.exposes marks ops = true := by
  induction ops generalizing marks stack with
  | nil => rfl
  | cons op ops ih =>
    obtain ⟨hop, hrest⟩ := repeats_cons.mp hr
    obtain ⟨hid, hids⟩ := List.forall_mem_cons.mp hops
    refine StackOp.exposes_cons.mpr ⟨?_, ih (h.applyOp hid hop) hids hrest⟩
    rintro rfl
    obtain ⟨below, rfl⟩ := head_of_pushCurrent (hop rfl)
    rw [List.head?_eq_getElem?]
    exact h.marked 0 rfl

/-- There is a state that the changes do not refer to. -/
theorem exists_fresh (ops : List StackOp) :
    ∃ fresh : StateId, ∀ op ∈ ops, ∀ id ∈ op.state?, id ≠ fresh := by
  obtain ⟨n, hn⟩ :=
    Infinite.exists_notMem_finset ((ops.filterMap StackOp.state?).map StateId.index).toFinset
  refine ⟨⟨n⟩, fun op hop id hid heq => hn (List.mem_toFinset.mpr (List.mem_map.mpr ⟨id, ?_, ?_⟩))⟩
  · exact List.mem_filterMap.mpr ⟨op, hop, hid⟩
  · rw [heq]

end

/-! ## Rules -/

namespace Rule

variable {rule : Rule} {place : Cursor} {m : Regex.Match}

/-- A run in which the rule is the only one of the state on top. -/
theorem exists_selects (h : rule.matchAt? place = some m) (top : StateId) (below : List StateId) :
    ∃ (ctx : RunContext) (s : RunState), ctx.Selects s rule m ∧ s.stack = top :: below := by
  let table : Table := { Table.empty with states := List.replicate (top.index + 1) ⟨"", [rule]⟩ }
  have hrules : table.rules top = [rule] := by
    simp [table, Table.rules]
  refine ⟨⟨table, .standard, [], fun _ _ => []⟩, ⟨place, top :: below, none⟩,
    ⟨top, below, rfl, ?_⟩, rfl⟩
  simp [hrules, firstMatch?, h]

/-- The rules whose `pushCurrent` pushes what is on top when they match are, apart from those that
never match, the rules whose changes leave that state, or a copy of it, on top for each of them:
what has been put above it has been removed, and it has not been removed or replaced itself. -/
theorem repeatsRunning_iff (rule : Rule) : rule.RepeatsRunning ↔
    (∀ place, rule.matchAt? place = none) ∨ StackOp.exposes [true] rule.ops = true := by
  constructor
  · intro h
    refine or_iff_not_imp_left.mpr fun hmatches => ?_
    obtain ⟨place, hplace⟩ := not_forall.mp hmatches
    obtain ⟨m, hm⟩ := Option.ne_none_iff_exists'.mp hplace
    obtain ⟨fresh, hfresh⟩ := exists_fresh rule.ops
    obtain ⟨ctx, s, hsel, hstack⟩ := exists_selects hm fresh [⟨fresh.index + 1⟩]
    have hrepeats := h ctx s m hsel fresh (by rw [hstack]; rfl)
    rw [hstack] at hrepeats
    have hbottom : (⟨fresh.index + 1⟩ : StateId) ≠ fresh := fun heq =>
      Nat.succ_ne_self _ (congrArg StateId.index heq)
    have hshown : Shown fresh [true] [fresh, ⟨fresh.index + 1⟩] :=
      (Shown.nil hbottom).cons fun _ => ⟨rfl, List.cons_ne_nil _ _⟩
    exact exposes_of_repeats hshown hfresh hrepeats
  · rintro (hnone | he) ctx s m hsel top htop
    · obtain ⟨_, -, -, hmatch⟩ := hsel.mem
      rw [hnone] at hmatch
      cases hmatch
    · obtain ⟨below, hstack⟩ := List.head?_eq_some_iff.mp htop
      rw [hstack]
      exact repeats_of_exposes ((Marks.nil top below).cons fun _ => rfl) he

/-- What is pushed and popped again in between does not matter. -/
example (a b : StateId) :
    StackOp.exposes [true] [.pushCurrent, .push a, .goto b, .pop 1, .pushCurrent] = true ∧
      StackOp.exposes [true] [.pop 1, .pushCurrent] = false :=
  ⟨rfl, rfl⟩

end Rule

/-- A grammar in which the state that a rule pushes is pushed again by the same rule. -/
def doubling : Grammar :=
  ((Grammar.new "doubling").state rootState
    [.rule ⟨some (.regex "a".toList), .kind .name, [.push "x", .pushCurrent]⟩]).state "x" []

theorem not_repeatsRunning_doubling :
    ∃ t r rule m, doubling.build [] = .ok t ∧ Run.start [] t [] "a".toList = .ok r ∧
      r.context.Selects r.state rule m ∧ r.stackNames = ["root"] ∧
      r.next.2.stackNames = ["root", "x", "x"] ∧ ¬ rule.RepeatsRunning := by
  obtain ⟨t, ht, r, hr, hnames, hnext, ⟨rule, m⟩, hfirst, hops, hstack⟩ :
      ∃ t, doubling.build [] = .ok t ∧ ∃ r, Run.start [] t [] "a".toList = .ok r ∧
        r.stackNames = ["root"] ∧ r.next.2.stackNames = ["root", "x", "x"] ∧
        ∃ found ∈ firstMatch? r.state.place (r.table.rules ⟨0⟩),
          found.1.ops = [.push ⟨1⟩, .pushCurrent] ∧ r.state.stack = [⟨0⟩] := by
    decide +kernel
  have hsel : r.context.Selects r.state rule m := ⟨⟨0⟩, [], hstack, hfirst⟩
  refine ⟨t, r, rule, m, ht, hr, hsel, hnames, hnext, fun hall => ?_⟩
  have hrepeats := hall _ _ _ hsel ⟨0⟩ (by rw [hstack]; rfl) [.push ⟨1⟩] [] hops
  rw [hstack] at hrepeats
  exact absurd hrepeats (by decide)

end TableLexer
