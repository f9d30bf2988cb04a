import TableLexer.Proofs.Pattern.Pool
import TableLexer.Table.Build

/-!
# The stock of the rules

Rules are compiled one after the other with a stock of patterns and of synthetic
states, which only grows. A rule that has been compiled finds in the stock all it
needs: compiled again at any later time, it gives the same rule and adds nothing. The
state in which a rule is written only matters for errors.

Results:
1. `rule_replays`: compiling a rule again gives the same rule and adds nothing.
2. `rule_sameOk`: whether it compiles, and to what, does not depend on the state.
3. `rules?_append`, `rules?_again`: the same of lists of rules.
4. `rules?_each`, `rule_parts`: rules that add nothing to the stock, taken apart.
-/

namespace TableLexer

/-! ## Growth -/

namespace Build

variable {α : Type} {library : Library} {names : List String} {state : String}
  {s t u : Stock}

/-- The stock `t` has what `s` has, at the same positions. -/
structure Stock.Grows (s t : Stock) : Prop where
  pool : s.pool.Grows t.pool
  combined : s.combined <+: t.combined

namespace Stock.Grows

theorem refl (s : Stock) : s.Grows s := ⟨.refl _, List.prefix_rfl⟩

theorem trans (h : s.Grows t) (h' : t.Grows u) : s.Grows u :=
  ⟨h.pool.trans h'.pool, h.combined.trans h'.combined⟩

theorem antisymm (h : s.Grows t) (h' : t.Grows s) : s = t := by
  have hpool : s.pool = t.pool := h.pool.antisymm h'.pool
  have hcomb : s.combined = t.combined :=
    h.combined.eq_of_length_le h'.combined.length_le
  cases s
  cases t
  simp_all

end Stock.Grows

/-! ## Compiling again -/

/-- What a computation makes of the stock, it makes again of every later one, which it
leaves as it is. -/
def Replays (f : Stock → Except BuildError (α × Stock)) : Prop :=
  ∀ s a t, f s = .ok (a, t) → s.Grows t ∧ ∀ u, t.Grows u → f u = .ok (a, u)

/-- The name of the state that combines others. -/
def combinedName (targets : List String) : String := "+".intercalate targets

/-- The two ways in which a combination is made. -/
theorem combine_cases {targets : List String} {id : StateId}
    (h : combine names state targets s = .ok (id, t)) :
    ∃ parts, targets.mapM (localState names state) = .ok parts ∧
      ((∃ i, s.combined.findIdx? (·.name == combinedName targets) = some i ∧
        id = ⟨names.length + i⟩ ∧ t = s) ∨
      (s.combined.findIdx? (·.name == combinedName targets) = none ∧
        id = ⟨names.length + s.combined.length⟩ ∧
        t = { s with combined := s.combined ++ [⟨combinedName targets, parts⟩] })) := by
  obtain ⟨parts, hparts, h⟩ := bind_eq_ok_iff.mp h
  refine ⟨parts, hparts, ?_⟩
  dsimp only at h
  split at h
  · next i hi =>
    cases h
    exact .inl ⟨i, hi, rfl, rfl⟩
  · next hi =>
    cases h
    exact .inr ⟨hi, rfl, rfl⟩

theorem combine_replays (targets : List String) : Replays (combine names state targets) := by
  intro s id t h
  obtain ⟨parts, hparts, hcase⟩ := combine_cases h
  refine ⟨?_, fun u hu => ?_⟩
  · rcases hcase with ⟨i, -, -, rfl⟩ | ⟨-, -, rfl⟩
    · exact .refl _
    · exact ⟨.refl _, List.prefix_append _ _⟩
  · obtain ⟨more, hmore⟩ := hu.combined
    have hfind : ∃ i, u.combined.findIdx? (·.name == combinedName targets) = some i ∧
        id = ⟨names.length + i⟩ := by
      rw [← hmore, List.findIdx?_append]
      rcases hcase with ⟨i, hi, hid, rfl⟩ | ⟨hi, hid, rfl⟩
      · exact ⟨i, by rw [hi]; rfl, hid⟩
      · refine ⟨s.combined.length, ?_, hid⟩
        rw [List.findIdx?_append, hi]
        simp
    obtain ⟨i, hi, rfl⟩ := hfind
    refine bind_eq_ok_iff.mpr ⟨parts, hparts, ?_⟩
    dsimp only [combinedName] at hi ⊢
    rw [hi]

theorem stackOp_replays (op : StackOpSpec) : Replays (stackOp names state op) := by
  intro s a t h
  cases op with
  | push target =>
    obtain ⟨id, hid, h⟩ := bind_eq_ok_iff.mp h
    cases h
    exact ⟨.refl _, fun u _ => bind_eq_ok_iff.mpr ⟨id, hid, rfl⟩⟩
  | goto target =>
    obtain ⟨id, hid, h⟩ := bind_eq_ok_iff.mp h
    cases h
    exact ⟨.refl _, fun u _ => bind_eq_ok_iff.mpr ⟨id, hid, rfl⟩⟩
  | pushCurrent =>
    cases h
    exact ⟨.refl _, fun u _ => rfl⟩
  | pop count =>
    cases h
    exact ⟨.refl _, fun u _ => rfl⟩
  | pushCombined targets =>
    obtain ⟨⟨id, s'⟩, hcomb, h⟩ := bind_eq_ok_iff.mp h
    cases h
    obtain ⟨hgrows, hagain⟩ := combine_replays targets s id t hcomb
    exact ⟨hgrows, fun u hu => bind_eq_ok_iff.mpr ⟨(id, u), hagain u hu, rfl⟩⟩

theorem stackOps_replays (ops : List StackOpSpec) : Replays (stackOps names state ops) := by
  induction ops with
  | nil =>
    intro s a t h
    cases h
    exact ⟨.refl _, fun u _ => rfl⟩
  | cons op ops ih =>
    intro s a t h
    obtain ⟨⟨x, s₁⟩, hop, h⟩ := bind_eq_ok_iff.mp h
    obtain ⟨⟨xs, s₂⟩, hops, h⟩ := bind_eq_ok_iff.mp h
    cases h
    obtain ⟨hgrows, hagain⟩ := stackOp_replays op s x s₁ hop
    obtain ⟨hgrows', hagain'⟩ := ih s₁ xs t hops
    refine ⟨hgrows.trans hgrows', fun u hu => ?_⟩
    exact bind_eq_ok_iff.mpr ⟨(x, u), hagain u (hgrows'.trans hu),
      bind_eq_ok_iff.mpr ⟨(xs, u), hagain' u hu, rfl⟩⟩

/-- Changes of the stack that add nothing to the stock are compiled each by itself: the stock grows
with each of them and ends as it began, so none changes it. -/
theorem stackOps_each {ops : List StackOpSpec} {xs : List StackOp}
    (h : stackOps names state ops s = .ok (xs, s)) :
    List.Forall₂ (fun op x => stackOp names state op s = .ok (x, s)) ops xs := by
  induction ops generalizing xs with
  | nil =>
    cases h
    exact .nil
  | cons op ops ih =>
    obtain ⟨⟨x, s₁⟩, hop, h⟩ := bind_eq_ok_iff.mp h
    obtain ⟨⟨ys, s₂⟩, hops, h⟩ := bind_eq_ok_iff.mp h
    cases h
    have hs : s = s₁ := (stackOp_replays op _ _ _ hop).1.antisymm
      (stackOps_replays ops _ _ _ hops).1
    subst hs
    exact .cons hop (ih hops)

/-- The two ways in which a matcher is made. -/
theorem matcher_cases {spec : Option PatternSpec} {p q : Pool} {m : Option Pooled}
    (h : matcher state spec p = .ok (m, q)) :
    spec = none ∧ m = none ∧ q = p ∨
      ∃ written text found, spec = some written ∧ m = some found ∧
        patternText written = .ok text ∧ p.compile text = .ok (found, q) := by
  cases spec with
  | none =>
    cases h
    exact .inl ⟨rfl, rfl, rfl⟩
  | some written =>
    obtain ⟨⟨found, q'⟩, hpattern, h⟩ := bind_eq_ok_iff.mp h
    cases h
    obtain ⟨text, htext, hcompile⟩ := bind_eq_ok_iff.mp (mapError_eq_ok_iff.mp hpattern)
    exact .inr ⟨written, text, found, rfl, rfl, htext, hcompile⟩

theorem matcher_replays {spec : Option PatternSpec} {p q : Pool} {m : Option Pooled}
    (h : matcher state spec p = .ok (m, q)) :
    p.Grows q ∧ ∀ r, q.Grows r → matcher state spec r = .ok (m, r) := by
  obtain ⟨rfl, rfl, rfl⟩ | ⟨written, text, found, rfl, rfl, htext, hcompile⟩ := matcher_cases h
  · exact ⟨.refl _, fun r _ => rfl⟩
  · refine ⟨Pool.compile_grows hcompile, fun r hr => ?_⟩
    have hagain : pattern state written r = .ok (found, r) := mapError_eq_ok_iff.mpr
      (bind_eq_ok_iff.mpr ⟨text, htext, Pool.compile_again hcompile hr⟩)
    exact bind_eq_ok_iff.mpr ⟨(found, r), hagain, rfl⟩

/-- The parts of a rule that compiles. -/
theorem rule_cases {r : RuleSpec} {x : Rule} (h : rule library names state r s = .ok (x, t)) :
    ∃ pool, matcher state r.pattern s.pool = .ok (x.matcher, pool) ∧
      action library names state x.matcher r.action = .ok x.action ∧
      stackOps names state r.ops { s with pool } = .ok (x.ops, t) := by
  obtain ⟨⟨m, pool⟩, hm, h⟩ := bind_eq_ok_iff.mp h
  obtain ⟨a, ha, h⟩ := bind_eq_ok_iff.mp h
  obtain ⟨⟨ops, t'⟩, hops, h⟩ := bind_eq_ok_iff.mp h
  cases h
  exact ⟨pool, hm, ha, hops⟩

/-- The parts of a rule that adds nothing to the stock. -/
theorem rule_parts {r : RuleSpec} {x : Rule} (h : rule library names state r s = .ok (x, s)) :
    matcher state r.pattern s.pool = .ok (x.matcher, s.pool) ∧
      action library names state x.matcher r.action = .ok x.action ∧
      List.Forall₂ (fun op y => stackOp names state op s = .ok (y, s)) r.ops x.ops := by
  obtain ⟨pool, hm, ha, hops⟩ := rule_cases h
  have hback : Pool.Grows pool s.pool := (stackOps_replays r.ops _ _ _ hops).1.pool
  have hpool : s.pool = pool := (matcher_replays hm).1.antisymm hback
  subst hpool
  exact ⟨hm, ha, stackOps_each hops⟩

/-- A rule compiled again is the same rule, and nothing is added to the stock. -/
theorem rule_replays (r : RuleSpec) : Replays (rule library names state r) := by
  intro s x t h
  obtain ⟨pool, hm, ha, hops⟩ := rule_cases h
  obtain ⟨hpool, hmagain⟩ := matcher_replays hm
  obtain ⟨hgrows, hopsagain⟩ := stackOps_replays r.ops _ _ _ hops
  refine ⟨?_, fun u hu => ?_⟩
  · have hfirst : s.Grows { s with pool } := ⟨hpool, List.prefix_rfl⟩
    exact hfirst.trans hgrows
  · have hmu : matcher state r.pattern u.pool = .ok (x.matcher, u.pool) :=
      hmagain u.pool (hgrows.pool.trans hu.pool)
    exact bind_eq_ok_iff.mpr ⟨_, hmu, bind_eq_ok_iff.mpr ⟨_, ha,
      bind_eq_ok_iff.mpr ⟨_, hopsagain u hu, rfl⟩⟩⟩

/-! ## The state in which a rule is written -/

section

variable (library : Library) (names : List String) (state state' : String)

theorem localState_sameOk (target : String) :
    SameOk (localState names state target) (localState names state' target) := by
  unfold localState
  split
  · exact .error _ _
  · split
    · exact .refl _
    · exact .error _ _

theorem delegate_sameOk (d : DelegateSpec) :
    SameOk (delegate library names state d) (delegate library names state' d) := by
  refine SameOk.bind (SameOk.mapM (fun target => ?_) _) fun stack => .refl _
  cases d.target with
  | this => exact localState_sameOk names state state' target
  | table id => exact .mapError _ _ _

theorem groupAction_sameOk (g : GroupSpec) :
    SameOk (groupAction library names state g) (groupAction library names state' g) := by
  cases g with
  | kind kind => exact .refl _
  | skip => exact .refl _
  | delegate d => exact (delegate_sameOk library names state state' d).map

theorem action_sameOk (m : Option Pooled) (a : ActionSpec) :
    SameOk (action library names state m a) (action library names state' m a) := by
  cases a with
  | nothing => exact .refl _
  | kind kind => exact .refl _
  | delegate d => exact (delegate_sameOk library names state state' d).map
  | groups groups =>
    cases m with
    | none => exact .error _ _
    | some p =>
      unfold action
      dsimp only
      split
      · exact (SameOk.mapM (groupAction_sameOk library names state state') groups).map
      · exact .error _ _

theorem matcher_sameOk (spec : Option PatternSpec) (p : Pool) :
    SameOk (matcher state spec p) (matcher state' spec p) := by
  cases spec with
  | none => exact .refl _
  | some spec => exact SameOk.bind (.mapError _ _ _) fun found => .refl _

theorem combine_sameOk (targets : List String) (s : Stock) :
    SameOk (combine names state targets s) (combine names state' targets s) :=
  SameOk.bind (SameOk.mapM (localState_sameOk names state state') targets) fun _ => .refl _

theorem stackOp_sameOk (op : StackOpSpec) (s : Stock) :
    SameOk (stackOp names state op s) (stackOp names state' op s) := by
  cases op with
  | push target => exact (localState_sameOk names state state' target).bind fun _ => .refl _
  | goto target => exact (localState_sameOk names state state' target).bind fun _ => .refl _
  | pushCurrent => exact .refl _
  | pop count => exact .refl _
  | pushCombined targets =>
    exact (combine_sameOk names state state' targets s).bind fun _ => .refl _

theorem stackOps_sameOk (ops : List StackOpSpec) (s : Stock) :
    SameOk (stackOps names state ops s) (stackOps names state' ops s) := by
  induction ops generalizing s with
  | nil => exact .refl _
  | cons op ops ih =>
    exact (stackOp_sameOk names state state' op s).bind fun found =>
      (ih found.2).bind fun _ => .refl _

/-- Whether a rule compiles, and to what, does not depend on the state. -/
theorem rule_sameOk (r : RuleSpec) (s : Stock) :
    SameOk (rule library names state r s) (rule library names state' r s) :=
  (matcher_sameOk state state' r.pattern s.pool).bind fun m =>
    (action_sameOk library names state state' m.1 r.action).bind fun _ =>
      (stackOps_sameOk names state state' r.ops _).bind fun _ => .refl _

end

/-! ## Lists of rules -/

section

variable (library : Library) (names : List String)

/-- Compiles a rule, in whatever state it is written. -/
def rule? (r : RuleSpec) (s : Stock) : Option (Rule × Stock) :=
  (rule library names "" r s).toOption

/-- Compiles rules one after the other. -/
def rules? : List RuleSpec → Stock → Option (List Rule × Stock)
  | [], s => some ([], s)
  | r :: rest, s =>
      (rule? library names r s).bind fun first =>
        (rules? rest first.2).map fun others => (first.1 :: others.1, others.2)

end

variable {r : RuleSpec} {l m : List RuleSpec} {x : Rule} {xs : List Rule}

theorem rule?_eq_some_iff (state : String) :
    rule? library names r s = some (x, t) ↔ rule library names state r s = .ok (x, t) :=
  toOption_eq_some_iff.trans (rule_sameOk library names "" state r s (x, t))

theorem rule?_eq_none_iff (state : String) :
    rule? library names r s = none ↔ ∃ e, rule library names state r s = .error e := by
  cases hrule : rule library names state r s with
  | error e =>
    refine ⟨fun _ => ⟨e, rfl⟩, fun _ => Option.eq_none_iff_forall_ne_some.mpr ?_⟩
    rintro ⟨x, t⟩ hsome
    rw [(rule?_eq_some_iff state).mp hsome] at hrule
    cases hrule
  | ok y =>
    obtain ⟨x, t⟩ := y
    rw [(rule?_eq_some_iff state).mpr hrule]
    simp

theorem rules?_cons_iff :
    rules? library names (r :: l) s = some (xs, t) ↔
      ∃ x s₁ ys, rule? library names r s = some (x, s₁) ∧
        rules? library names l s₁ = some (ys, t) ∧ xs = x :: ys := by
  rw [rules?, Option.bind_eq_some_iff]
  constructor
  · rintro ⟨⟨x, s₁⟩, hx, h⟩
    obtain ⟨⟨ys, t'⟩, hys, h⟩ := Option.map_eq_some_iff.mp h
    cases h
    exact ⟨x, s₁, ys, hx, hys, rfl⟩
  · rintro ⟨x, s₁, ys, hx, hys, rfl⟩
    exact ⟨(x, s₁), hx, Option.map_eq_some_iff.mpr ⟨(ys, t), hys, rfl⟩⟩

theorem rules?_append (l m : List RuleSpec) (s : Stock) :
    rules? library names (l ++ m) s =
      (rules? library names l s).bind fun first =>
        (rules? library names m first.2).map fun others =>
          (first.1 ++ others.1, others.2) := by
  induction l generalizing s with
  | nil => simp [rules?]
  | cons r l ih =>
    rw [List.cons_append, rules?, rules?]
    cases rule? library names r s with
    | none => rfl
    | some first =>
      simp only [Option.bind_some, ih]
      cases rules? library names l first.2 with
      | none => rfl
      | some second =>
        simp [Option.map_map, Function.comp_def]

theorem rules?_grows (h : rules? library names l s = some (xs, t)) : s.Grows t := by
  induction l generalizing s xs with
  | nil =>
    cases h
    exact .refl _
  | cons r l ih =>
    obtain ⟨x, s₁, ys, hx, hys, rfl⟩ := rules?_cons_iff.mp h
    have hfirst := (rule_replays r s x s₁ ((rule?_eq_some_iff "").mp hx)).1
    exact hfirst.trans (ih hys)

/-- Rules compiled again are the same rules, and nothing is added to the stock. -/
theorem rules?_again (h : rules? library names l s = some (xs, t)) (hu : t.Grows u) :
    rules? library names l u = some (xs, u) := by
  induction l generalizing s xs with
  | nil =>
    cases h
    rfl
  | cons r l ih =>
    obtain ⟨x, s₁, ys, hx, hys, rfl⟩ := rules?_cons_iff.mp h
    have hagain := (rule_replays r s x s₁ ((rule?_eq_some_iff "").mp hx)).2 u
      ((rules?_grows hys).trans hu)
    exact rules?_cons_iff.mpr ⟨x, u, ys, (rule?_eq_some_iff "").mpr hagain, ih hys, rfl⟩

/-- Rules that add nothing to the stock are compiled each by itself. -/
theorem rules?_each (h : rules? library names l s = some (xs, s)) :
    List.Forall₂ (fun r x => rule library names "" r s = .ok (x, s)) l xs := by
  induction l generalizing xs with
  | nil =>
    cases h
    exact .nil
  | cons r l ih =>
    obtain ⟨x, s₁, ys, hx, hys, rfl⟩ := rules?_cons_iff.mp h
    have hrule := (rule?_eq_some_iff "").mp hx
    have hs : s = s₁ := (rule_replays r _ _ _ hrule).1.antisymm (rules?_grows hys)
    subst hs
    exact .cons hrule (ih hys)

theorem rules?_append_iff :
    rules? library names (l ++ m) s = some (xs, t) ↔
      ∃ ys s₁ zs, rules? library names l s = some (ys, s₁) ∧
        rules? library names m s₁ = some (zs, t) ∧ xs = ys ++ zs := by
  rw [rules?_append, Option.bind_eq_some_iff]
  constructor
  · rintro ⟨⟨ys, s₁⟩, hys, h⟩
    obtain ⟨⟨zs, t'⟩, hzs, h⟩ := Option.map_eq_some_iff.mp h
    cases h
    exact ⟨ys, s₁, zs, hys, hzs, rfl⟩
  · rintro ⟨ys, s₁, zs, hys, hzs, rfl⟩
    exact ⟨(ys, s₁), hys, Option.map_eq_some_iff.mpr ⟨(zs, t), hzs, rfl⟩⟩

/-- Each of the lists that have been compiled one after the other can be compiled again
with the stock at the end. -/
theorem rules?_of_mem {f : String → List RuleSpec} {among : List String} {name : String}
    (h : rules? library names (among.flatMap f) s = some (xs, t)) (hname : name ∈ among) :
    ∃ ys, rules? library names (f name) t = some (ys, t) := by
  induction among generalizing s xs with
  | nil => exact absurd hname List.not_mem_nil
  | cons first among ih =>
    rw [List.flatMap_cons] at h
    obtain ⟨ys, s₁, zs, hys, hzs, -⟩ := rules?_append_iff.mp h
    rcases List.mem_cons.mp hname with rfl | hname
    · exact ⟨ys, rules?_again hys (rules?_grows hzs)⟩
    · exact ih hzs hname

end Build

end TableLexer
