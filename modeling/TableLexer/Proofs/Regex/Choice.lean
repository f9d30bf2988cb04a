import TableLexer.Proofs.Regex.Words

/-!
# Choosing between texts

Where a pattern is a choice between texts, a match takes the first of them that is next and
behind which the rest of the pattern matches. That only one path to each place is kept makes no
difference, and neither does it that a choice between single characters becomes a set.

Results:
1. `Path.find?_distinct`: looking for a path among those kept.
2. `Program.find?_paths_texts`: looking for a path of a choice between texts.
-/

namespace TableLexer.Regex

open Cursor

/-! ## One path per place -/

namespace Path

variable {f : Found} {p : Path} {paths : List Path} {P : Path → Bool}

/-- The offsets that count as found are those of the paths. -/
def Found.Exact (f : Found) : Prop :=
  ∀ pos, f.base ≤ pos → (f.has pos = true ↔ ∃ q ∈ f.latest, q.pos = pos)

theorem Found.exact_none (base : Nat) : (Found.none base).Exact := by
  simp [Found.Exact, Found.none, Found.has]

theorem Found.Exact.add (h : f.Exact) (hp : f.base ≤ p.pos) : (f.add p).Exact := by
  intro pos hpos
  have hpos : f.base ≤ pos := hpos
  have hbit : (f.add p).has pos = (f.has pos || decide (p.pos = pos)) := by
    have hsub : p.pos - f.base = pos - f.base ↔ p.pos = pos := by omega
    simp [Found.add, Found.has, Nat.testBit_or, Nat.one_shiftLeft, Nat.testBit_two_pow, hsub]
  rw [hbit, Bool.or_eq_true, decide_eq_true_eq, h pos hpos]
  simp [Found.add, or_comm]

theorem Found.exact_addNew (h : f.Exact) (hp : f.base ≤ p.pos) : (f.addNew p).Exact := by
  unfold Found.addNew
  split
  · exact h
  · exact h.add hp

theorem lowest_le {q : Path} (h : q ∈ paths) : lowest paths ≤ q.pos := by
  fun_induction lowest paths with
  | case1 => cases h
  | case2 p => rw [List.mem_singleton.mp h]
  | case3 p rest hrest ih =>
    rcases List.mem_cons.mp h with rfl | h
    · exact Nat.min_le_left _ _
    · exact (Nat.min_le_right _ _).trans (ih h)

/-- A path that is left out has the offset of one that has been kept, so it would not be found
either. -/
theorem find?_foldl_addNew (hf : f.Exact) (hpos : ∀ q ∈ paths, f.base ≤ q.pos)
    (hP : ∀ q ∈ f.latest ++ paths, ∀ q' ∈ f.latest ++ paths, q.pos = q'.pos → P q = P q') :
    (paths.foldl Found.addNew f).toList.find? P = (f.toList ++ paths).find? P := by
  induction paths generalizing f with
  | nil => rw [List.append_nil, List.foldl_nil]
  | cons p paths ih =>
    obtain ⟨hp, hpaths⟩ := List.forall_mem_cons.mp hpos
    rw [List.foldl_cons, ih (Found.exact_addNew hf hp)]
    · unfold Found.addNew
      split
      · next hhas =>
        obtain ⟨q, hq, hqp⟩ := (hf p.pos hp).mp hhas
        have hsame : P q = P p := hP q (by simp [hq]) p (by simp) hqp
        rw [List.find?_append, List.find?_append, List.find?_cons]
        cases hPp : P p with
        | false => rfl
        | true =>
          have hsome : (f.toList.find? P).isSome = true :=
            List.find?_isSome.mpr ⟨q, mem_toList.mpr hq, hsame.trans hPp⟩
          obtain ⟨r, hr⟩ := Option.isSome_iff_exists.mp hsome
          rw [hr]
          rfl
      · simp [Found.toList, Found.add]
    · intro q hq
      unfold Found.addNew
      split <;> exact hpaths q hq
    · intro q hq q' hq'
      have hmem : ∀ r ∈ (f.addNew p).latest ++ paths, r ∈ f.latest ++ p :: paths := by
        intro r hr
        rcases List.mem_append.mp hr with hr | hr
        · rcases mem_addNew hr with rfl | hr
          · simp
          · simp [hr]
        · simp [hr]
      exact hP q (hmem q hq) q' (hmem q' hq')

/-- Where only the offset of a path counts, looking for one among those kept is looking for one
among all. -/
theorem find?_distinct (hP : ∀ q ∈ paths, ∀ q' ∈ paths, q.pos = q'.pos → P q = P q') :
    (distinct paths).find? P = paths.find? P := by
  unfold distinct
  split
  · rfl
  · rfl
  · refine (find?_foldl_addNew (Found.exact_none _) (fun q hq => lowest_le hq) ?_).trans ?_
    · simpa [Found.none] using hP
    · simp [Found.none, Found.toList]

end Path

/-! ## Texts and sets -/

namespace Expr

/-- The text as a pattern: nothing, or its characters one after the other. -/
def literal (t : Text) : Expr := if t = [] then .empty else .text t

variable {t : Text} {ts : List Text}

theorem choices_literal (t : Text) : choices (literal t) = [literal t] := by
  unfold literal
  split <;> rfl

theorem isSeq_literal (t : Text) : isSeq (literal t) = false := by
  unfold literal
  split <;> rfl

theorem groupCount_literal (t : Text) : (literal t).groupCount = 0 := by
  unfold literal
  split <;> rfl

theorem groupCount_charSet (s : CharSet) : (charSet s).groupCount = 0 := by
  unfold charSet
  split
  · rfl
  · split <;> rfl

theorem groupCount_choose {es : List Expr} (h : ∀ e ∈ es, e.groupCount = 0) :
    (choose es).groupCount = 0 := by
  fun_induction choose es with
  | case1 => rfl
  | case2 e => exact h e (List.mem_singleton_self e)
  | case3 e rest hrest ih =>
    obtain ⟨he, hrest⟩ := List.forall_mem_cons.mp h
    rw [groupCount, he, ih hrest]

theorem oneOf?_literal {s : CharSet} (h : oneOf? (literal t) = some s) :
    ∃ c, t = [c] ∧ s = .singleton c := by
  unfold literal at h
  split at h
  · cases h
  · match t with
    | [] => cases h
    | [c] => exact ⟨c, rfl, (Option.some.inj h).symm⟩
    | _ :: _ :: _ => cases h

theorem mapM_oneOf?_literal (ts : List Text) {sets : List CharSet}
    (h : (ts.map literal).mapM oneOf? = some sets) :
    ∃ cs : List Char, ts = cs.map ([·]) ∧ sets = cs.map .singleton := by
  induction ts generalizing sets with
  | nil =>
    cases h
    exact ⟨[], rfl, rfl⟩
  | cons t ts ih =>
    rw [List.map_cons, List.mapM_cons] at h
    obtain ⟨s, hs, h⟩ := Option.bind_eq_some_iff.mp h
    obtain ⟨rest, hrest, h⟩ := Option.bind_eq_some_iff.mp h
    cases h
    obtain ⟨c, rfl, rfl⟩ := oneOf?_literal hs
    obtain ⟨cs, rfl, rfl⟩ := ih hrest
    exact ⟨c :: cs, rfl, rfl⟩

theorem sharedFactors_literal (ts : List Text) : sharedFactors (ts.map literal) = [] := by
  cases ts with
  | nil => rfl
  | cons t ts => simp [sharedFactors, isSeq_literal]

theorem alternation_single (t : Text) : alternation [literal t] = literal t := by
  have hflat : [literal t].flatMap choices = [literal t] := by
    rw [List.flatMap_singleton, choices_literal]
  rw [alternation, hflat]
  cases longest [literal t] <;> rfl

/-- A choice between texts is written as one, or as a set if all texts are single characters. -/
theorem alternation_literal (h : ts ≠ []) :
    alternation (ts.map literal) = choose (ts.map literal) ∨
      ∃ cs : List Char, ts = cs.map ([·]) ∧
        alternation (ts.map literal) = charSet (.unions (cs.map .singleton)) := by
  have hflat : (ts.map literal).flatMap choices = ts.map literal := by
    rw [List.flatMap_map, List.map_eq_flatMap]
    simp only [choices_literal]
  match ts with
  | [] => exact absurd rfl h
  | [t] => exact .inl (alternation_single t)
  | t :: u :: ts =>
    rw [alternation, hflat, List.map_cons, List.map_cons, alternationOf]
    · cases hsets : (literal t :: literal u :: ts.map literal).mapM oneOf? with
      | some sets =>
        obtain ⟨cs, hcs, rfl⟩ := mapM_oneOf?_literal (t :: u :: ts) hsets
        exact .inr ⟨cs, hcs, rfl⟩
      | none =>
        have hshared := sharedFactors_literal (t :: u :: ts)
        rw [List.map_cons, List.map_cons] at hshared
        dsimp only
        rw [hshared]
        exact .inl rfl
    all_goals exact nofun

theorem isSeq_alternation_literal (h : ts ≠ []) : isSeq (alternation (ts.map literal)) = false := by
  rcases alternation_literal h with heq | ⟨cs, -, heq⟩
  · rw [heq]
    match ts with
    | [] => exact absurd rfl h
    | [t] => exact isSeq_literal t
    | _ :: _ :: _ => rfl
  · rw [heq, charSet]
    split
    · rfl
    · split <;> rfl

theorem groupCount_alternation_literal (h : ts ≠ []) :
    (alternation (ts.map literal)).groupCount = 0 := by
  rcases alternation_literal h with heq | ⟨cs, -, heq⟩
  · rw [heq]
    refine groupCount_choose fun e he => ?_
    obtain ⟨t, -, rfl⟩ := List.mem_map.mp he
    exact groupCount_literal t
  · rw [heq]
    exact groupCount_charSet _

end Expr

namespace Program

open TableLexer.Regex.Expr

variable {t : Text} {ts : List Text} {p : Path} {ps : List Path} {marks : Bool} {id : Nat}

theorem paths_literal (t : Text) (marks : Bool) (id : Nat) (ps : List Path) :
    (compile (literal t) marks id).1.paths ps = ps.filterMap (Path.along? t) := by
  unfold literal
  split
  · next ht =>
    subst ht
    exact List.filterMap_some.symm
  · rfl

theorem along?_char (c : Char) : Path.along? [c] = Path.advanceIf? (· == c) := by
  funext p
  exact Option.bind_fun_some _

theorem eq_singleton_of_single? {s : CharSet} {c : Char} (h : s.single? = some c) :
    s = .singleton c := by
  obtain ⟨intervals, hascending⟩ := s
  unfold CharSet.single? at h
  split at h
  · next lo hi hs =>
    obtain rfl : intervals = [(lo, hi)] := hs
    split at h
    · next hone =>
      cases h
      obtain ⟨rfl, hvalid⟩ := hone
      have hnat : (Char.ofNat lo).toNat = lo := by
        rw [Char.ofNat, dif_pos hvalid]
        rfl
      simp [CharSet.singleton, hnat]
    · cases h
  · cases h

theorem contains_of_isEmpty {s : CharSet} (h : s.isEmpty = true) (c : Char) :
    s.contains c = false := by
  rw [CharSet.contains, CharSet.covers, List.isEmpty_iff.mp h, CharSet.coversIn]

theorem paths_charSet (s : CharSet) (marks : Bool) (id : Nat) (ps : List Path) :
    (compile (charSet s) marks id).1.paths ps = ps.filterMap (Path.advanceIf? s.contains) := by
  unfold charSet
  split
  · next hempty =>
    have hnone : Path.advanceIf? s.contains = fun _ => none := by
      funext p
      simp [Path.advanceIf?, Option.any_eq_true, contains_of_isEmpty hempty]
    rw [hnone, List.filterMap_none]
    rfl
  · split
    · next c hc =>
      have htest : s.contains = (· == c) := by
        funext d
        rw [eq_singleton_of_single? hc, Bool.eq_iff_iff, CharSet.contains_singleton, beq_iff_eq]
      rw [htest, ← along?_char]
      rfl
    · rfl

theorem precedes_of_paths {program : Program} {q : Path} (hq : q ∈ program.paths [p]) :
    p.place.Precedes q.place := by
  obtain ⟨r, hr, w, -, hread⟩ := paths_reads program [p] q hq
  rw [List.mem_singleton.mp hr] at hread
  exact ⟨_, hread.place⟩

variable {P : Cursor → Bool}

/-- The first path of a choice to a place of which something holds. Paths from one place that come
to the same offset come to the same place, so none is dropped that would be the first. -/
theorem find?_paths_alt (a b : Program) :
    ((Program.alt a b).paths [p]).find? (P ·.place) =
      ((a.paths [p]).find? (P ·.place)).or ((b.paths [p]).find? (P ·.place)) := by
  have hpaths : (Program.alt a b).paths [p] = Path.distinct (a.paths [p] ++ b.paths [p]) := by
    rw [paths, List.flatMap_cons, List.flatMap_nil, List.append_nil]
  have hprecedes : ∀ q ∈ a.paths [p] ++ b.paths [p], p.place.Precedes q.place := by
    intro q hq
    exact (List.mem_append.mp hq).elim precedes_of_paths precedes_of_paths
  rw [hpaths, Path.find?_distinct, List.find?_append]
  intro q hq q' hq' hpos
  obtain ⟨t, ht⟩ := hprecedes q hq
  obtain ⟨t', ht'⟩ := hprecedes q' hq'
  rw [(ht.eq_of_pos ht' hpos).2]

/-- The first path along one of the texts to a place of which something holds. -/
def firstAlong (P : Cursor → Bool) (ts : List Text) (p : Path) : Option Path :=
  (ts.filterMap (Path.along? · p)).find? (P ·.place)

theorem firstAlong_cons (t : Text) (ts : List Text) :
    firstAlong P (t :: ts) p = (([p].filterMap (Path.along? t)).find? (P ·.place)).or
      (firstAlong P ts p) := by
  unfold firstAlong
  cases h : Path.along? t p with
  | none => simp [h]
  | some q => 
    simp only [List.filterMap_cons, h, List.filterMap_nil, List.find?_cons, List.find?_nil]
    cases P q.place <;> rfl

theorem find?_paths_choose (h : ts ≠ []) (id : Nat) :
    ((compile (choose (ts.map literal)) false id).1.paths [p]).find? (P ·.place)
      = firstAlong P ts p := by
  induction ts generalizing id with
  | nil => exact absurd rfl h
  | cons t ts ih =>
    cases ts with
    | nil =>
      show ((compile (literal t) false id).1.paths [p]).find? _ = _
      rw [paths_literal, firstAlong_cons]
      exact Option.or_none.symm
    | cons u ts =>
      show ((Program.alt (compile (literal t) false (id + 1)).1
        (compile (choose ((u :: ts).map literal)) false _).1).paths [p]).find? _ = _
      rw [find?_paths_alt, paths_literal, ih (List.cons_ne_nil u ts), ← firstAlong_cons]

theorem find?_advanceIf_or (test test' : Char → Bool) :
    (([p].filterMap (Path.advanceIf? test)).find? (P ·.place)).or
        (([p].filterMap (Path.advanceIf? test')).find? (P ·.place))
      = ([p].filterMap (Path.advanceIf? fun c => test c || test' c)).find? (P ·.place) := by
  cases hrest : p.place.rest with
  | nil => simp [Path.advanceIf?, hrest]
  | cons c rest =>
    cases htest : test c <;> cases htest' : test' c <;> cases hP : P p.advance.place <;>
      simp [Path.advanceIf?, hrest, htest, htest', hP]

/-- A choice between characters, as texts and as a set. -/
theorem firstAlong_chars (cs : List Char) :
    firstAlong P (cs.map ([·])) p =
      ([p].filterMap (Path.advanceIf? (CharSet.unions (cs.map .singleton)).contains)).find?
        (P ·.place) := by
  induction cs with
  | nil =>
    have hnone : (CharSet.unions []).contains = fun _ => false := funext (contains_of_isEmpty rfl)
    rw [List.map_nil, List.map_nil, hnone]
    simp [firstAlong, Path.advanceIf?]
  | cons c cs ih =>
    have hunion : (CharSet.unions ((c :: cs).map .singleton)).contains =
        fun d => d == c || (CharSet.unions (cs.map .singleton)).contains d := by
      funext d
      rw [Bool.eq_iff_iff, CharSet.contains_unions, Bool.or_eq_true, CharSet.contains_unions,
        List.map_cons, List.exists_mem_cons_iff, CharSet.contains_singleton, beq_iff_eq]
    rw [List.map_cons, firstAlong_cons, ih, along?_char, find?_advanceIf_or, hunion]

/-- The first path of a choice between texts to a place of which something holds goes along the
first text that leads to one. -/
theorem find?_paths_texts (h : ts ≠ []) :
    ((ofExpr (alternation (ts.map literal))).paths [p]).find? (P ·.place) = firstAlong P ts p := by
  rcases alternation_literal h with heq | ⟨cs, rfl, heq⟩
  · rw [heq]
    exact find?_paths_choose h 0
  · rw [heq, ofExpr, paths_charSet, firstAlong_chars]

theorem first?_texts (h : ts ≠ []) (place : Cursor) :
    (ofExpr (alternation (ts.map literal))).first? place
      = firstAlong (fun _ => true) ts (Path.start place) := by
  rw [first?, ← find?_paths_texts h, ← List.head?_filter, List.filter_true]

theorem paths_append_look {e : Expr} (h : isSeq e = false) (l : Look) (ps : List Path) :
    (ofExpr (concat [e, .look l])).paths ps = ((ofExpr e).paths ps).filter (l.holds ·.place) := by
  cases e <;> first | rfl | cases h

/-- With an assertion behind the choice. -/
theorem first?_texts_look (h : ts ≠ []) (l : Look) (place : Cursor) :
    (ofExpr (concat [alternation (ts.map literal), .look l])).first? place
      = firstAlong l.holds ts (Path.start place) := by
  rw [first?, paths_append_look (isSeq_alternation_literal h), List.head?_filter,
    find?_paths_texts h]

/-! ## Texts that lead to a place -/

theorem along?_iff {d : Cursor} :
    (∃ q, p.along? t = some q ∧ q.place = d) ↔ p.place.Passes t d := by
  constructor
  · rintro ⟨q, hq, rfl⟩
    have hread := Path.reads_along? hq
    simpa [Event.text_chars] using hread.place
  · intro h
    induction t generalizing p with
    | nil => exact ⟨p, rfl, h.eq_of_nil.symm⟩
    | cons c t ih =>
      have hrest : p.place.rest = c :: (t ++ d.rest) := h.rest
      have hfirst : p.advanceIf? (· == c) = some p.advance := by simp [Path.advanceIf?, hrest]
      obtain ⟨mid, hmid, hd⟩ := Passes.halve (t := [c]) h
      have hnext : p.advance.place = mid := (passes_next hrest).unique hmid
      obtain ⟨q, hq, hplace⟩ := ih (p := p.advance) (hnext ▸ hd)
      refine ⟨q, ?_, hplace⟩
      rw [Path.along?, hfirst]
      exact hq

theorem firstAlong_eq_none :
    firstAlong P ts p = none ↔ ∀ t ∈ ts, ∀ d, p.place.Passes t d → P d = false := by
  simp only [firstAlong, List.find?_eq_none, List.mem_filterMap, Bool.not_eq_true]
  constructor
  · intro h t ht d hd
    obtain ⟨q, hq, rfl⟩ := along?_iff.mpr hd
    exact h q ⟨t, ht, hq⟩
  · rintro h q ⟨t, ht, hq⟩
    exact h t ht q.place (along?_iff.mp ⟨q, hq, rfl⟩)

/-- The texts in front of the one along which the path goes lead to no place of which it holds. -/
theorem firstAlong_eq_some {q : Path} (h : firstAlong P ts p = some q) :
    ∃ front t back, ts = front ++ t :: back ∧ p.place.Passes t q.place ∧ P q.place = true ∧
      ∀ u ∈ front, ∀ d, p.place.Passes u d → P d = false := by
  induction ts with
  | nil => cases h
  | cons t ts ih =>
    rw [firstAlong_cons, Option.or_eq_some_iff] at h
    rcases h with h | ⟨hnone, h⟩
    · have hmem := List.mem_of_find?_eq_some h
      obtain ⟨r, hr, hq⟩ := List.mem_filterMap.mp hmem
      rw [List.mem_singleton.mp hr] at hq
      have hP : P q.place = true := List.find?_some (p := fun q : Path => P q.place) h
      exact ⟨[], t, ts, rfl, along?_iff.mp ⟨q, hq, rfl⟩, hP, by simp⟩
    · obtain ⟨front, u, back, rfl, hpass, hP, hfront⟩ := ih h
      have ht : firstAlong P [t] p = none := by
        rw [firstAlong_cons, hnone]
        rfl
      have hall := firstAlong_eq_none.mp ht t (List.mem_singleton_self t)
      exact ⟨t :: front, u, back, rfl, hpass, hP, List.forall_mem_cons.mpr ⟨hall, hfront⟩⟩

end Program

end TableLexer.Regex
