import Mathlib.Data.List.Dedup
import TableLexer.Proofs.Pattern.Pool

/-!
# Compiling pattern after pattern

A pool is asked for one pattern after the other, and some of the requests fail, when the
references are replaced or when the expansion is read. Here a request is an operation on the pool
that could leave something behind before it fails. It leaves nothing, so the pool holds one matcher
for each expansion of a request that has been met, and nothing else.

Results:
1. `call_eq`: a request that fails leaves the pool as it is.
2. `Holds.call`, `Holds.calls`: what a pool holds after one request, and after many.
3. `calls_lawful`: what is returned, what is shared, what fails, and how many matchers there are.
-/

namespace TableLexer.Pool

variable {flags : PatternFlags} {fragments : Fragments} {p q : Pool} {text : Text} {m : Matcher}
  {found : Pooled} {e : PatternError} {made : List (Text × Except PatternError Pooled)}

/-! ## Definitions -/

/-- A request for the matcher of a pattern, step by step on the pool. -/
def request (text : Text) : ExceptT PatternError (StateM Pool) Pooled := do
  let p ← get
  let expanded ← liftM (p.fragments.expand text)
  match find? expanded 0 p.matchers with
  | some found => return found
  | none =>
      let matcher ← liftM (Matcher.compile expanded p.flags)
      set { p with matchers := p.matchers ++ [matcher] }
      return ⟨p.count, matcher⟩

/-- What a request gives, and the pool after it. -/
def call (p : Pool) (text : Text) : Except PatternError Pooled × Pool := (request text).run.run p

/-- The requests for the patterns one after the other, with what each of them gives, and the pool
after the last. -/
def calls (p : Pool) : List Text → List (Text × Except PatternError Pooled) × Pool
  | [] => ([], p)
  | text :: rest =>
      let first := p.call text
      let others := first.2.calls rest
      ((text, first.1) :: others.1, others.2)

/-- The expansions of the requests that have been met, in their order. -/
def expansions (fragments : Fragments) (made : List (Text × Except PatternError Pooled)) :
    List Text :=
  made.filterMap fun c => c.2.toOption.bind fun _ => (fragments.expand c.1).toOption

/-- The pool holds the matchers of the requests that have been met: each is found again, there is
no other, and none is there twice. -/
structure Holds (flags : PatternFlags) (fragments : Fragments)
    (made : List (Text × Except PatternError Pooled)) (p : Pool) : Prop where
  sound : p.Sound flags fragments
  again : ∀ text found, (text, .ok found) ∈ made → p.compile text = .ok (found, p)
  asked : ∀ m ∈ p.matchers, ∃ text found, (text, .ok found) ∈ made ∧ found.matcher = m
  distinct : (p.matchers.map Matcher.pattern).Nodup

/-! ## One request -/

theorem run_get_bind {α : Type} (f : Pool → ExceptT PatternError (StateM Pool) α) (p : Pool) :
    (get >>= f).run.run p = (f p).run.run p := rfl

theorem run_lift_bind {α β : Type} (x : Except PatternError α)
    (f : α → ExceptT PatternError (StateM Pool) β) (p : Pool) :
    ((liftM x : ExceptT PatternError (StateM Pool) α) >>= f).run.run p =
      match x with
      | .ok a => (f a).run.run p
      | .error e => (.error e, p) := by
  cases x <;> rfl

/-- A request is met with what is compiled, and if that fails the pool is not changed. -/
theorem call_eq (p : Pool) (text : Text) :
    p.call text =
      match p.compile text with
      | .ok (found, q) => (.ok found, q)
      | .error e => (.error e, p) := by
  rw [call, request, run_get_bind, run_lift_bind, compile]
  cases p.fragments.expand text with
  | error e => rfl
  | ok expanded =>
    dsimp only [bind, Except.bind]
    cases find? expanded 0 p.matchers with
    | some found => rfl
    | none =>
      dsimp only
      cases Matcher.compile expanded p.flags with
      | error e => rfl
      | ok m => rfl

theorem call_of_ok (h : p.compile text = .ok (found, q)) : p.call text = (.ok found, q) := by
  rw [call_eq, h]

theorem call_of_error (h : p.compile text = .error e) : p.call text = (.error e, p) := by
  rw [call_eq, h]

theorem find?_eq_none_iff {expanded : Text} {slot : Nat} {ms : List Matcher} :
    find? expanded slot ms = none ↔ expanded ∉ ms.map Matcher.pattern := by
  induction ms generalizing slot with
  | nil => exact ⟨fun _ => List.not_mem_nil, fun _ => rfl⟩
  | cons m ms ih =>
    rw [find?, List.map_cons, List.mem_cons, not_or]
    split
    · next h => exact iff_of_false (Option.some_ne_none _) fun hne => hne.1 h.symm
    · next h => exact ih.trans ⟨fun hms => ⟨Ne.symm h, hms⟩, And.right⟩

/-! ## What a pool holds -/

theorem Holds.new (flags : PatternFlags) (fragments : Fragments) :
    (new flags fragments).Holds flags fragments [] where
  sound := Arises.new.sound
  again _ _ h := absurd h List.not_mem_nil
  asked _ h := absurd h List.not_mem_nil
  distinct := List.nodup_nil

theorem Holds.failed (h : p.Holds flags fragments made) (text : Text) (e : PatternError) :
    p.Holds flags fragments (made ++ [(text, .error e)]) := by
  have hmet {t : Text} {f : Pooled} :
      (t, .ok f) ∈ made ++ [(text, .error e)] ↔ (t, .ok f) ∈ made := by simp
  refine ⟨h.sound, fun t f hf => h.again t f (hmet.mp hf), fun m hm => ?_, h.distinct⟩
  obtain ⟨t, f, hf, hfm⟩ := h.asked m hm
  exact ⟨t, f, hmet.mpr hf, hfm⟩

/-- A call that compiles a text: its expansion has been met before, or no matcher in the pool has
it. -/
theorem Holds.met (h : p.Holds flags fragments made) (hc : p.compile text = .ok (found, q)) :
    q.Holds flags fragments (made ++ [(text, .ok found)]) := by
  have hold {m : Matcher} (hm : m ∈ p.matchers) :
      ∃ t f, (t, .ok f) ∈ made ++ [(text, .ok found)] ∧ f.matcher = m := by
    obtain ⟨t, f, hf, hfm⟩ := h.asked m hm
    exact ⟨t, f, List.mem_append_left _ hf, hfm⟩
  have hagain (t : Text) (f : Pooled) (hf : (t, .ok f) ∈ made ++ [(text, .ok found)]) :
      q.compile t = .ok (f, q) := by
    rcases List.mem_append.mp hf with hf | hf
    · exact compile_again (h.again t f hf) (compile_grows hc)
    · cases List.mem_singleton.mp hf
      exact compile_again hc (.refl q)
  obtain ⟨expanded, -, ⟨-, rfl⟩ | ⟨hnone, m, hm, rfl, rfl⟩⟩ := compile_eq_ok_iff.mp hc
  · exact ⟨h.sound, hagain, fun m hm => hold hm, h.distinct⟩
  · refine ⟨h.sound.kept hc, hagain, fun m' hm' => ?_, ?_⟩
    · rcases List.mem_append.mp hm' with hm' | hm'
      · exact hold hm'
      · exact ⟨text, _, List.mem_append_right _ (.head _), (List.mem_singleton.mp hm').symm⟩
    · rw [List.map_append, List.map_singleton, pattern_of_compile hm, ← List.concat_eq_append]
      exact h.distinct.concat (find?_eq_none_iff.mp hnone)

theorem Holds.call (h : p.Holds flags fragments made) (text : Text) :
    (p.call text).2.Holds flags fragments (made ++ [(text, (p.call text).1)]) := by
  cases hc : p.compile text with
  | error e =>
    rw [call_of_error hc]
    exact h.failed text e
  | ok r =>
    obtain ⟨found, q⟩ := r
    rw [call_of_ok hc]
    exact h.met hc

theorem Holds.calls (h : p.Holds flags fragments made) (texts : List Text) :
    (p.calls texts).2.Holds flags fragments (made ++ (p.calls texts).1) := by
  induction texts generalizing p made with
  | nil => exact (List.append_nil made).symm ▸ h
  | cons text rest ih =>
    have hrest := ih (h.call text)
    rwa [List.append_assoc] at hrest

theorem holds_calls (flags : PatternFlags) (fragments : Fragments) (texts : List Text) :
    ((new flags fragments).calls texts).2.Holds flags fragments
      ((new flags fragments).calls texts).1 :=
  (Holds.new flags fragments).calls texts

theorem map_fst_calls (p : Pool) (texts : List Text) : (p.calls texts).1.map Prod.fst = texts := by
  induction texts generalizing p with
  | nil => rfl
  | cons text rest ih => exact congrArg (text :: ·) (ih _)

/-! ## After many requests -/

theorem Holds.expand (h : p.Holds flags fragments made) (hf : (text, .ok found) ∈ made) :
    fragments.expand text = .ok found.matcher.pattern :=
  h.sound.sameFragments ▸ compile_pattern (h.again text found hf)

theorem Holds.slot_eq_iff (h : p.Holds flags fragments made) {text' : Text} {found' : Pooled}
    (hf : (text, .ok found) ∈ made) (hf' : (text', .ok found') ∈ made) :
    found.slot = found'.slot ↔ fragments.expand text = fragments.expand text' := by
  rw [Pool.slot_eq_iff (h.again _ _ hf) (h.again _ _ hf'), h.expand hf, h.expand hf',
    Except.ok.injEq]

theorem Holds.mem_expansions_iff (h : p.Holds flags fragments made) {expanded : Text} :
    expanded ∈ expansions fragments made ↔ expanded ∈ p.matchers.map Matcher.pattern := by
  simp only [expansions, List.mem_filterMap, Option.bind_eq_some_iff, toOption_eq_some_iff,
    List.mem_map]
  constructor
  · rintro ⟨⟨text, result⟩, hc, found, rfl, hexpand⟩
    refine ⟨found.matcher, List.mem_of_getElem? (compile_slot (h.again text found hc)), ?_⟩
    exact Except.ok.inj ((h.expand hc).symm.trans hexpand)
  · rintro ⟨m, hm, rfl⟩
    obtain ⟨text, found, hf, rfl⟩ := h.asked m hm
    exact ⟨(text, .ok found), hf, found, rfl, h.expand hf⟩

theorem Holds.count_eq (h : p.Holds flags fragments made) :
    p.count = (expansions fragments made).dedup.length := by
  have hperm : List.Perm (p.matchers.map Matcher.pattern) (expansions fragments made).dedup :=
    (List.perm_ext_iff_of_nodup h.distinct (List.nodup_dedup _)).mpr fun expanded => by
      rw [List.mem_dedup, h.mem_expansions_iff]
  rw [← hperm.length_eq, List.length_map, count]

theorem Holds.call_error (h : p.Holds flags fragments made) (he : (p.call text).1 = .error e) :
    (p.call text).2 = p ∧ ∀ more, (p.calls more).2.call text = (.error e, (p.calls more).2) := by
  cases hc : p.compile text with
  | ok r =>
    rw [call_of_ok hc] at he
    cases he
  | error e' =>
    rw [call_of_error hc] at he ⊢
    cases he
    refine ⟨rfl, fun more => call_of_error ?_⟩
    exact (h.calls more).sound.compile_eq_error_iff.mpr (h.sound.compile_eq_error_iff.mp hc)

/-- After any requests: a matcher that was returned is that of the expansion, with the flags of the
pool; two were returned from one slot exactly if the expansions are the same; a request that fails
changes nothing, and fails alike after any further requests; and there are as many matchers as
there are different expansions among the requests that have been met. -/
theorem calls_lawful (flags : PatternFlags) (fragments : Fragments) (texts : List Text) :
    let made := ((new flags fragments).calls texts).1
    let p := ((new flags fragments).calls texts).2
    made.map Prod.fst = texts ∧
    (∀ text found, (text, .ok found) ∈ made →
      fragments.expand text = .ok found.matcher.pattern ∧ found.matcher.flags = flags ∧
        p.matchers[found.slot]? = some found.matcher) ∧
    (∀ text text' found found', (text, .ok found) ∈ made → (text', .ok found') ∈ made →
      (found.slot = found'.slot ↔ fragments.expand text = fragments.expand text')) ∧
    (∀ text e, (p.call text).1 = .error e →
      (p.call text).2 = p ∧ ∀ more, (p.calls more).2.call text = (.error e, (p.calls more).2)) ∧
    p.count = (expansions fragments made).dedup.length := by
  have h := holds_calls flags fragments texts
  intro made p
  refine ⟨map_fst_calls _ texts, fun text found hf => ?_, fun _ _ _ _ hf hf' => h.slot_eq_iff hf hf',
    fun _ _ he => h.call_error he, h.count_eq⟩
  have hc := h.again text found hf
  obtain ⟨expanded, -, hm⟩ := bind_eq_ok_iff.mp (h.sound.alone_of_compile hc)
  exact ⟨h.expand hf, flags_of_compile hm, compile_slot hc⟩

/-- One of the requests is met from the pool, though its pattern has not been seen, and two of them
fail, one in each of the ways. -/
theorem calls_lawful_mixed :
    let fragments : Fragments := ⟨[("ab".toList, "[ab]".toList)]⟩
    let texts := ["\x7b:ab\x7d", "\x7b:nope\x7d", "(?:[ab])", "[", "c"].map String.toList
    let made := ((new .standard fragments).calls texts).1
    let p := ((new .standard fragments).calls texts).2
    made.map (·.2.toOption.map Pooled.slot) = [some 0, none, some 0, none, some 1] ∧
      (∀ more, (p.calls more).2.call "[".toList =
        (.error (.malformed "[".toList), (p.calls more).2)) ∧
      p.count = 2 := by
  intro fragments texts made p
  obtain ⟨-, -, -, hfails, hcount⟩ := calls_lawful .standard fragments texts
  exact ⟨by decide +kernel, (hfails "[".toList (.malformed "[".toList) (by decide +kernel)).2,
    hcount.trans (by decide +kernel)⟩

end TableLexer.Pool
