import Mathlib.Data.List.DropRight
import TableLexer.Proofs.Grammar.Reorder

/-!
# What a grammar inherits

A grammar is put together by a row of operations, and each derivation in the row begins a
new generation. What a generation says of a state counts from the last time it says
something. It may take in what the generation before it had in the end, but nothing that it
has said itself and then said anew.

Results:
1. `inherits_iff`: what becomes of the entries that ask for inherited ones.
2. `stateNames_composed`: states are in the order in which they were first defined.
3. `entries?_composed`: what a state holds is what its generation said last of it, or what the
   one before it had.
4. `composed_inherits`: all of it.
-/

namespace TableLexer

namespace Grammar

/-! ## Definitions -/

/-- An operation that makes a grammar out of another one. -/
inductive Operation where
  | derive (name : String)
  | withFlags (flags : PatternFlags)
  | withFragment (name pattern : Text)
  | withResetOnNewline (on : Bool)
  | state (name : String) (entries : List Entry)

namespace Operation

def apply : Operation → Grammar → Grammar
  | .derive name, g => g.derive name
  | .withFlags flags, g => g.withFlags flags
  | .withFragment name pattern, g => g.withFragment name pattern
  | .withResetOnNewline on, g => g.withResetOnNewline on
  | .state name entries, g => g.state name entries

def isDerive : Operation → Bool
  | .derive _ => true
  | _ => false

/-- The state that the operation defines, with its entries as they are written. -/
def definition? : Operation → Option (String × List Entry)
  | .state name entries => some (name, entries)
  | _ => none

end Operation

/-- The grammar that a row of operations makes out of the one without states. -/
def composed (name : String) (ops : List Operation) : Grammar :=
  ops.foldl (fun g op => op.apply g) (.new name)

/-- The operations since the last derivation. -/
def ownPart (ops : List Operation) : List Operation := ops.rtakeWhile (!·.isDerive)

/-- The operations up to the last derivation, none if there is no derivation. -/
def parentPart (ops : List Operation) : List Operation := (ops.rdropWhile (!·.isDerive)).dropLast

/-- All definitions of states, in order. -/
def definitions (ops : List Operation) : List (String × List Entry) :=
  ops.filterMap Operation.definition?

/-- The entries with which a state is defined for the last time. -/
def lastDefinition? (ops : List Operation) (name : String) : Option (List Entry) :=
  (definitions ops).reverse.lookup name

/-- What becomes of the entries of a state that the parent has with the entries `parent`. -/
inductive Inherits (parent : List Entry) : (written entries : List Entry) → Prop
  /-- No entry asks for inherited ones. -/
  | kept {written : List Entry} (h : Entry.inherit ∉ written) : Inherits parent written written
  /-- The first entry that does is replaced by those of the parent, and other ones are left
  out. -/
  | filled {front back : List Entry} (h : Entry.inherit ∉ front) :
      Inherits parent (front ++ .inherit :: back)
        (front ++ parent ++ back.filter (· ≠ .inherit))

/-! ## Entries that are inherited -/

variable {parent written entries front back : List Entry}

theorem inheritEntries_append (h : Entry.inherit ∉ front) :
    inheritEntries parent (front ++ back) = front ++ inheritEntries parent back := by
  induction front with
  | nil => rfl
  | cons e front ih =>
    obtain ⟨hne, hfront⟩ := List.ne_and_not_mem_of_not_mem_cons h
    rw [List.cons_append, inheritEntries, ih hfront, List.cons_append]
    exact fun he => hne he.symm

theorem inheritEntries_nil (written : List Entry) :
    inheritEntries [] written = written.filter (· ≠ .inherit) := by
  induction written with
  | nil => rfl
  | cons e written ih =>
    by_cases he : e = .inherit
    · subst he
      simp [inheritEntries, ih]
    · simp [inheritEntries, ih, he]

/-- What is inherited is determined by what is written and what the parent has. -/
theorem inherits_iff : Inherits parent written entries ↔ entries = inheritEntries parent written := by
  constructor
  · rintro (h | h)
    · have hall : inheritEntries parent (written ++ []) = written ++ inheritEntries parent [] :=
        inheritEntries_append h
      simpa [inheritEntries] using hall.symm
    · rw [inheritEntries_append h, inheritEntries, inheritEntries_nil, List.append_assoc]
  · rintro rfl
    by_cases h : Entry.inherit ∈ written
    · obtain ⟨front, back, rfl, hfront⟩ := List.eq_append_cons_of_mem h
      rw [inheritEntries_append hfront, inheritEntries, inheritEntries_nil, ← List.append_assoc]
      exact .filled hfront
    · have hall : inheritEntries parent (written ++ []) = written ++ inheritEntries parent [] :=
        inheritEntries_append h
      rw [List.append_nil, inheritEntries, List.append_nil] at hall
      rw [hall]
      exact .kept h

/-! ## Rows of operations -/

variable {ops : List Operation} {op : Operation} {name state : String}

theorem composed_snoc : composed name (ops ++ [op]) = op.apply (composed name ops) := by
  simp [composed]

theorem ownPart_snoc (h : op.isDerive = false) : ownPart (ops ++ [op]) = ownPart ops ++ [op] :=
  List.rtakeWhile_concat_pos _ _ _ (by simp [h])

theorem ownPart_derive (derived : String) : ownPart (ops ++ [.derive derived]) = [] :=
  List.rtakeWhile_concat_neg _ _ _ (by simp [Operation.isDerive])

theorem parentPart_snoc (h : op.isDerive = false) : parentPart (ops ++ [op]) = parentPart ops := by
  rw [parentPart, List.rdropWhile_concat_pos _ _ _ (by simp [h]), parentPart]

theorem parentPart_derive (derived : String) : parentPart (ops ++ [.derive derived]) = ops := by
  rw [parentPart, List.rdropWhile_concat_neg _ _ _ (by simp [Operation.isDerive]),
    List.dropLast_concat]

theorem definitions_snoc : definitions (ops ++ [op]) = definitions ops ++ op.definition?.toList := by
  cases h : op.definition? with
  | none => simp [definitions, h]
  | some definition => simp [definitions, h]

theorem lastDefinition?_state :
    lastDefinition? (ops ++ [.state name written]) state
      = if state = name then some written else lastDefinition? ops state := by
  rw [lastDefinition?, definitions_snoc, Operation.definition?, Option.toList_some,
    List.reverse_append, List.reverse_singleton, List.singleton_append, List.lookup_cons,
    lastDefinition?]
  by_cases h : state = name
  · simp [h]
  · rw [if_neg h, beq_false_of_ne h]

theorem lastDefinition?_other (h : op.definition? = none) :
    lastDefinition? (ops ++ [op]) state = lastDefinition? ops state := by
  rw [lastDefinition?, definitions_snoc, h, Option.toList_none, List.append_nil, lastDefinition?]

/-- What a row of operations makes is put together from the empty grammar. -/
theorem written_composed (name : String) (ops : List Operation) : Written (composed name ops) := by
  induction ops using List.reverseRecOn with
  | nil => exact .new name
  | append_singleton ops op ih =>
    rw [composed_snoc]
    cases op with
    | derive derived => exact ih.derive derived
    | withFlags flags => exact ih.withFlags flags
    | withFragment key pattern => exact ih.withFragment key pattern
    | withResetOnNewline on => exact ih.withResetOnNewline on
    | state state written => exact ih.state state written

/-- The states to which a grammar may refer are those that its parent had in the end. -/
theorem inherited_composed (name : String) (ops : List Operation) :
    (composed name ops).inherited = (composed name (parentPart ops)).states := by
  induction ops using List.reverseRecOn with
  | nil => rfl
  | append_singleton ops op ih =>
    rw [composed_snoc]
    cases op with
    | derive derived =>
      rw [parentPart_derive]
      rfl
    | withFlags | withFragment | withResetOnNewline | state =>
      rw [parentPart_snoc rfl]
      exact ih

/-! ## Names -/

/-- Each state is listed where it was defined first. -/
theorem stateNames_composed (name : String) (ops : List Operation) :
    (composed name ops).stateNames = ((definitions ops).map Prod.fst).eraseDups := by
  induction ops using List.reverseRecOn with
  | nil => rfl
  | append_singleton ops op ih =>
    rw [composed_snoc, definitions_snoc, List.map_append, List.eraseDups_append, ← ih]
    cases op with
    | state state written =>
      have hmem : state ∈ (composed name ops).stateNames ↔
          state ∈ (definitions ops).map Prod.fst := by
        rw [ih, List.mem_eraseDups]
      have hnames : ((composed name ops).state state written).stateNames =
          if state ∈ (composed name ops).stateNames then (composed name ops).stateNames
          else (composed name ops).stateNames ++ [state] :=
        map_fst_replaceIn state _ _
      rw [Operation.apply, hnames]
      by_cases h : state ∈ (definitions ops).map Prod.fst
      · rw [if_pos (hmem.mpr h)]
        simp [Operation.definition?, List.removeAll, h]
      · rw [if_neg (mt hmem.mp h)]
        simp [Operation.definition?, List.removeAll, List.eraseDups_cons, h]
    | derive | withFlags | withFragment | withResetOnNewline =>
      exact (List.append_nil _).symm

/-- A grammar goes on where its parent has ended. -/
theorem stateNames_parent (name : String) (ops : List Operation) :
    (composed name (parentPart ops)).stateNames <+: (composed name ops).stateNames := by
  have hpart : parentPart ops <+: ops :=
    (List.dropLast_prefix _).trans (List.rdropWhile_prefix _ ops)
  obtain ⟨rest, hrest⟩ := hpart
  have hnames : (definitions ops).map Prod.fst
      = (definitions (parentPart ops)).map Prod.fst ++ (definitions rest).map Prod.fst := by
    rw [← List.map_append, definitions, definitions, definitions, ← List.filterMap_append, hrest]
  rw [stateNames_composed, stateNames_composed, hnames, List.eraseDups_append]
  exact List.prefix_append _ _

/-! ## Entries -/

theorem lookup_replaceIn (states : List (String × List Entry)) :
    (replaceIn name entries states).lookup state
      = if state = name then some entries else states.lookup state := by
  induction states with
  | nil =>
    rw [replaceIn, List.lookup_cons]
    by_cases h : state = name
    · simp [h]
    · rw [if_neg h, beq_false_of_ne h]
  | cons first states ih =>
    obtain ⟨key, value⟩ := first
    rw [replaceIn]
    by_cases hkey : key = name
    · subst hkey
      rw [if_pos rfl, List.lookup_cons, List.lookup_cons]
      by_cases h : state = key
      · simp [h]
      · rw [if_neg h, beq_false_of_ne h]
    · rw [if_neg hkey, List.lookup_cons, ih, List.lookup_cons]
      by_cases h : state = key
      · simp [h, hkey]
      · rw [beq_false_of_ne h]

theorem entries?_state (g : Grammar) (written : List Entry) :
    (g.state name written).entries? state
      = if state = name then some (inheritEntries ((g.inherited.lookup name).getD []) written)
        else g.entries? state :=
  lookup_replaceIn g.states

/-- A state holds what its generation said of it for the last time, or what the parent had. -/
theorem entries?_composed (name : String) (ops : List Operation) (state : String) :
    (composed name ops).entries? state =
      match lastDefinition? (ownPart ops) state with
      | some written =>
          some (inheritEntries ((composed name (parentPart ops)).entriesOf state) written)
      | none => (composed name (parentPart ops)).entries? state := by
  induction ops using List.reverseRecOn with
  | nil => rfl
  | append_singleton ops op ih =>
    rw [composed_snoc]
    cases op with
    | derive derived =>
      rw [ownPart_derive, parentPart_derive]
      rfl
    | state key written =>
      rw [ownPart_snoc rfl, parentPart_snoc rfl, lastDefinition?_state, Operation.apply,
        entries?_state, inherited_composed]
      by_cases h : state = key
      · simp [h, entriesOf, entries?]
      · rw [if_neg h, if_neg h, ih]
    | withFlags | withFragment | withResetOnNewline =>
      rw [ownPart_snoc rfl, parentPart_snoc rfl, lastDefinition?_other rfl]
      exact ih

theorem mem_replaceIn {states : List (String × List Entry)} {s : String × List Entry}
    (h : s ∈ replaceIn name entries states) : s = (name, entries) ∨ s ∈ states := by
  induction states with
  | nil => exact .inl (List.mem_singleton.mp h)
  | cons first states ih =>
    rw [replaceIn] at h
    split at h
    · exact (List.mem_cons.mp h).imp_right (List.mem_cons_of_mem _)
    · rcases List.mem_cons.mp h with rfl | h
      · exact .inr List.mem_cons_self
      · exact (ih h).imp_right (List.mem_cons_of_mem _)

/-- A state that has been defined asks for nothing any more. -/
theorem Written.not_inherit {g : Grammar} (h : g.Written) :
    (∀ s ∈ g.states, Entry.inherit ∉ s.2) ∧ ∀ s ∈ g.inherited, Entry.inherit ∉ s.2 := by
  induction h with
  | new name => exact ⟨List.forall_mem_nil _, List.forall_mem_nil _⟩
  | derive _ _ ih => exact ⟨ih.1, ih.1⟩
  | withFlags _ _ ih => exact ih
  | withFragment _ _ _ ih => exact ih
  | withResetOnNewline _ _ ih => exact ih
  | @state g _ name written ih =>
    have hparent : Entry.inherit ∉ (g.inherited.lookup name).getD [] := by
      cases hlookup : g.inherited.lookup name with
      | none => exact List.not_mem_nil
      | some parent =>
        obtain ⟨before, after, hmem, -⟩ := List.lookup_eq_some_iff.mp hlookup
        exact ih.2 (name, parent) (by simp [hmem])
    refine ⟨fun s hs => ?_, ih.2⟩
    rcases mem_replaceIn hs with rfl | hs
    · exact inheritEntries_no_inherit hparent written
    · exact ih.1 s hs

/-- The law of inheritance, for every row of operations. States have distinct names and are
listed in the order of their first definition, those of the parent first. None asks for
inherited entries any more. Each holds what it was defined with for the last time since the
derivation, with the entries of the parent, as that one had them in the end, in the place of
the first entry that asks for them, and otherwise what the parent had. So two definitions of
one state, one after the other, both take in the entries of the parent. -/
theorem composed_inherits (name : String) (ops : List Operation) :
    (composed name ops).stateNames.Nodup ∧
    (composed name ops).stateNames = ((definitions ops).map Prod.fst).eraseDups ∧
    (composed name (parentPart ops)).stateNames <+: (composed name ops).stateNames ∧
    (∀ s ∈ (composed name ops).states, Entry.inherit ∉ s.2) ∧
    (∀ state,
      (∀ written, lastDefinition? (ownPart ops) state = some written →
        ∃ entries, (composed name ops).entries? state = some entries ∧
          Inherits ((composed name (parentPart ops)).entriesOf state) written entries) ∧
      (lastDefinition? (ownPart ops) state = none →
        (composed name ops).entries? state = (composed name (parentPart ops)).entries? state)) ∧
    ∀ state first second, ∃ entries entries',
      ((composed name ops).state state first).entries? state = some entries ∧
      Inherits ((composed name (parentPart ops)).entriesOf state) first entries ∧
      (((composed name ops).state state first).state state second).entries? state
        = some entries' ∧
      Inherits ((composed name (parentPart ops)).entriesOf state) second entries' := by
  have hwritten := written_composed name ops
  refine ⟨hwritten.nodup, stateNames_composed name ops, stateNames_parent name ops,
    hwritten.not_inherit.1, fun state => ⟨fun written hlast => ?_, fun hlast => ?_⟩,
    fun state first second => ?_⟩
  · rw [entries?_composed, hlast]
    exact ⟨_, rfl, inherits_iff.mpr rfl⟩
  · rw [entries?_composed, hlast]
  · have hdefined (g : Grammar) (hg : g.inherited = (composed name (parentPart ops)).states)
        (written : List Entry) : (g.state state written).entries? state = some
          (inheritEntries ((composed name (parentPart ops)).entriesOf state) written) := by
      rw [entries?_state, if_pos rfl, hg]
      rfl
    have hinherited := inherited_composed name ops
    exact ⟨_, _, hdefined _ hinherited first, inherits_iff.mpr rfl,
      hdefined ((composed name ops).state state first) hinherited second, inherits_iff.mpr rfl⟩

/-- Three generations. The second one defines a state twice, and the third one takes in what
came of that. -/
def generations : List Operation := [
  .state "root" [.splice "text"], .state "text" [],
  .derive "child", .state "root" [.splice "mark", .inherit],
  .state "root" [.inherit, .splice "blank"],
  .derive "grandchild", .state "blank" [.inherit],
  .state "root" [.inherit, .splice "mark", .inherit]]

theorem composed_inherits_generations :
    (∀ s ∈ (composed "parent" generations).states, Entry.inherit ∉ s.2) ∧
    lastDefinition? (ownPart generations) "root" = some [.inherit, .splice "mark", .inherit] ∧
    (∃ entries, (composed "parent" generations).entries? "root" = some entries ∧
      Inherits [.splice "text", .splice "blank"] [.inherit, .splice "mark", .inherit] entries) ∧
    lastDefinition? (ownPart generations) "text" = none ∧
    (composed "parent" generations).entries? "text"
      = (composed "parent" (parentPart generations)).entries? "text" := by
  obtain ⟨-, -, -, hstates, hentries, -⟩ := composed_inherits "parent" generations
  have hroot : lastDefinition? (ownPart generations) "root"
      = some [.inherit, .splice "mark", .inherit] := by decide
  have htext : lastDefinition? (ownPart generations) "text" = none := by decide
  have hparent : (composed "parent" (parentPart generations)).entriesOf "root"
      = [.splice "text", .splice "blank"] := by decide
  obtain ⟨entries, hsome, hinherits⟩ := (hentries "root").1 _ hroot
  rw [hparent] at hinherits
  exact ⟨hstates, hroot, ⟨entries, hsome, hinherits⟩, htext, (hentries "text").2 htext⟩

end Grammar

end TableLexer
