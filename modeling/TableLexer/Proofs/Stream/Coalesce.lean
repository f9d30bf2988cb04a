import TableLexer.Proofs.Stream.Rewrite
import TableLexer.Stream.Coalesce

/-!
# What coalescing joins

Tokens that hold slices of one text can be cut into rows of neighbours of one kind, and each
row be made into one token. There are many ways to do that. Coalescing takes the longest rows,
so whatever another way has joined, it has joined as well: coalescing what has been joined in
part gives the same tokens.

Results:
1. `coalesceFrom_merges`, `isChain_coalesceFrom`: each token of the result unites a row of
   tokens, and no two of them can be joined.
2. `Merges.coalesce_eq`: coalescing does not see what has been joined before.
3. `Merges.contents`, `Merges.bytes`: joining keeps the text and the kind of each byte.
4. `coalesce_coarsest`: all of it, for all tokens that hold slices of a text, as those of runs
   do.
-/

namespace TableLexer

/-! ## Definitions -/

namespace Token

/-- The token holds what the text has between its offsets. -/
def CutFrom (text : Text) (t : Token) : Prop := text.slice? t.start t.stop = some t.text

instance (text : Text) (t : Token) : Decidable (t.CutFrom text) := inferInstanceAs (Decidable (_ = _))

/-- The first token begins where the second one ends, and it has the same kind. -/
def Continues (t s : Token) : Prop := t.kind = s.kind ∧ t.start = s.stop

/-- The token with a text behind its own. -/
def extend (t : Token) (more : Text) : Token := { t with text := t.text ++ more }

/-- The token is the union of a row of tokens that lie end to end and have its kind. -/
structure Unites (row : List Token) (t : Token) : Prop where
  ne_nil : row ≠ []
  kind : ∀ s ∈ row, s.kind = t.kind
  endToEnd : EndToEnd t.start row
  contents : contents row = t.text

/-- The bytes of the tokens, in order, each with its offset and kind. -/
def bytes (tokens : List Token) : List (Nat × Kind) :=
  tokens.flatMap fun t => (List.range' t.start t.text.size).map (·, t.kind)

/-- Each token of the second list unites a row of the first one, and the rows make up that
list. -/
inductive Merges : (tokens merged : List Token) → Prop
  | nil : Merges [] []
  | cons {row tokens merged : List Token} {t : Token} (h : Unites row t)
      (hrest : Merges tokens merged) : Merges (row ++ tokens) (t :: merged)

end Token

open Token

variable {text : Text} {current t s : Token} {row rest tokens merged : List Token}

/-! ## Rows of slices -/

namespace Token

theorem stop_extend (t : Token) (more : Text) : (t.extend more).stop = t.stop + more.size := by
  simp [stop, extend, Text.size_append, Nat.add_assoc]

/-- A slice with the one that continues it is a slice. -/
theorem CutFrom.extend (hs : s.CutFrom text) (ht : t.CutFrom text) (h : t.Continues s) :
    (s.extend t.text).CutFrom text := by
  rw [CutFrom, stop_extend]
  refine Text.slice?_trans hs ?_
  rw [← h.2]
  exact ht

theorem Unites.single (t : Token) : Unites [t] t where
  ne_nil := List.cons_ne_nil _ _
  kind := by simp
  endToEnd := ⟨rfl, trivial⟩
  contents := List.append_nil _

/-- A row may be continued. -/
theorem Unites.snoc (h : Unites row s) (ht : t.Continues s) :
    Unites (row ++ [t]) (s.extend t.text) where
  ne_nil := by simp
  kind u hu := by
    rcases List.mem_append.mp hu with hu | hu
    · exact h.kind u hu
    · rw [List.mem_singleton.mp hu]
      exact ht.1
  endToEnd := by
    refine endToEnd_append.mpr ⟨h.endToEnd, ?_, trivial⟩
    rw [h.contents]
    exact ht.2
  contents := by
    rw [contents_append, h.contents]
    exact congrArg (s.text ++ ·) (List.append_nil _)

/-- The first token of a row begins where the row does, and the others continue it. -/
theorem Unites.eq_cons (h : Unites row t) :
    ∃ first others, row = first :: others ∧ first.kind = t.kind ∧ first.start = t.start ∧
      (∀ s ∈ others, s.kind = first.kind) ∧ EndToEnd first.stop others ∧
      first.extend (Token.contents others) = t := by
  obtain ⟨first, others, rfl⟩ := List.exists_cons_of_ne_nil h.ne_nil
  obtain ⟨hstart, hothers⟩ := h.endToEnd
  have hkind : first.kind = t.kind := h.kind first List.mem_cons_self
  refine ⟨first, others, rfl, hkind, hstart, fun s hs => ?_, hothers, ?_⟩
  · rw [h.kind s (List.mem_cons_of_mem _ hs), hkind]
  · have htext : first.text ++ Token.contents others = t.text := h.contents
    cases t
    simp_all [extend]

/-- The texts of slices that lie end to end are a slice. -/
theorem EndToEnd.slice? {start : Nat} (h : EndToEnd start row) (hne : row ≠ [])
    (hcut : ∀ s ∈ row, s.CutFrom text) :
    text.slice? start (start + (Token.contents row).size) = some (Token.contents row) := by
  induction row generalizing start with
  | nil => exact absurd rfl hne
  | cons s row ih =>
    obtain ⟨rfl, hrow⟩ := h
    have hs : text.slice? s.start s.stop = some s.text := hcut s List.mem_cons_self
    rw [contents_cons, Text.size_append, ← Nat.add_assoc]
    by_cases hnil : row = []
    · subst hnil
      simpa [Token.contents, stop] using hs
    · have hrest := ih hrow hnil fun u hu => hcut u (List.mem_cons_of_mem _ hu)
      exact Text.slice?_trans hs hrest

theorem Unites.cutFrom (h : Unites row t) (hcut : ∀ s ∈ row, s.CutFrom text) :
    t.CutFrom text := by
  have hslice := h.endToEnd.slice? h.ne_nil hcut
  rwa [h.contents] at hslice

theorem bytes_append (l m : List Token) : bytes (l ++ m) = bytes l ++ bytes m :=
  List.flatMap_append

/-- The bytes of tokens of one kind that lie end to end are those of one token. -/
theorem EndToEnd.bytes {start : Nat} {kind : Kind} (h : EndToEnd start row)
    (hkind : ∀ s ∈ row, s.kind = kind) :
    Token.bytes row = (List.range' start (Token.contents row).size).map (·, kind) := by
  induction row generalizing start with
  | nil => rfl
  | cons s row ih =>
    obtain ⟨rfl, hrow⟩ := h
    obtain ⟨rfl, hkind⟩ := List.forall_mem_cons.mp hkind
    have hbytes : Token.bytes (s :: row)
        = (List.range' s.start s.text.size).map (·, s.kind) ++ Token.bytes row := rfl
    rw [hbytes, ih hrow hkind, ← List.map_append, contents_cons, Text.size_append,
      ← List.range'_append_1]
    rfl

theorem Unites.bytes (h : Unites row t) : Token.bytes row = Token.bytes [t] := by
  rw [h.endToEnd.bytes h.kind, h.contents]
  exact (List.append_nil _).symm

namespace Merges

/-- Every token may stay by itself. -/
theorem refl (tokens : List Token) : Merges tokens tokens := by
  induction tokens with
  | nil => exact .nil
  | cons t tokens ih => exact .cons (.single t) ih

theorem cutFrom (h : Merges tokens merged) (hcut : ∀ s ∈ tokens, s.CutFrom text) :
    ∀ t ∈ merged, t.CutFrom text := by
  induction h with
  | nil => exact List.forall_mem_nil _
  | cons h _ ih =>
    obtain ⟨hrow, hrest⟩ := List.forall_mem_append.mp hcut
    exact List.forall_mem_cons.mpr ⟨h.cutFrom hrow, ih hrest⟩

theorem contents (h : Merges tokens merged) : contents merged = contents tokens := by
  induction h with
  | nil => rfl
  | cons h _ ih => rw [contents_cons, contents_append, ih, h.contents]

theorem bytes (h : Merges tokens merged) : bytes merged = bytes tokens := by
  induction h with
  | nil => rfl
  | @cons row tokens merged t h _ ih =>
    rw [← List.singleton_append, bytes_append, bytes_append, ih, h.bytes]

end Merges

end Token

/-! ## Coalescing -/

theorem coalesceFrom_continues (hcurrent : current.CutFrom text) (ht : t.CutFrom text)
    (h : t.Continues current) :
    coalesceFrom text current (t :: rest) = coalesceFrom text (current.extend t.text) rest := by
  have hjoined : text.slice? current.start t.stop = some (current.text ++ t.text) := by
    refine Text.slice?_trans hcurrent ?_
    rw [← h.2]
    exact ht
  rw [coalesceFrom, if_pos ⟨h.1, h.2⟩, hjoined]
  rfl

theorem coalesceFrom_apart (h : ¬ t.Continues current) :
    coalesceFrom text current (t :: rest) = current :: coalesceFrom text t rest := by
  rw [coalesceFrom, if_neg fun hcontinues => h ⟨hcontinues.1, hcontinues.2⟩]

/-- The row at which coalescing stands becomes longer or is given. -/
theorem coalesceFrom_merges (hrow : Unites row current) (hcurrent : current.CutFrom text)
    (hcut : ∀ s ∈ rest, s.CutFrom text) :
    Merges (row ++ rest) (coalesceFrom text current rest) := by
  induction rest generalizing row current with
  | nil => exact .cons hrow .nil
  | cons t rest ih =>
    obtain ⟨ht, hrest⟩ := List.forall_mem_cons.mp hcut
    by_cases h : t.Continues current
    · have hlonger := ih (hrow.snoc h) (hcurrent.extend ht h) hrest
      rw [coalesceFrom_continues hcurrent ht h]
      rwa [List.append_assoc, List.singleton_append] at hlonger
    · rw [coalesceFrom_apart h]
      exact .cons hrow (ih (.single t) ht hrest)

/-- Where coalescing stands is where the next token of the result begins. -/
theorem coalesceFrom_eq_cons (text : Text) (current : Token) (rest : List Token) :
    ∃ first others, coalesceFrom text current rest = first :: others ∧
      first.kind = current.kind ∧ first.start = current.start := by
  fun_induction coalesceFrom text current rest with
  | case1 current => exact ⟨current, [], rfl, rfl, rfl⟩
  | case2 current t rest h joined hjoined ih => exact ih
  | case3 current t rest h hjoined ih => exact ⟨current, _, rfl, rfl, rfl⟩
  | case4 current t rest h ih => exact ⟨current, _, rfl, rfl, rfl⟩

/-- No token of the result continues the one before it. -/
theorem isChain_coalesceFrom (hcurrent : current.CutFrom text)
    (hcut : ∀ s ∈ rest, s.CutFrom text) :
    (coalesceFrom text current rest).IsChain fun s t => ¬ t.Continues s := by
  induction rest generalizing current with
  | nil => exact .singleton _
  | cons t rest ih =>
    obtain ⟨ht, hrest⟩ := List.forall_mem_cons.mp hcut
    by_cases h : t.Continues current
    · rw [coalesceFrom_continues hcurrent ht h]
      exact ih (hcurrent.extend ht h) hrest
    · have hothers := ih ht hrest
      obtain ⟨first, others, heq, hkind, hstart⟩ := coalesceFrom_eq_cons text t rest
      rw [coalesceFrom_apart h, heq]
      rw [heq] at hothers
      refine .cons_cons (fun hfirst => h ?_) hothers
      exact ⟨hkind.symm.trans hfirst.1, hstart.symm.trans hfirst.2⟩

/-- Coalescing goes through a row that continues where it stands. -/
theorem coalesceFrom_append (hcurrent : current.CutFrom text) (hcut : ∀ s ∈ row, s.CutFrom text)
    (hkind : ∀ s ∈ row, s.kind = current.kind) (hrow : EndToEnd current.stop row) :
    coalesceFrom text current (row ++ rest)
      = coalesceFrom text (current.extend (contents row)) rest := by
  induction row generalizing current with
  | nil => simp [contents, extend]
  | cons t row ih =>
    obtain ⟨ht, hcut⟩ := List.forall_mem_cons.mp hcut
    obtain ⟨htkind, hkind⟩ := List.forall_mem_cons.mp hkind
    obtain ⟨hstart, hrow⟩ := hrow
    have hlonger : (current.extend t.text).stop = t.stop := by
      rw [stop_extend, ← hstart]
      rfl
    rw [List.cons_append, coalesceFrom_continues hcurrent ht ⟨htkind, hstart⟩,
      ih (hcurrent.extend ht ⟨htkind, hstart⟩) hcut hkind (hlonger ▸ hrow)]
    simp [extend, contents]

/-- Coalescing that comes to a row goes on with the token that unites it. -/
theorem coalesce_unites (h : Unites row t) (hcut : ∀ s ∈ row, s.CutFrom text) :
    coalesce text (row ++ rest) = coalesceFrom text t rest := by
  obtain ⟨first, others, rfl, -, -, hkind, hothers, rfl⟩ := h.eq_cons
  obtain ⟨hfirst, hcut⟩ := List.forall_mem_cons.mp hcut
  exact coalesceFrom_append hfirst hcut hkind hothers

/-- From where it stands on, coalescing does not see which tokens have been joined. -/
theorem coalesceFrom_merged (h : Merges tokens merged) (hcurrent : current.CutFrom text)
    (hcut : ∀ s ∈ tokens, s.CutFrom text) :
    coalesceFrom text current tokens = coalesceFrom text current merged := by
  induction h generalizing current with
  | nil => rfl
  | @cons row tokens merged t hrow _ ih =>
    obtain ⟨hcutRow, hcutRest⟩ := List.forall_mem_append.mp hcut
    have ht : t.CutFrom text := hrow.cutFrom hcutRow
    by_cases h : t.Continues current
    · have hkind : ∀ s ∈ row, s.kind = current.kind := fun s hs => (hrow.kind s hs).trans h.1
      have hends : EndToEnd current.stop row := h.2 ▸ hrow.endToEnd
      rw [coalesceFrom_append hcurrent hcutRow hkind hends, hrow.contents,
        coalesceFrom_continues hcurrent ht h]
      exact ih (hcurrent.extend ht h) hcutRest
    · obtain ⟨first, others, rfl, hkind, hstart, -⟩ := hrow.eq_cons
      have hfirst : ¬ first.Continues current := fun hfirst =>
        h ⟨hkind.symm.trans hfirst.1, hstart.symm.trans hfirst.2⟩
      rw [List.cons_append, coalesceFrom_apart hfirst, coalesceFrom_apart h, ← ih ht hcutRest]
      exact congrArg (current :: ·) (coalesce_unites hrow hcutRow)

/-- Coalescing does not see which tokens have been joined. -/
theorem Token.Merges.coalesce_eq (h : Merges tokens merged) (hcut : ∀ s ∈ tokens, s.CutFrom text) :
    coalesce text merged = coalesce text tokens := by
  cases h with
  | nil => rfl
  | @cons row tokens merged t hrow h =>
    obtain ⟨hcutRow, hcut⟩ := List.forall_mem_append.mp hcut
    rw [coalesce_unites hrow hcutRow, coalesce]
    exact (coalesceFrom_merged h (hrow.cutFrom hcutRow) hcut).symm

theorem coalesce_merges (hcut : ∀ s ∈ tokens, s.CutFrom text) :
    Merges tokens (coalesce text tokens) := by
  cases tokens with
  | nil => exact .nil
  | cons t tokens =>
    obtain ⟨ht, hcut⟩ := List.forall_mem_cons.mp hcut
    exact coalesceFrom_merges (.single t) ht hcut

theorem isChain_coalesce (hcut : ∀ s ∈ tokens, s.CutFrom text) :
    (coalesce text tokens).IsChain fun s t => ¬ t.Continues s := by
  cases tokens with
  | nil => exact .nil
  | cons t tokens =>
    obtain ⟨ht, hcut⟩ := List.forall_mem_cons.mp hcut
    exact isChain_coalesceFrom ht hcut

/-! ## Tokens of runs -/

theorem Token.Cover.cutFrom {start stop : Nat} (h : Token.Cover text start stop tokens) :
    ∀ t ∈ tokens, t.CutFrom text := by
  induction tokens generalizing start with
  | nil => exact List.forall_mem_nil _
  | cons t tokens ih =>
    obtain ⟨-, -, ht, hrest⟩ := h
    exact List.forall_mem_cons.mpr ⟨ht, ih hrest⟩

theorem Token.Tile.cutFrom (h : Token.Tile 0 text tokens) : ∀ t ∈ tokens, t.CutFrom text :=
  (Token.Tile.cover h (.refl _) (Cursor.ofText_passes text)).cutFrom

/-- Tokens that hold slices of a text are coalesced in the coarsest way. Each token of the
result unites a row of neighbours of its kind, so that text and kind of each byte are kept, and
none continues the one before it. In whatever way the tokens have been joined before, what has
been joined is joined in the result, and coalescing goes on to the same result; so it changes
nothing where it has been done. The tokens of runs, rewritten or not, hold slices of their
text. -/
theorem coalesce_coarsest (text : Text) :
    (∀ tokens, (∀ t ∈ tokens, t.CutFrom text) →
      contents (coalesce text tokens) = contents tokens ∧
      bytes (coalesce text tokens) = bytes tokens ∧
      Merges tokens (coalesce text tokens) ∧
      (coalesce text tokens).IsChain (fun s t => ¬ t.Continues s) ∧
      coalesce text (coalesce text tokens) = coalesce text tokens ∧
      ∀ merged, Merges tokens merged → coalesce text merged = coalesce text tokens ∧
        Merges merged (coalesce text tokens)) ∧
    ∀ library table states config r,
      (Run.start library table states text).map (·.withConfig config) = .ok r →
      (∀ t ∈ r.rest, t.CutFrom text) ∧
      ∀ rules : Rewrite, ∀ t ∈ rules.apply r.rest, t.CutFrom text := by
  refine ⟨fun tokens hcut => ?_, fun library table states config r hr => ?_⟩
  · have hmerges : Merges tokens (coalesce text tokens) := coalesce_merges hcut
    refine ⟨hmerges.contents, hmerges.bytes, hmerges, isChain_coalesce hcut,
      hmerges.coalesce_eq hcut, fun merged hmerged => ⟨hmerged.coalesce_eq hcut, ?_⟩⟩
    rw [← hmerged.coalesce_eq hcut]
    exact coalesce_merges (hmerged.cutFrom hcut)
  · have htile : Token.Tile 0 text r.rest := (Run.reads_start hr).whole
    exact ⟨Token.Tile.cutFrom htile, fun rules => Token.Tile.cutFrom (Rewrite.apply_tile htile)⟩

/-- Names that lie end to end, one of them empty, and others of which one is farther on and one
farther back. -/
def scattered : List Token := [⟨0, .name, "a".toList⟩, ⟨1, .name, "ß".toList⟩, ⟨3, .name, []⟩,
  ⟨4, .name, "b".toList⟩, ⟨0, .name, "a".toList⟩]

theorem coalesce_coarsest_scattered :
    (∀ t ∈ scattered, t.CutFrom "aß b".toList) ∧
    coalesce "aß b".toList scattered
      = [⟨0, .name, "aß".toList⟩, ⟨4, .name, "b".toList⟩, ⟨0, .name, "a".toList⟩] ∧
    coalesce "aß b".toList (coalesce "aß b".toList scattered) = coalesce "aß b".toList scattered ∧
    Merges (⟨0, .name, "aß".toList⟩ :: scattered.drop 2) (coalesce "aß b".toList scattered) ∧
    ∃ table r, wording.build [] = .ok table ∧
      (Run.start [] table [] "ß aß".toList).map (·.withConfig ⟨.text, 1, 1⟩) = .ok r ∧
      ∀ t ∈ splitting.apply r.rest, t.CutFrom "ß aß".toList := by
  obtain ⟨hmerged, hruns⟩ := coalesce_coarsest "aß b".toList
  have hcut : ∀ t ∈ scattered, t.CutFrom "aß b".toList := by decide
  obtain ⟨-, -, -, -, hagain, hcoarsest⟩ := hmerged scattered hcut
  have hrow : Unites (scattered.take 2) ⟨0, .name, "aß".toList⟩ :=
    (Unites.single ⟨0, .name, "a".toList⟩).snoc ⟨rfl, rfl⟩
  have hpart : Merges scattered (⟨0, .name, "aß".toList⟩ :: scattered.drop 2) :=
    .cons hrow (.refl _)
  obtain ⟨table, htable, r, hr⟩ : ∃ table, wording.build [] = .ok table ∧
      ∃ r, (Run.start [] table [] "ß aß".toList).map (·.withConfig ⟨.text, 1, 1⟩) = .ok r := by
    decide +kernel
  exact ⟨hcut, by decide, hagain, (hcoarsest _ hpart).2, table, r, htable, hr,
    ((coalesce_coarsest _).2 _ _ _ _ r hr).2 splitting⟩

end TableLexer
