import TableLexer.Languages.Ceylon
import TableLexer.Proofs.Run.Single

/-!
# Comments that nest

The specification is a scan: it goes through a text from left to right, an opening mark adds
one to the depth, a closing mark takes one off, and every other character is passed over. The
lexer has no counter. It pushes a state for each comment that starts and pops one for each that
ends, so that the height of its stack is the depth of the scan.

The argument is about any table with a state of this kind. What it asks of the rules is found
out by evaluation: that the marks select the rules for them, whatever follows, and that the
other rules take one character each and leave out none.

Results:
1. `Table.NestsComments.step`: a step emits the next lexeme of the scan, and the stack follows
   the depth.
2. `Table.NestsComments.gives`: so does any number of steps within a comment.
3. `Ceylon.nestsComments`: the table of Ceylon is of this kind, as evaluation finds out.
4. `Ceylon.comments_nest`: what that means for its runs.
-/

namespace TableLexer

open Cursor Regex RunContext

/-! ## Definitions -/

namespace Comment

def opening : Text := ['/', '*']

def closing : Text := ['*', '/']

/-- A mark or another character of a comment, with the depth behind it. -/
structure Lexeme where
  text : Text
  depth : Nat
  deriving DecidableEq

/-- The scan of a comment from a depth on, up to the closing mark that brings the depth to zero
or to the end of the text. -/
def lexemes : (depth : Nat) → Text → List Lexeme
  | depth, '/' :: '*' :: rest => ⟨opening, depth + 1⟩ :: lexemes (depth + 1) rest
  | depth, '*' :: '/' :: rest =>
      if depth ≤ 1 then [⟨closing, 0⟩] else ⟨closing, depth - 1⟩ :: lexemes (depth - 1) rest
  | depth, c :: rest => ⟨[c], depth⟩ :: lexemes depth rest
  | _, [] => []

def textOf (l : List Lexeme) : Text := l.flatMap Lexeme.text

/-- The depth behind some lexemes in front of which it is `depth`. -/
def depthBehind (depth : Nat) (l : List Lexeme) : Nat := l.getLast?.elim depth Lexeme.depth

/-- The lexemes as tokens of a kind, from an offset on. -/
def tokens (kind : Kind) : (pos : Nat) → List Lexeme → List Token
  | _, [] => []
  | pos, x :: l => ⟨pos, kind, x.text⟩ :: tokens kind (pos + x.text.size) l

/-- The stack within comments of a depth. -/
def stack (root comment : StateId) (depth : Nat) : List StateId :=
  List.replicate depth comment ++ [root]

end Comment

open Comment

namespace Table

variable (t : Table) (kind : Kind) (root comment : StateId)

/-- The rules for comments: those for the marks, and rules for one character each, which leave
out no character. -/
structure NestsComments : Prop where
  opens : t.EmitsMark kind root opening [.push comment]
  deepens : t.EmitsMark kind comment opening [.pushCurrent]
  closes : t.EmitsMark kind comment closing [.pop 1]
  others : ∀ r ∈ t.rules comment, r.Emits kind (.text opening) [.pushCurrent] ∨
    r.Emits kind (.text closing) [.pop 1] ∨ ∃ s ∈ r.charSet?, r.Emits kind (.set s) []
  complete : CharSet.unions ((t.rules comment).filterMap Rule.charSet?) = .full

instance : Decidable (t.NestsComments kind root comment) :=
  decidable_of_iff (t.EmitsMark kind root opening [.push comment] ∧
      t.EmitsMark kind comment opening [.pushCurrent] ∧
      t.EmitsMark kind comment closing [.pop 1] ∧
      (∀ r ∈ t.rules comment, r.Emits kind (.text opening) [.pushCurrent] ∨
        r.Emits kind (.text closing) [.pop 1] ∨ ∃ s ∈ r.charSet?, r.Emits kind (.set s) []) ∧
      CharSet.unions ((t.rules comment).filterMap Rule.charSet?) = .full)
    ⟨fun ⟨h₁, h₂, h₃, h₄, h₅⟩ => ⟨h₁, h₂, h₃, h₄, h₅⟩,
      fun h => ⟨h.opens, h.deepens, h.closes, h.others, h.complete⟩⟩

end Table

/-- From the state `s` on, where a comment starts, each step emits a lexeme of it as a token, and
the stack has the height of the depth. The last of them ends the comment or the text. -/
structure RunContext.NestsFrom (ctx : RunContext) (kind : Kind) (root comment : StateId)
    (s : RunState) : Prop where
  steps : ∀ front, front <+: lexemes 0 s.place.rest → ∃ d, s.place.Passes (textOf front) d ∧
    ctx.exhaust front.length s = tokens kind s.place.pos front ∧
    ctx.after front.length s = ⟨d, Comment.stack root comment (depthBehind 0 front), s.streak⟩
  ends : depthBehind 0 (lexemes 0 s.place.rest) = 0 ∨
    textOf (lexemes 0 s.place.rest) = s.place.rest

/-- Asked for the tokens in its queue and for those of some lexemes, the run gives them and stands
behind the lexemes, and the names on its stack are as many as the depth says. -/
structure Run.ReadsComment (r : Run) (kind : Kind) (front : List Lexeme) : Prop where
  tokens : (r.pull (r.queue.length + front.length)).1
    = r.queue ++ Comment.tokens kind r.position front
  passes : r.state.place.Passes (textOf front)
    (r.pull (r.queue.length + front.length)).2.state.place
  stackNames : (r.pull (r.queue.length + front.length)).2.stackNames
    = "root" :: List.replicate (depthBehind 0 front) "comment"

/-! ## The scan -/

namespace Comment

variable {depth : Nat}

theorem lexemes_opening (depth : Nat) (rest : Text) :
    lexemes depth (opening ++ rest) = ⟨opening, depth + 1⟩ :: lexemes (depth + 1) rest := by
  rw [opening, List.cons_append, List.singleton_append, lexemes]
  rfl

theorem lexemes_closing (depth : Nat) (rest : Text) :
    lexemes (depth + 1) (closing ++ rest)
      = ⟨closing, depth⟩ :: if depth = 0 then [] else lexemes depth rest := by
  rw [closing, List.cons_append, List.singleton_append, lexemes]
  cases depth with
  | zero => rfl
  | succ depth => rfl

theorem lexemes_other (depth : Nat) {c : Char} {rest : Text} (hopening : ¬ opening <+: c :: rest)
    (hclosing : ¬ closing <+: c :: rest) :
    lexemes depth (c :: rest) = ⟨[c], depth⟩ :: lexemes depth rest := by
  rw [lexemes]
  · rintro rest rfl rfl
    exact hopening ⟨rest, rfl⟩
  · rintro rest rfl rfl
    exact hclosing ⟨rest, rfl⟩

theorem textOf_cons (x : Lexeme) (l : List Lexeme) : textOf (x :: l) = x.text ++ textOf l :=
  List.flatMap_cons

theorem depthBehind_cons (x : Lexeme) (l : List Lexeme) :
    depthBehind depth (x :: l) = depthBehind x.depth l := by
  cases l with
  | nil => rfl
  | cons y l => rfl

/-- The scan ends where the depth is zero or the text is over. -/
theorem lexemes_end (depth : Nat) (text : Text) :
    depthBehind depth (lexemes depth text) = 0 ∨ textOf (lexemes depth text) = text := by
  fun_induction lexemes depth text with
  | case1 depth rest ih =>
    rw [depthBehind_cons, textOf_cons]
    exact ih.imp_right fun h => congrArg (opening ++ ·) h
  | case2 depth rest hle => exact .inl rfl
  | case3 depth rest hle ih =>
    rw [depthBehind_cons, textOf_cons]
    exact ih.imp_right fun h => congrArg (closing ++ ·) h
  | case4 depth c rest hopening hclosing ih =>
    rw [depthBehind_cons, textOf_cons]
    exact ih.imp_right fun h => congrArg ([c] ++ ·) h
  | case5 depth => exact .inr rfl

theorem length_tokens (kind : Kind) (pos : Nat) (l : List Lexeme) :
    (tokens kind pos l).length = l.length := by
  induction l generalizing pos with
  | nil => rfl
  | cons x l ih => rw [tokens, List.length_cons, ih, List.length_cons]

theorem pop_stack (root comment : StateId) (depth : Nat) :
    applyOps [.pop 1] (stack root comment (depth + 1)) = stack root comment depth := by
  simp [applyOps, applyOp, stack, List.replicate_succ]

end Comment

/-! ## Steps -/

namespace Table.NestsComments

variable {ctx : RunContext} {s : RunState} {kind : Kind} {root comment : StateId} {depth : Nat}
  {rest : Text}

/-- A step at an opening mark. -/
theorem step_opening (h : ctx.table.NestsComments kind root comment)
    (hstack : s.stack = Comment.stack root comment depth) (hrest : s.place.rest = opening ++ rest) :
    ∃ d, s.place.Passes opening d ∧ d.rest = rest ∧ ctx.step s =
      ([⟨s.place.pos, kind, opening⟩], ⟨d, Comment.stack root comment (depth + 1), s.streak⟩) := by
  cases depth with
  | zero =>
    obtain ⟨d, hpass, hd, hstep⟩ := h.opens.step (List.cons_ne_nil _ _) hstack hrest
    rw [hstack] at hstep
    exact ⟨d, hpass, hd, hstep⟩
  | succ depth =>
    obtain ⟨d, hpass, hd, hstep⟩ := h.deepens.step (List.cons_ne_nil _ _) hstack hrest
    rw [hstack] at hstep
    exact ⟨d, hpass, hd, hstep⟩

/-- A step at a closing mark within a comment. -/
theorem step_closing (h : ctx.table.NestsComments kind root comment)
    (hstack : s.stack = Comment.stack root comment (depth + 1))
    (hrest : s.place.rest = closing ++ rest) :
    ∃ d, s.place.Passes closing d ∧ d.rest = rest ∧ ctx.step s =
      ([⟨s.place.pos, kind, closing⟩], ⟨d, Comment.stack root comment depth, s.streak⟩) := by
  obtain ⟨d, hpass, hd, hstep⟩ := h.closes.step (List.cons_ne_nil _ _) hstack hrest
  rw [hstack, pop_stack] at hstep
  exact ⟨d, hpass, hd, hstep⟩

/-- A step within a comment at a character that no mark starts with. The sets of the rules make up
all characters, so one of the rules applies. -/
theorem step_other (h : ctx.table.NestsComments kind root comment)
    (hstack : s.stack = Comment.stack root comment (depth + 1)) {c : Char}
    (hrest : s.place.rest = c :: rest) (hopening : ¬ opening <+: s.place.rest)
    (hclosing : ¬ closing <+: s.place.rest) :
    ∃ d, s.place.Passes [c] d ∧ d.rest = rest ∧ ctx.step s =
      ([⟨s.place.pos, kind, [c]⟩], ⟨d, Comment.stack root comment (depth + 1), s.streak⟩) := by
  obtain ⟨set, hset, hc⟩ := CharSet.contains_unions.mp (h.complete ▸ CharSet.contains_full c)
  obtain ⟨rule, hrule, hcharSet⟩ := List.mem_filterMap.mp hset
  obtain ⟨rule', m, hfirst⟩ := exists_firstMatch? hrule
    (Rule.isSome_matchAt? (Rule.program?_of_charSet? hcharSet) (Program.isSome_first?_set hrest hc))
  obtain ⟨hrule', -⟩ := mem_of_firstMatch? hfirst
  have hsel : ctx.Selects s rule' m := ⟨comment, _, hstack, hfirst⟩
  rw [← hstack]
  rcases h.others rule' hrule' with hemits | hemits | ⟨set', -, hemits⟩
  · obtain ⟨d, hpass, -⟩ := hemits.step_text hsel
    exact absurd ⟨d.rest, hpass.rest.symm⟩ hopening
  · obtain ⟨d, hpass, -⟩ := hemits.step_text hsel
    exact absurd ⟨d.rest, hpass.rest.symm⟩ hclosing
  · obtain ⟨_, ⟨c', -, rfl⟩, d, hpass, hstep⟩ := hemits.step hsel
    obtain ⟨rfl, hd⟩ := List.cons.inj (hpass.rest.symm.trans hrest)
    exact ⟨d, hpass, hd, hstep (List.cons_ne_nil _ _)⟩

/-- A step within a comment, or at its start. -/
theorem step (h : ctx.table.NestsComments kind root comment)
    (hstack : s.stack = Comment.stack root comment depth)
    (hinside : depth ≠ 0 ∨ opening <+: s.place.rest) {x : Lexeme} {l : List Lexeme}
    (hx : lexemes depth s.place.rest = x :: l) :
    ∃ d, s.place.Passes x.text d ∧
      ctx.step s
        = ([⟨s.place.pos, kind, x.text⟩], ⟨d, Comment.stack root comment x.depth, s.streak⟩) ∧
      l = if x.depth = 0 then [] else lexemes x.depth d.rest := by
  by_cases hopening : opening <+: s.place.rest
  · obtain ⟨rest, hrest⟩ := hopening
    rw [← hrest, lexemes_opening] at hx
    cases hx
    obtain ⟨d, hpass, hd, hstep⟩ := h.step_opening hstack hrest.symm
    exact ⟨d, hpass, hstep, hd ▸ rfl⟩
  obtain ⟨depth, rfl⟩ := Nat.exists_eq_succ_of_ne_zero (hinside.resolve_right hopening)
  by_cases hclosing : closing <+: s.place.rest
  · obtain ⟨rest, hrest⟩ := hclosing
    rw [← hrest, lexemes_closing] at hx
    cases hx
    obtain ⟨d, hpass, hd, hstep⟩ := h.step_closing hstack hrest.symm
    exact ⟨d, hpass, hstep, hd ▸ rfl⟩
  cases hrest : s.place.rest with
  | nil =>
    rw [hrest] at hx
    cases hx
  | cons c rest =>
    rw [hrest, lexemes_other _ (hrest ▸ hopening) (hrest ▸ hclosing)] at hx
    cases hx
    obtain ⟨d, hpass, hd, hstep⟩ := h.step_other hstack hrest hopening hclosing
    exact ⟨d, hpass, hstep, hd ▸ rfl⟩

/-- Any number of steps within a comment, or from its start on. -/
theorem gives (h : ctx.table.NestsComments kind root comment)
    (hstack : s.stack = Comment.stack root comment depth)
    (hinside : depth ≠ 0 ∨ opening <+: s.place.rest) {front : List Lexeme}
    (hfront : front <+: lexemes depth s.place.rest) :
    ∃ d, s.place.Passes (textOf front) d ∧
      ctx.Gives s (tokens kind s.place.pos front)
        ⟨d, Comment.stack root comment (depthBehind depth front), s.streak⟩ := by
  induction front generalizing s depth with
  | nil =>
    refine ⟨s.place, .refl _, ?_⟩
    show ctx.Gives s [] ⟨s.place, Comment.stack root comment depth, s.streak⟩
    rw [← hstack]
    exact .refl
  | cons x front ih =>
    obtain ⟨back, hback⟩ := hfront
    have hr : s.place.rest ≠ [] := by
      intro hnil
      rw [hnil] at hback
      cases hback
    obtain ⟨d, hpass, hstep, hl⟩ := h.step hstack hinside hback.symm
    rw [depthBehind_cons, textOf_cons]
    by_cases hx : x.depth = 0
    · rw [if_pos hx] at hl
      obtain ⟨rfl, -⟩ := List.append_eq_nil_iff.mp hl
      rw [textOf, List.flatMap_nil, List.append_nil]
      exact ⟨d, hpass, .step hr hstep .refl⟩
    · rw [if_neg hx] at hl
      obtain ⟨e, hpass', hgives⟩ := ih (s := ⟨d, Comment.stack root comment x.depth, s.streak⟩) rfl
        (.inl hx) ⟨back, hl⟩
      rw [tokens, ← hpass.pos]
      exact ⟨e, hpass.trans hpass', .step hr hstep hgives⟩

theorem nestsFrom (h : ctx.table.NestsComments kind root comment) (hstack : s.stack = [root])
    (hopening : opening <+: s.place.rest) : ctx.NestsFrom kind root comment s where
  steps := by
    intro front hfront
    have hbase : s.stack = Comment.stack root comment 0 := hstack
    obtain ⟨d, hpass, hgives⟩ := h.gives hbase (.inr hopening) hfront
    have hexhaust := hgives.exhaust
    rw [length_tokens] at hexhaust
    exact ⟨d, hpass, hexhaust⟩
  ends := lexemes_end 0 s.place.rest

theorem readsComment {r : Run} (h : r.table.NestsComments kind root comment)
    (hroot : r.table.stateName? root = some "root")
    (hcomment : r.table.stateName? comment = some "comment") (hstack : r.state.stack = [root])
    (hopening : opening <+: r.state.place.rest) {front : List Lexeme}
    (hfront : front <+: lexemes 0 r.state.place.rest) : r.ReadsComment kind front := by
  have hnests : r.context.table.NestsComments kind root comment := h
  have hbase : r.state.stack = Comment.stack root comment 0 := hstack
  obtain ⟨d, hpass, hgives⟩ := hnests.gives hbase (.inr hopening) hfront
  have hpull := Run.pull_of_gives hgives
  rw [length_tokens] at hpull
  refine ⟨congrArg Prod.fst hpull, ?_, ?_⟩
  · rw [hpull]
    exact hpass
  · rw [hpull]
    simp [Run.stackNames, Comment.stack, hroot, hcomment]

end Table.NestsComments

/-! ## Ceylon -/

namespace Ceylon

set_option maxRecDepth 1000000 in
theorem nestsComments : ∃ t, table = .ok t ∧
    ∃ root, t.stateId "root" = .ok root ∧ ∃ comment, t.stateId "comment" = .ok comment ∧
      t.stateName? root = some "root" ∧ t.stateName? comment = some "comment" ∧
      t.NestsComments .commentMultiline root comment := by
  decide +kernel

/-- Comments of Ceylon nest. Where the root state is alone on the stack of a run and a comment
starts, whatever the limits are and whether or not the run is nested in another one, each step
emits a lexeme of the comment as one token of its kind, up to the closing mark that brings the
depth to zero or to the end of the text. Between any two of the tokens the stack has as many
states for comments as the depth says, above the root state. -/
theorem comments_nest : ∃ t root comment, table = .ok t ∧ t.stateId "root" = .ok root ∧
    t.stateId "comment" = .ok comment ∧
    (∀ ctx : RunContext, ctx.table = t → ∀ s, s.stack = [root] → opening <+: s.place.rest →
      ctx.NestsFrom .commentMultiline root comment s) ∧
    ∀ r : Run, r.table = t → r.state.stack = [root] → opening <+: r.state.place.rest →
      ∀ front, front <+: lexemes 0 r.state.place.rest → r.ReadsComment .commentMultiline front := by
  obtain ⟨t, ht, root, hroot, comment, hcomment, hrootName, hcommentName, hnests⟩ := nestsComments
  refine ⟨t, root, comment, ht, hroot, hcomment, ?_, ?_⟩
  · rintro ctx rfl s hstack hopening
    exact hnests.nestsFrom hstack hopening
  · rintro r rfl hstack hopening front hfront
    exact hnests.readsComment hrootName hcommentName hstack hopening hfront

set_option maxRecDepth 1000000 in
theorem comments_nest_overlapping : ∃ t r, table = .ok t ∧
    Run.start [] t [] "x/*/é/**/**/y".toList = .ok r ∧
    ((r.pull 1).2.pull 7).1 = [⟨1, .commentMultiline, opening⟩, ⟨3, .commentMultiline, ['/']⟩,
      ⟨4, .commentMultiline, ['é']⟩, ⟨6, .commentMultiline, opening⟩,
      ⟨8, .commentMultiline, closing⟩, ⟨10, .commentMultiline, ['*']⟩,
      ⟨11, .commentMultiline, closing⟩] ∧
    ((r.pull 1).2.pull 4).2.stackNames = ["root", "comment", "comment"] ∧
    ((r.pull 1).2.pull 7).2.stackNames = ["root"] := by
  obtain ⟨t, root, comment, ht, hroot, -, -, hall⟩ := comments_nest
  obtain ⟨t', ht', r, hr, hqueue, htable, hstack, hrest, hpos⟩ : ∃ t, table = .ok t ∧
      ∃ r, Run.start [] t [] "x/*/é/**/**/y".toList = .ok r ∧ (r.pull 1).2.queue = [] ∧
      (r.pull 1).2.table = t ∧ (∃ id, t.stateId "root" = .ok id ∧ (r.pull 1).2.state.stack = [id]) ∧
      (r.pull 1).2.state.place.rest = "/*/é/**/**/y".toList ∧ (r.pull 1).2.position = 1 := by
    decide +kernel
  obtain rfl : t' = t := Except.ok.inj (ht'.symm.trans ht)
  obtain ⟨id, hid, hstack⟩ := hstack
  obtain rfl : id = root := Except.ok.inj (hid.symm.trans hroot)
  have hreads := hall _ htable hstack (hrest ▸ by decide)
  rw [hrest] at hreads
  obtain ⟨-, -, hinside⟩ :=
    hreads ((lexemes 0 "/*/é/**/**/y".toList).take 4) (List.take_prefix 4 _)
  obtain ⟨htokens, -, hbehind⟩ := hreads (lexemes 0 "/*/é/**/**/y".toList) (List.prefix_refl _)
  rw [hqueue] at hinside htokens hbehind
  rw [hpos] at htokens
  exact ⟨t', r, ht, hr, htokens, hinside, hbehind⟩

end Ceylon

end TableLexer
