import TableLexer.Lexer
import TableLexer.Proofs.Run.Stream

/-!
# Rewriting goes token by token

A stream that is being rewritten holds back the second half of a split token. What
comes out of it is still what the corrections make of each token by itself, one after
the other: a held half is given as it is, and nothing of one token reaches another.
So whatever holds of a stream of tokens and is kept where one token is replaced holds
of the rewritten stream.

Results:
1. `outcome?_eq_some_iff`, `image_eq_iff`: which correction is made, and what it makes.
2. `take_next`, `apply_eq_flatMap`: the rewritten stream gives the images of the tokens.
3. `endToEnd_flatMap`, `contents_flatMap`: images lie where the tokens lay.
4. `tokens_tile`, `take_stream`: the tokens of a lexer tile its text, however they are asked
   for.
5. `rewritten_tokenwise`: all of it.
-/

namespace TableLexer

/-! ## Corrections -/

/-- What a rule makes of a token to which it applies. -/
inductive RewriteRule.Makes : RewriteRule → Token → List Token → Prop
  | retag {source target : Kind} {words : List Text} {t : Token} (hkind : t.kind = source)
      (hword : t.text ∈ words) :
      Makes (.retag source words target) t [⟨t.start, target, t.text⟩]
  | splitLast {source head tail : Kind} {words : List Text} {t : Token} {front : Text}
      {last : Char} (hkind : t.kind = source) (hword : t.text ∈ words)
      (htext : t.text = front ++ [last]) (hfront : front ≠ []) :
      Makes (.splitLast source words head tail) t
        [⟨t.start, head, front⟩, ⟨t.start + front.size, tail, [last]⟩]

/-- The rule makes something of the token. -/
def RewriteRule.Applies (rule : RewriteRule) (t : Token) : Prop := ∃ pieces, rule.Makes t pieces

/-- The pieces are what the first rule that applies makes of the token, and the token itself
if no rule applies. -/
def Rewrite.Images (rules : Rewrite) (t : Token) (pieces : List Token) : Prop :=
  (∃ before rule after, rules = before ++ rule :: after ∧
    (∀ earlier ∈ before, ¬ earlier.Applies t) ∧ rule.Makes t pieces) ∨
  ((∀ rule ∈ rules, ¬ rule.Applies t) ∧ pieces = [t])

/-- What becomes of one token. -/
def Rewrite.image (rules : Rewrite) (t : Token) : List Token :=
  (rules.outcome t).1 :: (rules.outcome t).2.toList

namespace RewriteRule

variable {rule : RewriteRule} {t first : Token} {second : Option Token} {pieces : List Token}

theorem outcome?_eq_some_iff :
    rule.outcome? t = some (first, second) ↔ rule.Makes t (first :: second.toList) := by
  constructor
  · intro h
    cases rule with
    | retag source words target =>
      obtain ⟨⟨hkind, hword⟩, rfl, rfl⟩ : (t.kind = source ∧ t.text ∈ words) ∧
          t.withKind target = first ∧ none = second := by
        simpa [outcome?] using h
      exact .retag hkind hword
    | splitLast source words head tail =>
      obtain ⟨⟨hkind, hword⟩, hfront, rfl, rfl⟩ : (t.kind = source ∧ t.text ∈ words) ∧
          t.text.dropLast ≠ [] ∧ ⟨t.start, head, t.text.dropLast⟩ = first ∧
          some ⟨t.start + Text.size t.text.dropLast, tail, t.text.drop t.text.dropLast.length⟩
            = second := by
        simpa [outcome?] using h
      have hne : t.text ≠ [] := fun hnil => hfront (by rw [hnil]; rfl)
      have htext : t.text = t.text.dropLast ++ [t.text.getLast hne] :=
        (List.dropLast_append_getLast hne).symm
      have hdrop : t.text.drop t.text.dropLast.length = [t.text.getLast hne] := by
        rw [List.length_dropLast, List.drop_length_sub_one hne]
      rw [hdrop]
      exact .splitLast hkind hword htext hfront
  · intro h
    generalize hp : first :: second.toList = made at h
    cases h with
    | retag hkind hword =>
      obtain ⟨rfl, hnone⟩ := List.cons.inj hp
      rw [Option.toList_eq_nil_iff] at hnone
      subst hnone
      simp [outcome?, hkind, hword, Token.withKind]
    | @splitLast source head tail words t front last hkind hword htext hfront =>
      obtain ⟨rfl, hsome⟩ := List.cons.inj hp
      rw [Option.toList_eq_singleton_iff] at hsome
      subst hsome
      rw [htext] at hword
      simp [outcome?, hkind, hword, htext, hfront]

theorem Makes.exists_halves (h : rule.Makes t pieces) :
    ∃ first second, pieces = first :: Option.toList second := by
  cases h with
  | retag => exact ⟨_, none, rfl⟩
  | splitLast => exact ⟨_, some _, rfl⟩

theorem outcome?_eq_none_iff : rule.outcome? t = none ↔ ¬ rule.Applies t := by
  rw [Option.eq_none_iff_forall_ne_some]
  constructor
  · rintro h ⟨pieces, hmakes⟩
    obtain ⟨first, second, rfl⟩ := hmakes.exists_halves
    exact h _ (outcome?_eq_some_iff.mpr hmakes)
  · rintro h ⟨first, second⟩ hsome
    exact h ⟨_, outcome?_eq_some_iff.mp hsome⟩

end RewriteRule

namespace Rewrite

variable {rules : Rewrite} {t : Token} {pieces : List Token}

/-- What becomes of a token is settled by the first rule that applies. -/
theorem image_eq_iff : rules.image t = pieces ↔ rules.Images t pieces := by
  constructor
  · rintro rfl
    unfold image outcome
    cases h : rules.findSome? fun rule => rule.outcome? t with
    | none =>
      refine .inr ⟨fun rule hrule => ?_, rfl⟩
      exact RewriteRule.outcome?_eq_none_iff.mp (List.findSome?_eq_none_iff.mp h rule hrule)
    | some made =>
      obtain ⟨before, rule, after, hrules, hmade, hbefore⟩ := List.findSome?_eq_some_iff.mp h
      refine .inl ⟨before, rule, after, hrules, fun earlier hearlier => ?_, ?_⟩
      · exact RewriteRule.outcome?_eq_none_iff.mp (hbefore earlier hearlier)
      · exact RewriteRule.outcome?_eq_some_iff.mp hmade
  · rintro (⟨before, rule, after, hrules, hbefore, hmakes⟩ | ⟨hnone, rfl⟩)
    · obtain ⟨first, second, rfl⟩ := hmakes.exists_halves
      have hfirst : (rules.findSome? fun rule => rule.outcome? t) = some (first, second) :=
        List.findSome?_eq_some_iff.mpr ⟨before, rule, after, hrules,
          RewriteRule.outcome?_eq_some_iff.mpr hmakes,
          fun earlier hearlier => RewriteRule.outcome?_eq_none_iff.mpr (hbefore earlier hearlier)⟩
      rw [image, outcome, hfirst]
      rfl
    · have hfirst : (rules.findSome? fun rule => rule.outcome? t) = none :=
        List.findSome?_eq_none_iff.mpr fun rule hrule =>
          RewriteRule.outcome?_eq_none_iff.mpr (hnone rule hrule)
      rw [image, outcome, hfirst]
      rfl

theorem images_image (rules : Rewrite) (t : Token) : rules.Images t (rules.image t) :=
  image_eq_iff.mp rfl

theorem image_ne_nil (rules : Rewrite) (t : Token) : rules.image t ≠ [] := List.cons_ne_nil _ _

theorem length_image_le (rules : Rewrite) (t : Token) : (rules.image t).length ≤ 2 := by
  unfold image
  cases (rules.outcome t).2 <;> simp

end Rewrite

/-! ## Streams -/

section

variable {σ α β : Type} {pull : Pull σ} {s : σ} {m n : Nat}

theorem Pull.take_take (h : m ≤ n) : (pull.take n s).take m = pull.take m s := by
  induction m generalizing n s with
  | zero => rfl
  | succ m ih =>
    obtain ⟨n, rfl⟩ := Nat.exists_eq_succ_of_ne_zero (Nat.ne_of_gt (Nat.lt_of_lt_of_le
      (Nat.succ_pos m) h))
    rw [Pull.take, Pull.take]
    rcases pull s with ⟨_ | t, s'⟩
    · rfl
    · exact congrArg (List.cons t) (ih (Nat.le_of_succ_le_succ h))

theorem Pull.length_take_le : (pull.take n s).length ≤ n := by
  induction n generalizing s with
  | zero => exact Nat.le_refl 0
  | succ n ih =>
    rw [Pull.take]
    rcases pull s with ⟨_ | t, s'⟩
    · exact Nat.zero_le _
    · exact Nat.succ_le_succ ih

theorem Pull.take_ofList (tokens : List Token) (n : Nat) :
    Pull.ofList.take n tokens = tokens.take n := by
  induction n generalizing tokens with
  | zero => rfl
  | succ n ih =>
    cases tokens with
    | nil => rfl
    | cons t tokens => exact congrArg (List.cons t) (ih tokens)

/-- As many elements as are asked for need no more than as many sources, if none of them is
empty. -/
theorem take_flatMap {f : α → List β} (hf : ∀ a, f a ≠ []) (l : List α) (n : Nat) :
    ((l.take n).flatMap f).take n = (l.flatMap f).take n := by
  induction n generalizing l with
  | zero => rfl
  | succ n ih =>
    cases l with
    | nil => rfl
    | cons a l =>
      obtain ⟨b, bs, hb⟩ := List.exists_cons_of_ne_nil (hf a)
      have hless := congrArg (List.take (n - bs.length)) (ih l)
      rw [List.take_take, List.take_take, Nat.min_eq_left (Nat.sub_le _ _)] at hless
      rw [List.take_succ_cons, List.flatMap_cons, List.flatMap_cons, hb, List.cons_append,
        List.cons_append, List.take_succ_cons, List.take_succ_cons, List.take_append,
        List.take_append, hless]

end

namespace Rewrite

variable {σ : Type} {n : Nat}

/-- A stream that is being rewritten gives what it holds back, and then the images of the
tokens of the stream inside. The held token counts, so one token less is needed from inside. -/
theorem take_next (rules : Rewrite) (pull : Pull σ) (s : σ) (held : Option Token) (n : Nat) :
    (rules.next pull).take n ⟨s, held⟩
      = (held.toList ++ (pull.take n s).flatMap rules.image).take n := by
  induction n generalizing s held with
  | zero => rfl
  | succ n ih =>
    rw [Pull.take, next]
    cases held with
    | some t =>
      have hstep : ((pull.take (n + 1) s).flatMap rules.image).take n
          = ((pull.take n s).flatMap rules.image).take n := by
        rw [← take_flatMap rules.image_ne_nil, Pull.take_take (Nat.le_succ n)]
      dsimp only
      rw [ih, Option.toList_none, List.nil_append, ← hstep]
      rfl
    | none =>
      rw [Pull.take]
      rcases pull s with ⟨_ | t, s'⟩
      · rfl
      · dsimp only
        rw [ih, List.flatMap_cons, image, Option.toList_none, List.nil_append, List.cons_append,
          List.take_succ_cons]

theorem length_flatMap_image_le (rules : Rewrite) (tokens : List Token) :
    (tokens.flatMap rules.image).length ≤ 2 * tokens.length := by
  induction tokens with
  | nil => exact Nat.le_refl 0
  | cons t tokens ih =>
    have ht := rules.length_image_le t
    rw [List.flatMap_cons, List.length_append, List.length_cons]
    omega

theorem apply_eq_flatMap (rules : Rewrite) (tokens : List Token) :
    rules.apply tokens = tokens.flatMap rules.image := by
  have hall : tokens.take (2 * tokens.length) = tokens := List.take_of_length_le (by omega)
  rw [apply, take_next, Option.toList_none, List.nil_append, Pull.take_ofList, hall]
  exact List.take_of_length_le (rules.length_flatMap_image_le tokens)

/-- The first tokens of a rewritten stream come from the first tokens of the stream, and
these are used up when twice as many have been asked for. -/
theorem take_next_between (rules : Rewrite) (pull : Pull σ) (s : σ) (n : Nat) :
    (rules.next pull).take n ⟨s, none⟩ <+: (pull.take n s).flatMap rules.image ∧
      (pull.take n s).flatMap rules.image <+: (rules.next pull).take (2 * n) ⟨s, none⟩ := by
  rw [take_next, take_next, Option.toList_none, List.nil_append, List.nil_append]
  refine ⟨List.take_prefix _ _, List.prefix_take_iff.mpr ⟨?_, ?_⟩⟩
  · rw [← Pull.take_take (show n ≤ 2 * n by omega)]
    exact (List.take_prefix _ _).flatMap _
  · exact Nat.le_trans (rules.length_flatMap_image_le _)
      (Nat.mul_le_mul_left 2 Pull.length_take_le)

end Rewrite

/-! ## Tilings -/

/-- Each token starts where the one before it ends, and the first one at the offset
`start`. -/
def Token.EndToEnd : (start : Nat) → List Token → Prop
  | _, [] => True
  | start, t :: tokens => t.start = start ∧ Token.EndToEnd t.stop tokens

/-- The texts of the tokens, in order. -/
def Token.contents (tokens : List Token) : Text := (tokens.map Token.text).flatten

namespace Token

variable {start : Nat} {t : Token} {l m : List Token}

theorem contents_cons (t : Token) (l : List Token) : contents (t :: l) = t.text ++ contents l := rfl

theorem contents_append (l m : List Token) : contents (l ++ m) = contents l ++ contents m := by
  rw [contents, List.map_append, List.flatten_append]
  rfl

theorem contents_mono (h : l <+: m) : contents l <+: contents m := by
  obtain ⟨rest, rfl⟩ := h
  exact ⟨_, (contents_append l rest).symm⟩

theorem endToEnd_append :
    EndToEnd start (l ++ m) ↔
      EndToEnd start l ∧ EndToEnd (start + (contents l).size) m := by
  induction l generalizing start with
  | nil => simp [EndToEnd, contents]
  | cons t l ih =>
    rw [List.cons_append, EndToEnd, EndToEnd, ih, contents_cons, Text.size_append, and_assoc]
    refine and_congr_right fun hstart => ?_
    rw [stop, hstart, Nat.add_assoc]

theorem EndToEnd.mono (h : EndToEnd start m) (hl : l <+: m) : EndToEnd start l := by
  obtain ⟨rest, rfl⟩ := hl
  exact (endToEnd_append.mp h).1

/-- A tiling is what lies end to end without empty tokens. -/
theorem tile_iff {text : Text} :
    Token.Tile start text l ↔
      EndToEnd start l ∧ (∀ t ∈ l, t.text ≠ []) ∧ contents l = text := by
  induction l generalizing start text with
  | nil => exact ⟨fun h => ⟨trivial, nofun, h.symm⟩, fun h => h.2.2.symm⟩
  | cons t l ih =>
    rw [contents_cons, List.forall_mem_cons, EndToEnd]
    constructor
    · rintro ⟨hstart, ht, u, rfl, hrest⟩
      obtain ⟨hl, hne, rfl⟩ := ih.mp hrest
      refine ⟨⟨hstart, ?_⟩, ⟨ht, hne⟩, rfl⟩
      rwa [stop, hstart]
    · rintro ⟨⟨hstart, hl⟩, ⟨ht, hne⟩, rfl⟩
      refine ⟨hstart, ht, contents l, rfl, ih.mpr ⟨?_, hne, rfl⟩⟩
      rwa [stop, hstart] at hl

end Token

namespace RewriteRule.Makes

variable {rule : RewriteRule} {t : Token} {pieces : List Token}

theorem contents (h : rule.Makes t pieces) : Token.contents pieces = t.text := by
  cases h with
  | retag => exact List.append_nil _
  | splitLast _ _ htext _ => exact htext.symm

theorem endToEnd (h : rule.Makes t pieces) : Token.EndToEnd t.start pieces := by
  cases h with
  | retag => exact ⟨rfl, trivial⟩
  | splitLast => exact ⟨rfl, rfl, trivial⟩

theorem ne_nil (h : rule.Makes t pieces) (ht : t.text ≠ []) : ∀ p ∈ pieces, p.text ≠ [] := by
  cases h with
  | retag => exact List.forall_mem_singleton.mpr ht
  | splitLast _ _ _ hfront =>
    exact List.forall_mem_cons.mpr ⟨hfront, List.forall_mem_singleton.mpr (List.cons_ne_nil _ _)⟩

end RewriteRule.Makes

namespace Rewrite

variable {rules : Rewrite} {t : Token} {pieces tokens : List Token} {start : Nat} {text : Text}

theorem Images.contents (h : rules.Images t pieces) : Token.contents pieces = t.text := by
  rcases h with ⟨-, rule, -, -, -, hmakes⟩ | ⟨-, rfl⟩
  · exact hmakes.contents
  · exact List.append_nil _

theorem Images.endToEnd (h : rules.Images t pieces) : Token.EndToEnd t.start pieces := by
  rcases h with ⟨-, rule, -, -, -, hmakes⟩ | ⟨-, rfl⟩
  · exact hmakes.endToEnd
  · exact ⟨rfl, trivial⟩

theorem Images.ne_nil (h : rules.Images t pieces) (ht : t.text ≠ []) :
    ∀ p ∈ pieces, p.text ≠ [] := by
  rcases h with ⟨-, rule, -, -, -, hmakes⟩ | ⟨-, rfl⟩
  · exact hmakes.ne_nil ht
  · exact List.forall_mem_singleton.mpr ht

theorem contents_flatMap (rules : Rewrite) (tokens : List Token) :
    Token.contents (tokens.flatMap rules.image) = Token.contents tokens := by
  induction tokens with
  | nil => rfl
  | cons t tokens ih =>
    rw [List.flatMap_cons, Token.contents_append, (rules.images_image t).contents, ih,
      Token.contents_cons]

theorem endToEnd_flatMap (h : Token.EndToEnd start tokens) :
    Token.EndToEnd start (tokens.flatMap rules.image) := by
  induction tokens generalizing start with
  | nil => exact h
  | cons t tokens ih =>
    obtain ⟨rfl, hrest⟩ := h
    rw [List.flatMap_cons, Token.endToEnd_append, (rules.images_image t).contents]
    exact ⟨(rules.images_image t).endToEnd, ih hrest⟩

theorem ne_nil_flatMap (h : ∀ t ∈ tokens, t.text ≠ []) :
    ∀ p ∈ tokens.flatMap rules.image, p.text ≠ [] := by
  intro p hp
  obtain ⟨t, ht, hp⟩ := List.mem_flatMap.mp hp
  exact (rules.images_image t).ne_nil (h t ht) p hp

/-- Rewritten tokens tile what the tokens tile. -/
theorem apply_tile (h : Token.Tile start text tokens) :
    Token.Tile start text (rules.apply tokens) := by
  obtain ⟨hend, hne, rfl⟩ := Token.tile_iff.mp h
  rw [apply_eq_flatMap]
  exact Token.tile_iff.mpr
    ⟨endToEnd_flatMap hend, ne_nil_flatMap hne, rules.contents_flatMap tokens⟩

end Rewrite

/-! ## Tokens of a lexer -/

theorem Run.take_next (n : Nat) (r : Run) : Pull.take Run.next n r = r.rest.take n := by
  rw [← (pull_spec n r).1]
  induction n generalizing r with
  | zero => rfl
  | succ n ih =>
    rw [Pull.take, pull]
    rcases r.next with ⟨_ | token, r'⟩
    · rfl
    · exact congrArg (List.cons token) (ih r')

namespace Lexer

variable {l : Lexer} {text : Text} {tokens : List Token}

/-- The tokens of a lexer are those of a run, rewritten. -/
theorem run_of_tokens (h : l.tokens text = .ok tokens) :
    ∃ r, (Run.start l.library l.table l.initial text).map (·.withConfig l.config) = .ok r ∧
      l.stream text = .ok ⟨r, none⟩ ∧ tokens = l.rewrite.apply r.rest := by
  obtain ⟨run, hrun, htokens⟩ := bind_eq_ok_iff.mp h
  cases htokens
  exact ⟨run.withConfig l.config, map_eq_ok_iff.mpr ⟨run, hrun, rfl⟩,
    bind_eq_ok_iff.mpr ⟨run, hrun, rfl⟩, rfl⟩

theorem tokens_tile (h : l.tokens text = .ok tokens) : Token.Tile 0 text tokens := by
  obtain ⟨r, hr, -, rfl⟩ := run_of_tokens h
  exact Rewrite.apply_tile (Run.reads_start hr).whole

/-- Asked for its tokens one by one, a lexer gives the ones it gives all at once. -/
theorem take_stream (h : l.tokens text = .ok tokens) :
    ∃ stream, l.stream text = .ok stream ∧ ∀ n, l.next.take n stream = tokens.take n := by
  obtain ⟨r, -, hstream, rfl⟩ := run_of_tokens h
  refine ⟨_, hstream, fun n => ?_⟩
  rw [next, Rewrite.take_next, Run.take_next, Rewrite.apply_eq_flatMap, Option.toList_none,
    List.nil_append]
  exact take_flatMap l.rewrite.image_ne_nil r.rest n

end Lexer

/-- A rewritten stream gives, one after the other, what the first correction that applies
makes of each token by itself. So its tokens lie end to end, none is empty and their texts
are the same one, if that holds of the stream that is rewritten; and the tokens of a lexer,
asked for one by one or all at once, cover the prepared text. -/
theorem rewritten_tokenwise (rules : Rewrite) {σ : Type} (pull : Pull σ) (s : σ) :
    (∀ t pieces, rules.image t = pieces ↔ rules.Images t pieces) ∧
    (∀ n, (rules.next pull).take n ⟨s, none⟩ = ((pull.take n s).flatMap rules.image).take n) ∧
    (∀ start, (∀ n, Token.EndToEnd start (pull.take n s)) →
      ∀ n, Token.EndToEnd start ((rules.next pull).take n ⟨s, none⟩)) ∧
    ((∀ n, ∀ t ∈ pull.take n s, t.text ≠ []) →
      ∀ n, ∀ t ∈ (rules.next pull).take n ⟨s, none⟩, t.text ≠ []) ∧
    (∀ n, Token.contents ((rules.next pull).take n ⟨s, none⟩)
        <+: Token.contents (pull.take n s) ∧
      Token.contents (pull.take n s)
        <+: Token.contents ((rules.next pull).take (2 * n) ⟨s, none⟩)) ∧
    (∀ tokens, rules.apply tokens = tokens.flatMap rules.image ∧
      Token.contents (rules.apply tokens) = Token.contents tokens) ∧
    (∀ (l : Lexer) (text : Text) (tokens : List Token), l.tokens text = .ok tokens →
      Token.Cover text 0 text.size tokens ∧ Token.contents tokens = text ∧
      ∃ stream, l.stream text = .ok stream ∧ ∀ n, l.next.take n stream = tokens.take n) ∧
    (∀ (l : Lexer) (source : Text) (tokens : List Token), l.tokenize source = .ok tokens →
      Token.Cover (l.prepare source) 0 (l.prepare source).size tokens) := by
  have hbetween := rules.take_next_between pull s
  have hcover {l : Lexer} {text : Text} {tokens : List Token} (h : l.tokens text = .ok tokens) :
      Token.Cover text 0 text.size tokens :=
    (Lexer.tokens_tile h).cover (.refl _) (Cursor.ofText_passes text)
  refine ⟨fun _ _ => Rewrite.image_eq_iff, fun n => ?_, fun start h n => ?_, fun h n t ht => ?_,
    fun n => ?_, fun tokens => ?_, fun l text tokens h => ?_, fun l source tokens h => hcover h⟩
  · exact rules.take_next pull s none n
  · exact (Rewrite.endToEnd_flatMap (h n)).mono (hbetween n).1
  · exact Rewrite.ne_nil_flatMap (h n) t ((hbetween n).1.subset ht)
  · have hfirst := Token.contents_mono (hbetween n).1
    have hlast := Token.contents_mono (hbetween n).2
    rw [Rewrite.contents_flatMap] at hfirst hlast
    exact ⟨hfirst, hlast⟩
  · rw [rules.apply_eq_flatMap]
    exact ⟨rfl, rules.contents_flatMap tokens⟩
  · exact ⟨hcover h, (Token.tile_iff.mp (Lexer.tokens_tile h)).2.2, Lexer.take_stream h⟩

/-- Words and what is between them. -/
def wording : Grammar :=
  (Grammar.new "wording").state rootState
    [.rule ⟨some (.regex "[^ ]+".toList), .kind .name, []⟩]

/-- Words that are split in front of a character of two bytes, and one that is nothing else
than this character and gets another kind instead. -/
def splitting : Rewrite := [
  .splitLast .name ["ß".toList, "aß".toList] .keyword .operator,
  .retag .name ["ß".toList] .nameBuiltin]

theorem rewritten_tokenwise_splitting :
    splitting.Images ⟨0, .name, "ß".toList⟩ [⟨0, .nameBuiltin, "ß".toList⟩] ∧
    (∀ n, Token.EndToEnd 3
      ((splitting.next Pull.ofList).take n ⟨[⟨3, .name, "aß".toList⟩], none⟩)) ∧
    (∀ n, ∀ t ∈ (splitting.next Pull.ofList).take n ⟨[⟨3, .name, "aß".toList⟩], none⟩,
      t.text ≠ []) ∧
    ∃ table, wording.build [] = .ok table ∧
      ∃ tokens, { Lexer.new "wording" [] table with rewrite := splitting }.tokens "ß aß".toList
          = .ok tokens ∧
        tokens.map (fun t => (t.start, t.kind))
          = [(0, .nameBuiltin), (2, .error), (3, .keyword), (4, .operator)] ∧
        Token.Cover "ß aß".toList 0 6 tokens ∧
      ∃ tokens, { Lexer.new "wording" [] table with rewrite := splitting }.tokenize
          "\r\naß".toList = .ok tokens ∧ Token.Cover "aß\n".toList 0 4 tokens := by
  obtain ⟨himage, -, hend, hne, -, -, hcover, hsource⟩ :=
    rewritten_tokenwise splitting Pull.ofList [⟨3, .name, "aß".toList⟩]
  obtain ⟨table, htable, tokens, htokens, hkinds, tokens', htokens'⟩ : ∃ table,
      wording.build [] = .ok table ∧
      ∃ tokens, { Lexer.new "wording" [] table with rewrite := splitting }.tokens "ß aß".toList
          = .ok tokens ∧
        tokens.map (fun t => (t.start, t.kind))
          = [(0, .nameBuiltin), (2, .error), (3, .keyword), (4, .operator)] ∧
      ∃ tokens', { Lexer.new "wording" [] table with rewrite := splitting }.tokenize
          "\r\naß".toList = .ok tokens' := by
    decide +kernel
  refine ⟨(himage _ _).mp (by decide), hend 3 fun n => ?_, hne fun n t ht => ?_, table, htable,
    tokens, htokens, hkinds, (hcover _ _ _ htokens).1, tokens', htokens', ?_⟩
  · have hwhole : Token.EndToEnd 3 [⟨3, .name, "aß".toList⟩] := ⟨rfl, trivial⟩
    rw [Pull.take_ofList]
    exact hwhole.mono (List.take_prefix n _)
  · rw [Pull.take_ofList] at ht
    rw [List.mem_singleton.mp (List.mem_of_mem_take ht)]
    exact List.cons_ne_nil _ _
  · exact hsource _ _ _ htokens'

end TableLexer
