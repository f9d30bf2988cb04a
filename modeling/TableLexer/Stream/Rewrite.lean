import TableLexer.Token

/-!
# Rewriting tokens

Corrections by word: a token of a certain kind whose text is one of certain words
gets another kind, or is split in front of its last character. The first
correction that applies to a token is made, and what it makes is not corrected
again. Offsets and text stay as they are.

Tokens are rewritten as they are asked for. The second half of a token that has
been split is held back until the next time.
-/

namespace TableLexer

/-! ## Streams of tokens -/

/-- A way to ask for tokens: the next one, unless the stream has ended, and what is
left of the stream. -/
abbrev Pull (σ : Type) := σ → Option Token × σ

namespace Pull

/-- Asks a list for its tokens. -/
def ofList : Pull (List Token)
  | [] => (none, [])
  | t :: tokens => (some t, tokens)

/-- The first `n` tokens of a stream, or all of them if it ends before. -/
def take {σ : Type} (pull : Pull σ) : (n : Nat) → σ → List Token
  | 0, _ => []
  | n + 1, s =>
      match pull s with
      | (none, _) => []
      | (some t, s) => t :: take pull n s

end Pull

/-! ## Corrections -/

/-- A correction of the tokens of the kind `source` with one of the given texts. -/
inductive RewriteRule where
  | retag (source : Kind) (words : List Text) (target : Kind)
  | splitLast (source : Kind) (words : List Text) (head tail : Kind)
  deriving DecidableEq, Repr

/-- What a rule makes of a token, if it applies: a token, and a second one if it splits.
A token of one character cannot be split. -/
def RewriteRule.outcome? : RewriteRule → Token → Option (Token × Option Token)
  | .retag source words target, t =>
      if t.kind = source && words.contains t.text then some (t.withKind target, none) else none
  | .splitLast source words head tail, t =>
      if t.kind = source && words.contains t.text then
        let front := t.text.dropLast
        if front.isEmpty then none
        else
          some (⟨t.start, head, front⟩,
            some ⟨t.start + Text.size front, tail, t.text.drop front.length⟩)
      else none

/-- Corrections in the order in which they are tried. -/
abbrev Rewrite := List RewriteRule

/-- A stream that is being rewritten: what is left of it, and the second half of a split
token that has not been asked for yet. -/
structure Rewritten (σ : Type) where
  inner : σ
  held : Option Token

namespace Rewrite

/-- What the first rule that applies makes of a token. -/
def outcome (rules : Rewrite) (t : Token) : Token × Option Token :=
  (rules.findSome? fun rule => rule.outcome? t).getD (t, none)

/-- Asks a stream that is being rewritten for its next token. -/
def next {σ : Type} (rules : Rewrite) (pull : Pull σ) : Pull (Rewritten σ) := fun s =>
  match s.held with
  | some t => (some t, { s with held := none })
  | none =>
      match pull s.inner with
      | (none, inner) => (none, { s with inner })
      | (some t, inner) =>
          let (first, second) := rules.outcome t
          (some first, ⟨inner, second⟩)

/-- The tokens of a list, rewritten. No token becomes more than two. -/
def apply (rules : Rewrite) (tokens : List Token) : List Token :=
  (rules.next Pull.ofList).take (2 * tokens.length) ⟨tokens, none⟩

end Rewrite

end TableLexer
