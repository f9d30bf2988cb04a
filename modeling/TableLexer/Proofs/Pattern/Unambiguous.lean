import TableLexer.Proofs.Pattern.Pool
import TableLexer.Proofs.Pattern.Reference
import TableLexer.Proofs.Pattern.Settled
import TableLexer.Proofs.Regex.Reader

/-!
# Where a pattern may look like a reference

A pattern that can be compiled as it stands hardly ever has an unescaped brace with a colon
behind it, where expansion would see a reference: a repetition has to begin with a digit, and
so has a character in braces, and no class has a name that begins with a colon. It has one only
in a class in brackets or in a comment, where any character may stand. A pattern without one
is left as it is and compiles to the same matcher.

Results:
1. `Crosses.split`: what becomes of the beginning of a reference when reading goes on.
2. `Pool.Arises.compile_unreferring`: where such a beginning stands, and what is compiled.
-/

namespace TableLexer

open Regex

/-! ## Definitions -/

/-- The text begins a reference at its place in the pattern: a brace and a colon are in front of
it, and no backslash escapes the brace. -/
def OpensAt (p post : Text) : Prop :=
  ∃ pre, p = pre ++ '\x7b' :: ':' :: post ∧ backslashes pre % 2 = 0

namespace Regex.Parser

/-- The reader comes to the text when it reads the pattern. -/
inductive Comes (m : Mode) (p : Text) : State → Text → Prop
  | start : Comes m p (State.start m) p
  | step {s s' : State} {rest rest' : Text} (h : Comes m p s rest)
      (hs : step s (s.mode.skip rest) = some (s', rest')) : Comes m p s' rest'

/-- The end of the pattern begins inside of a class in brackets, which is read up to a place
behind. -/
def BeginsInClass (m : Mode) (p tail : Text) : Prop :=
  ∃ s rest inner part after, Comes m p s rest ∧ s.mode.skip rest = '[' :: inner ∧
    Bracket.read s.mode inner = some (part, after) ∧ tail <:+ inner ∧ after.length < tail.length

/-- The end of the pattern begins inside of a comment. -/
def BeginsInComment (m : Mode) (p tail : Text) : Prop :=
  ∃ s rest body, Comes m p s rest ∧ s.mode.verbose = true ∧ '\n' ∉ body ∧
    Crosses true false rest ('#' :: (body ++ tail))

end Regex.Parser

/-! ## Backslashes -/

/-- What stands in front of another character does not count. -/
theorem backslashes_append (text rest : Text) {c : Char} (hc : c ≠ '\\') :
    backslashes (text ++ c :: rest) = backslashes rest := by
  simp only [backslashes, List.reverse_append, List.reverse_cons, List.append_assoc,
    List.singleton_append, List.takeWhile_append, List.takeWhile_cons, hc]
  split
  · next hall => simp [hall]
  · rfl

/-- An escape in front counts with both of its characters or not at all. -/
theorem backslashes_escape (c : Char) (text : Text) :
    backslashes ('\\' :: c :: text) % 2 = backslashes text % 2 := by
  have hle := Settled.backslashes_le text
  simp only [Settled.backslashes_cons, List.length_cons]
  grind

namespace Settled

/-- A text is settled if a backslash that is not escaped itself stands before every opening of a
reference. -/
theorem of_odd {q : Text}
    (h : ∀ pre rest, q = pre ++ '\x7b' :: ':' :: rest → backslashes pre % 2 = 1) : Settled q := by
  induction hlen : q.length using Nat.strongRecOn generalizing q with
  | _ length ih =>
  subst hlen
  match q with
  | [] => exact .nil
  | c :: q =>
    by_cases hc : c = '\\'
    · subst hc
      match q with
      | [] => exact .backslash
      | d :: q =>
        refine .escaped (ih q.length (Nat.lt_add_of_pos_right (k := 2) (by decide)) ?_ rfl)
        rintro pre rest rfl
        rw [← backslashes_escape d]
        exact h ('\\' :: d :: pre) rest rfl
    · refine .plain hc ?_ (ih q.length (Nat.lt_succ_self _) ?_ rfl)
      · rintro ⟨rest, hopen⟩
        exact absurd (h [] rest hopen) (by decide)
      · rintro pre rest rfl
        have hodd := h (c :: pre) rest rfl
        rwa [Settled.backslashes_cons, if_neg fun hand => hc hand.2] at hodd

end Settled

theorem settled_iff {q : Text} : Settled q ↔ ∀ post, ¬ OpensAt q post := by
  constructor
  · rintro h post ⟨pre, hq, heven⟩
    rw [h.odd hq] at heven
    cases heven
  · intro h
    refine .of_odd fun pre rest hq => ?_
    exact Nat.mod_two_ne_zero.mp fun heven => h rest ⟨pre, hq, heven⟩

/-! ## Openings on the way -/

namespace Regex

/-- What becomes of the beginning of a reference in the text `p`, with `post` behind it and not
escaped, where the reader goes on to the text `q`. -/
inductive Crosses.Splits (v l : Bool) (p q post : Text) : Prop
  /-- The reader has yet to come to it. -/
  | ahead {mid : Text} (hq : q = mid ++ '\x7b' :: ':' :: post) (heven : backslashes mid % 2 = 0) :
      Splits v l p q post
  /-- The reader has gone on into the text behind, as it may in a class. -/
  | inClass (hlt : q.length < ('\x7b' :: ':' :: post).length) (hl : l = true) : Splits v l p q post
  /-- It stands in a comment, over which the reader has gone. -/
  | inComment {body : Text} (hlt : q.length < ('\x7b' :: ':' :: post).length) (hv : v = true)
      (hbody : '\n' ∉ body) (h : Crosses v l p ('#' :: (body ++ '\x7b' :: ':' :: post))) :
      Splits v l p q post

/-- What is crossed in front changes nothing. -/
theorem Crosses.Splits.front {v l : Bool} {p p' q post : Text}
    (hfront : ∀ r, Crosses v l p r → Crosses v l p' r) (h : Splits v l p q post) :
    Splits v l p' q post := by
  cases h with
  | ahead hq heven => exact .ahead hq heven
  | inClass hlt hl => exact .inClass hlt hl
  | inComment hlt hv hbody h => exact .inComment hlt hv hbody (hfront _ h)

/-- Where the reader goes over a text in which a reference begins unescaped, it comes to that
place, or it goes on into the text behind: in a class, or over a comment, which ends before that
place or has it inside. -/
theorem Crosses.split {v l : Bool} {p q pre post : Text} (h : Crosses v l p q)
    (hp : p = pre ++ '\x7b' :: ':' :: post) (heven : backslashes pre % 2 = 0) :
    Splits v l p q post := by
  induction h generalizing pre with
  | refl => exact .ahead hp heven
  | @plain c rest q hc ho hcross ih =>
    match pre with
    | [] =>
      refine .inClass ?_ (ho.resolve_right fun hopen => hopen ⟨post, hp⟩)
      obtain rfl : rest = ':' :: post := (List.cons.inj hp).2
      exact Nat.lt_succ_of_le hcross.suffix.length_le
    | d :: pre =>
      obtain ⟨hd, hrest⟩ := List.cons.inj hp
      rw [Settled.backslashes_cons, if_neg fun hand => hc (hd.trans hand.2)] at heven
      exact (ih hrest heven).front fun _ => .plain hc ho
  | @escaped c rest q hcross ih =>
    match pre with
    | [] => cases hp
    | [d] =>
      rw [← (List.cons.inj hp).1] at heven
      exact absurd heven (by decide)
    | d :: e :: pre =>
      obtain ⟨hd, hrest⟩ := List.cons.inj hp
      obtain ⟨-, hrest⟩ := List.cons.inj hrest
      rw [← hd, backslashes_escape] at heven
      exact (ih hrest heven).front fun _ => .escaped
  | @comment body rest q hv hbody hcross ih =>
    match pre with
    | [] => cases hp
    | d :: pre =>
      obtain ⟨hd, hrest⟩ := List.cons.inj hp
      rcases List.append_eq_append_iff.mp hrest with ⟨more, hpre, hmore⟩ | ⟨more, hpre, hmore⟩
      · match more with
        | [] => cases hmore
        | n :: more =>
          obtain ⟨hn, hrest⟩ := List.cons.inj hmore
          have hfront : d :: pre = ('#' :: body) ++ '\n' :: more := by rw [← hd, hpre, ← hn]; rfl
          rw [hfront, backslashes_append _ _ (by decide)] at heven
          exact (ih hrest heven).front fun _ => .comment hv hbody
      · match more with
        | [] => cases hmore
        | n :: more =>
          refine .inComment ?_ hv (fun hmem => hbody (hpre ▸ List.mem_append_left _ hmem)) ?_
          · have hq := hcross.suffix.length_le
            have hlong := congrArg List.length hmore
            simp only [List.length_append, List.length_cons] at hlong ⊢
            omega
          · rw [hp, ← hd]
            exact .refl _
  | @openComment body hv hbody =>
    match pre with
    | [] => cases hp
    | d :: pre =>
      obtain ⟨hd, hrest⟩ := List.cons.inj hp
      refine .inComment (Nat.zero_lt_succ _) hv
        (fun hmem => hbody (hrest ▸ List.mem_append_left _ hmem)) ?_
      rw [hp, ← hd]
      exact .refl _

namespace Parser

variable {m : Mode} {p : Text} {s s' : State} {rest after mid post : Text} {token : Token}

/-- A class has inside what the reader goes beyond when it reads the class. -/
theorem Comes.inClass (h : Comes m p s rest) (hclass : (s.mode.skip rest).head? = some '[')
    (htoken : token? s.mode (s.mode.skip rest) = some (token, after))
    (hmid : s.mode.skip rest = mid ++ '\x7b' :: ':' :: post)
    (hlt : after.length < ('\x7b' :: ':' :: post).length) :
    BeginsInClass m p ('\x7b' :: ':' :: post) := by
  obtain ⟨inner, hinner⟩ := List.head?_eq_some_iff.mp hclass
  rw [hinner] at htoken hmid
  obtain ⟨⟨part, after'⟩, hpart, hx⟩ := Option.map_eq_some_iff.mp htoken
  cases hx
  refine ⟨s, rest, inner, part, after', h, hinner, hpart, ?_, hlt⟩
  match mid with
  | [] => cases hmid
  | d :: mid => exact ⟨mid, (List.cons.inj hmid).2.symm⟩

/-- The beginning of a reference in a pattern that can be read stands in a class or in a
comment. What reads as a comment is one of the pattern, unless it is part of a class. -/
theorem Comes.hides {pre : Text} (h : Comes m p s rest) (hrun : run s rest = some s')
    (hrest : rest = pre ++ '\x7b' :: ':' :: post) (heven : backslashes pre % 2 = 0) :
    BeginsInClass m p ('\x7b' :: ':' :: post) ∨ BeginsInComment m p ('\x7b' :: ':' :: post) := by
  induction hlen : rest.length using Nat.strongRecOn generalizing s rest pre with
  | _ length ih =>
  subst hlen
  have hskips := (s.mode.takes_skip false rest).crosses
  rcases hskips.split hrest heven with ⟨hmid, hmideven⟩ | ⟨-, hl⟩ | ⟨-, hv, hbody, hcross⟩
  · have hne : s.mode.skip rest ≠ [] := by simp [hmid]
    rw [run_cons hne] at hrun
    obtain ⟨⟨s₁, after⟩, hstep, hrun⟩ := Option.bind_eq_some_iff.mp hrun
    obtain ⟨token, htoken, -⟩ := step_eq_some hstep
    have htakes := (takes_token? htoken).1
    rcases htakes.crosses.split hmid hmideven with
      ⟨hafter, heven'⟩ | ⟨hlt, hl⟩ | ⟨hlt, hv, hbody, hcross⟩
    · have hle := s.mode.length_skip_le rest
      exact ih _ (Nat.lt_of_lt_of_le (length_lt_of_step hstep) hle) (.step h hstep) hrun hafter
        heven' rfl
    · exact .inl (h.inClass (of_decide_eq_true hl) htoken hmid hlt)
    by_cases hclass : (s.mode.skip rest).head? = some '['
    · exact .inl (h.inClass hclass htoken hmid hlt)
    · rw [decide_eq_false hclass, hv] at hcross
      exact .inr ⟨s, rest, _, h, hv, hbody, (hv ▸ hskips).trans hcross⟩
  · cases hl
  · exact .inr ⟨s, rest, _, h, hv, hbody, hv ▸ hcross⟩

end Parser

end Regex

variable {flags : PatternFlags} {f : Fragments} {p : Text} {m : Matcher}

theorem Matcher.opens_hidden {post : Text} (hm : Matcher.compile p flags = .ok m)
    (h : OpensAt p post) :
    Regex.Parser.BeginsInClass flags.mode p ('\x7b' :: ':' :: post) ∨
      Regex.Parser.BeginsInComment flags.mode p ('\x7b' :: ':' :: post) := by
  obtain ⟨regex, hregex, -⟩ := compile_eq_ok_iff.mp hm
  obtain ⟨tree, htree, -⟩ := Option.map_eq_some_iff.mp hregex
  obtain ⟨s, hrun, -⟩ := Option.bind_eq_some_iff.mp htree
  obtain ⟨pre, hp, heven⟩ := h
  exact Regex.Parser.Comes.start.hides hrun hp heven

/-- In a pattern that can be compiled as it stands, what looks like the beginning of a reference
stands in a class in brackets or in a comment. Exactly the patterns in which there is none are
left by expansion as they are, and exactly they are compiled unchanged. -/
theorem Pool.Arises.compile_unreferring {pool : Pool} (hp : pool.Arises flags f)
    (hm : Matcher.compile p flags = .ok m) :
    (∀ post, OpensAt p post →
      Regex.Parser.BeginsInClass flags.mode p ('\x7b' :: ':' :: post) ∨
        Regex.Parser.BeginsInComment flags.mode p ('\x7b' :: ':' :: post)) ∧
      (f.expand p = .ok p ↔ ∀ post, ¬ OpensAt p post) ∧
      ((∃ slot q, pool.compile p = .ok (⟨slot, m⟩, q)) ↔ ∀ post, ¬ OpensAt p post) := by
  have hexpand : f.expand p = .ok p ↔ ∀ post, ¬ OpensAt p post :=
    Fragments.expand_eq_self.trans settled_iff
  refine ⟨fun post => Matcher.opens_hidden hm, hexpand, ?_⟩
  rw [hp.compile_iff, ← hexpand]
  constructor
  · rintro ⟨expanded, hexpanded, hm'⟩
    have hsame : p = expanded := (pattern_of_compile hm).symm.trans (pattern_of_compile hm')
    rwa [← hsame] at hexpanded
  · exact fun h => ⟨p, h, hm⟩

/-- A repetition, an escaped brace with a colon, and a class with both in the other order. -/
theorem Pool.Arises.compile_unreferring_braces :
    let p := "a\x7b2,3\x7d\\\x7b:[:\x7b]".toList
    ∃ m, Matcher.compile p .standard = .ok m ∧
      ∃ slot q, (Pool.new .standard .empty).compile p = .ok (⟨slot, m⟩, q) := by
  intro p
  have hok : Succeeds (Matcher.compile p .standard) := by decide +kernel
  obtain ⟨m, hm⟩ := hok
  have hall := compile_unreferring (f := .empty) .new hm
  exact ⟨m, hm, hall.2.2.mpr (hall.2.1.mp (by decide +kernel))⟩

/-- A class of a brace and a colon compiles as it stands, but is no pattern for a pool. -/
theorem not_compile_unreferring_class :
    Succeeds (Matcher.compile "[\x7b:]".toList .standard) ∧
      Fragments.empty.expand "[\x7b:]".toList = .error (.unterminatedFragment "[\x7b:]".toList) ∧
      ¬ Succeeds ((Pool.new .standard .empty).compile "[\x7b:]".toList) := by
  decide +kernel

end TableLexer
