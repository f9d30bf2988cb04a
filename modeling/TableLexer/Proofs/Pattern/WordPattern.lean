import TableLexer.Proofs.Pattern.Pool
import TableLexer.Proofs.Pattern.Settled
import TableLexer.Proofs.Pattern.WordSet
import TableLexer.Proofs.Regex.Reader

/-!
# The pattern of a list of words

In the pattern of a list of words each character stands for itself or is escaped, so reading
meets no reference in it. What is read is the choice between the words, but for one thing: in
verbose mode white space is skipped also where it stands for itself, and it is not escaped.

Results:
1. `settled_escape`: a written word is settled.
2. `run_escape`: what is read of a written word.
3. `parse_written`: the pattern is read as the choice between the words.
-/

namespace TableLexer

open Regex Regex.Parser

/-! ## Definitions -/

namespace Regex.Mode

/-- What counts of a text in a pattern where each character stands for itself. -/
def visible (m : Mode) (word : Text) : Text :=
  if m.verbose then word.filter (!isBlank ·) else word

end Regex.Mode

namespace Regex.Expr

/-- Expressions combined, unless there is only one. -/
def together (combine : List Expr → Expr) : List Expr → Expr
  | [e] => e
  | es => combine es

/-- A word as a pattern, in the mode in force. -/
def word (m : Mode) (w : Text) : Expr :=
  together concat (w.map fun c => charSet (m.fold (.singleton c)))

/-- A choice between words. -/
def words (m : Mode) (ws : List Text) : Expr := together alternation (ws.map (word m))

end Regex.Expr

namespace WordList

variable {m : Mode} {s : State} {rest q : Text} {word : Text} {ws : List Text} {c : Char}

/-! ## Expansion -/

theorem isMeta_ne (h : Escape.isMeta c = false) : c ≠ '\\' ∧ c ≠ '\x7b' ∧ c ≠ '#' := by
  refine ⟨?_, ?_, ?_⟩ <;> rintro rfl <;> exact absurd h (by decide)

/-- A written word is settled. -/
theorem settled_escape (h : Settled q) : Settled (escape word ++ q) := by
  induction word with
  | nil => exact h
  | cons c word ih =>
    rw [escape_cons, List.append_assoc]
    cases hmeta : Escape.isMeta c with
    | true => exact .escaped ih
    | false => exact ih.cons (isMeta_ne hmeta).1 (isMeta_ne hmeta).2.1

theorem settled_join (h : Settled q) : Settled (join ['|'] (ws.map escape) ++ q) := by
  induction ws with
  | nil => exact h
  | cons w ws ih =>
    cases ws with
    | nil => exact settled_escape h
    | cons v ws =>
      rw [List.map_cons, List.map_cons, join, List.append_assoc, List.append_assoc]
      · exact settled_escape (ih.cons (by decide) (by decide))
      · exact List.cons_ne_nil _ _

/-! ## Reading -/

/-- A character that stands for itself, as an item. -/
def item (m : Mode) (c : Char) : Item := Item.leaf (literal m c)

/-- The reader when it has read a word. -/
def pushWord (s : State) (word : Text) : State :=
  { s with frame := { s.frame with items := (word.map (item s.mode)).reverse ++ s.frame.items } }

theorem run_literal {c : Char}
    (htoken : ∀ x, token? s.mode (q ++ x) = some (.item (literal s.mode c) 0, x))
    (hskip : ∀ x, s.mode.skip (q ++ x) = q ++ x) :
    run s (q ++ rest) = run (pushWord s [c]) rest := by
  have hne : s.mode.skip (q ++ rest) ≠ [] := by
    intro hnil
    have hbad := htoken rest
    rw [← hskip, hnil] at hbad
    cases hbad
  rw [run_cons hne, hskip, step_eq, htoken]
  rfl

theorem run_escaped (h : Escape.isMeta c = true) :
    run s ('\\' :: c :: rest) = run (pushWord s [c]) rest := by
  refine run_literal (q := ['\\', c]) (fun x => ?_)
    (fun x => s.mode.skip_graphic (by decide))
  have hescapable : Escape.isEscapable c = true := by simp [Escape.isEscapable, h]
  have hread : Escape.read s.mode (c :: x) = some (.char c false, x) := if_pos hescapable
  show (Escape.read s.mode (c :: x)).bind _ = _
  rw [hread]
  simp [ofEscape?, Escape.charAllowed]

theorem isSign_of_isMeta (h : Escape.isMeta c = false) : isSign c = false := by
  cases hsign : isSign c with
  | false => rfl
  | true =>
    have hmeta : ['(', ')', '|', '[', '?', '*', '+', '\x7b', '\\', '.', '^', '$'].all
        Escape.isMeta = true := by decide
    exact (List.all_eq_true.mp hmeta c (List.contains_iff_mem.mp hsign)).symm.trans h

theorem run_plain (h : Escape.isMeta c = false) (hskip : s.mode.verbose = true → isBlank c = false) :
    run s (c :: rest) = run (pushWord s [c]) rest := by
  refine run_literal (q := [c]) (fun x => token?_literal (isSign_of_isMeta h) x) fun x => ?_
  cases hv : s.mode.verbose with
  | true => exact s.mode.skip_cons (hskip hv) (isMeta_ne h).2.2
  | false => simp [Mode.skip, hv]

theorem run_blank (hv : s.mode.verbose = true) (h : isBlank c = true) :
    run s (c :: rest) = run s rest := by
  have hskip : s.mode.skip (c :: rest) = s.mode.skip rest := by
    simp [Mode.skip, hv, Mode.dropIgnored, h]
  rw [run_skip, hskip, ← run_skip]

theorem isBlank_of_isMeta (h : Escape.isMeta c = true) : isBlank c = false := by
  have hall : ['\\', '.', '+', '*', '?', '(', ')', '|', '[', ']', '\x7b', '\x7d', '^', '$', '#', '&',
      '-', '~'].all (fun d => 0x20 < d.toNat ∧ d.toNat < 0x7F) = true := by decide
  exact Unicode.isBlank_graphic
    (of_decide_eq_true (List.all_eq_true.mp hall c (List.contains_iff_mem.mp h)))

theorem visible_cons (m : Mode) (c : Char) (word : Text) :
    m.visible (c :: word) =
      if m.verbose && isBlank c then m.visible word else c :: m.visible word := by
  cases hv : m.verbose <;> cases hblank : isBlank c <;> simp [Mode.visible, hv, hblank]

theorem pushWord_cons (s : State) (c : Char) (word : Text) :
    pushWord (pushWord s [c]) word = pushWord s (c :: word) := by
  simp [pushWord]

/-- Of a written word all characters are read, in verbose mode all but white space. -/
theorem run_escape (s : State) (word rest : Text) :
    run s (escape word ++ rest) = run (pushWord s (s.mode.visible word)) rest := by
  induction word generalizing s with
  | nil => cases hv : s.mode.verbose <;> simp [escape, pushWord, Mode.visible, hv]
  | cons c word ih =>
    rw [escape_cons, List.append_assoc, visible_cons]
    cases hmeta : Escape.isMeta c with
    | true =>
      rw [isBlank_of_isMeta hmeta, Bool.and_false, if_neg Bool.false_ne_true, ← pushWord_cons]
      exact (run_escaped hmeta).trans (ih _)
    | false =>
      rw [if_neg Bool.false_ne_true]
      split
      · next hand =>
        obtain ⟨hv, hblank⟩ := Bool.and_eq_true_iff.mp hand
        exact (run_blank hv hblank).trans (ih s)
      · next hand =>
        rw [← pushWord_cons]
        exact (run_plain hmeta fun hv => by simpa [hv] using hand).trans (ih _)

theorem run_bar (s : State) (rest : Text) :
    run s ('|' :: rest) = run { s with frame := s.frame.endChoice } rest := by
  have hskip : s.mode.skip ('|' :: rest) = '|' :: rest :=
    s.mode.skip_graphic (by decide)
  rw [run_cons (by rw [hskip]; exact List.cons_ne_nil _ _), hskip]
  rfl

/-- A word that has been read, as one item. -/
def wordItem (m : Mode) (word : Text) : Item :=
  Item.sequence ((m.visible word).map (item m)).reverse

/-- After the words of a list the group holds the choice between them. -/
theorem run_join (hws : ws ≠ []) (hitems : s.frame.items = []) (rest : Text) :
    ∃ f : Frame, run s (join ['|'] (ws.map escape) ++ rest) = run { s with frame := f } rest ∧
      f.number = s.frame.number ∧ f.outer = s.frame.outer ∧
      f.body = Item.choice ((ws.map (wordItem s.mode)).reverse ++ s.frame.choices) := by
  induction ws generalizing s with
  | nil => exact absurd rfl hws
  | cons w ws ih =>
    cases ws with
    | nil =>
      refine ⟨(pushWord s (s.mode.visible w)).frame, run_escape s w rest, rfl, rfl, ?_⟩
      simp [Frame.body, pushWord, hitems, wordItem]
    | cons v ws =>
      let t := pushWord s (s.mode.visible w)
      have hjoin : join ['|'] ((w :: v :: ws).map escape) ++ rest =
          escape w ++ '|' :: (join ['|'] ((v :: ws).map escape) ++ rest) := by
        rw [List.map_cons, List.map_cons, join, List.append_assoc, List.append_assoc]
        · rfl
        · exact List.cons_ne_nil _ _
      obtain ⟨f, hrun, hnumber, houter, hbody⟩ := ih (s := { t with frame := t.frame.endChoice })
        (List.cons_ne_nil v ws) rfl
      refine ⟨f, ?_, hnumber, houter, hbody.trans ?_⟩
      · rw [hjoin, run_escape, run_bar]
        exact hrun
      · simp [t, Frame.endChoice, pushWord, hitems, wordItem]

/-! ## Trees -/

theorem foldl_max_le {heights : List Nat} {least n : Nat} (hleast : least ≤ n)
    (h : ∀ k ∈ heights, k ≤ n) : heights.foldl max least ≤ n := by
  induction heights generalizing least with
  | nil => exact hleast
  | cons k heights ih =>
    obtain ⟨hk, hheights⟩ := List.forall_mem_cons.mp h
    exact ih (Nat.max_le.mpr ⟨hleast, hk⟩) hheights

theorem height_together_le {combine : List Tree → Tree} {items : List Item} {n : Nat}
    (h : ∀ i ∈ items, i.height ≤ n) : (Item.together combine items).height ≤ 1 + n := by
  unfold Item.together
  split
  · exact Nat.zero_le _
  · next i => exact Nat.le_trans (h i (List.mem_singleton_self i)) (Nat.le_add_left _ _)
  · exact Nat.add_le_add_left (foldl_max_le (Nat.zero_le _) (by simpa using h)) 1

theorem toExprs_eq (trees : List Tree) : Tree.toExprs trees = trees.map Tree.toExpr := by
  induction trees with
  | nil => rfl
  | cons t trees ih => rw [Tree.toExprs, ih, List.map_cons]

theorem together_eq {combine : List Expr → Expr} {es : List Expr} (h : es.length ≠ 1) :
    Expr.together combine es = combine es := by
  unfold Expr.together
  split
  · exact absurd rfl h
  · rfl

/-- Items taken together in a tree are their expressions taken together, if the trees are. -/
theorem toExpr_together {combine : List Tree → Tree} {build : List Expr → Expr}
    {items : List Item} (hcombine : ∀ trees, (combine trees).toExpr = build (Tree.toExprs trees))
    (hnil : items = [] → build [] = .empty) :
    (Item.together combine items).tree.toExpr =
      Expr.together build (items.reverse.map (·.tree.toExpr)) := by
  unfold Item.together
  split
  · exact (hnil rfl).symm
  · rfl
  · next hmany =>
    have hlength : (items.reverse.map (·.tree.toExpr)).length ≠ 1 := by
      simpa [List.length_eq_one_iff] using hmany
    rw [together_eq hlength, hcombine, toExprs_eq, List.map_map]
    rfl

theorem toExpr_wordItem (m : Mode) (word : Text) :
    (wordItem m word).tree.toExpr = Expr.word m (m.visible word) := by
  rw [wordItem, Item.sequence, toExpr_together (fun _ => rfl) (fun _ => rfl), List.reverse_reverse,
    List.map_map]
  rfl

/-- The choice between the words of a list, as an item. -/
def choiceItem (m : Mode) (ws : List Text) : Item := Item.choice (ws.map (wordItem m)).reverse

theorem toExpr_choiceItem (m : Mode) (h : ws ≠ []) :
    (choiceItem m ws).tree.toExpr = Expr.words m (ws.map m.visible) := by
  have hwords : (ws.map (wordItem m)).reverse ≠ [] := by simpa using h
  rw [choiceItem, Item.choice, toExpr_together (fun _ => rfl) (absurd · hwords),
    List.reverse_reverse, List.map_map, Expr.words, List.map_map]
  simp only [Function.comp_def, toExpr_wordItem]

theorem height_choiceItem (m : Mode) (ws : List Text) : (choiceItem m ws).height ≤ 2 := by
  have hitem : ∀ word, (wordItem m word).height ≤ 1 := by
    intro word
    refine height_together_le (n := 0) fun i hi => ?_
    obtain ⟨c, -, rfl⟩ := List.mem_map.mp (List.mem_reverse.mp hi)
    exact Nat.le_refl _
  refine height_together_le (n := 1) fun i hi => ?_
  obtain ⟨word, -, rfl⟩ := List.mem_map.mp (List.mem_reverse.mp hi)
  exact hitem word

/-! ## The pattern -/

/-- What the reader has when it has read the group of a word list. -/
def afterWords (m : Mode) (ws : List Text) : State :=
  (State.start m).push ⟨(choiceItem m ws).tree, 1 + (choiceItem m ws).height, false⟩

theorem run_words (m : Mode) (h : ws ≠ []) (back : Text) :
    run (State.start m) ("(?:".toList ++ join ['|'] (ws.map escape) ++ ')' :: back)
      = run (afterWords m ws) back := by
  let s := (State.start m).under [(State.start m).frame]
  obtain ⟨f, hrun, hnumber, houter, hbody⟩ := run_join (s := s) h rfl (')' :: back)
  have hopen : run (State.start m) ("(?:".toList ++ join ['|'] (ws.map escape) ++ ')' :: back)
      = run s (join ['|'] (ws.map escape) ++ ')' :: back) := by
    rw [← run_group, List.append_assoc]
    rfl
  have hclose := run_close (s := { State.start m with frame := f }) (f := (State.start m).frame) rfl
    hnumber back
  have hchoice : f.body = choiceItem m ws := hbody.trans (congrArg _ (List.append_nil _))
  have hmode : f.outer = m := houter
  rw [hopen, hrun]
  refine hclose.trans ?_
  show run { State.start m with
    frame := (State.start m).frame.push ⟨f.body.tree, 1 + f.body.height, false⟩
    mode := f.outer } back = _
  rw [hchoice, hmode]
  rfl

/-- The pattern that matches one of the words, in the given order, in front of another. -/
def written (ws : List Text) (back : Text) : Text :=
  "(?:".toList ++ join ['|'] (ws.map escape) ++ ')' :: back

theorem settled_written {back : Text} (h : Settled back) : Settled (written ws back) := by
  have hgroup : Settled ("(?:".toList ++ (join ['|'] (ws.map escape) ++ ')' :: back)) :=
    (((settled_join (h.cons (by decide) (by decide))).cons (c := ':') (by decide) (by decide)).cons
      (c := '?') (by decide) (by decide)).cons (c := '(') (by decide) (by decide)
  rwa [written, List.append_assoc]

theorem parse_written (m : Mode) (h : ws ≠ []) :
    parse m (written ws []) = some (choiceItem m ws).tree := by
  have hheight := height_choiceItem m ws
  rw [parse_eq, written, run_words m h, run_nil (Mode.skip_closes _ closes_nil)]
  refine State.finish?_eq_some.mpr ⟨rfl, ?_, rfl⟩
  show 1 + (choiceItem m ws).height ≤ maxHeight
  rw [maxHeight]
  omega

theorem parse_written_boundary (m : Mode) (h : ws ≠ []) :
    parse m (written ws "\\b".toList) =
      some (.sequence [(choiceItem m ws).tree, .look (.wordBoundary (Escape.alphabet m))]) := by
  have hheight := height_choiceItem m ws
  have hrun : run (afterWords m ws) "\\b".toList =
      some ((afterWords m ws).push (Item.leaf (.look (.wordBoundary (Escape.alphabet m))))) := by
    have hskip : (afterWords m ws).mode.skip "\\b".toList = "\\b".toList :=
      Mode.skip_graphic _ (by decide)
    rw [run_cons (by rw [hskip]; decide), hskip]
    exact run_nil (Mode.skip_closes _ closes_nil)
  rw [parse_eq, written, run_words m h, hrun]
  refine State.finish?_eq_some.mpr ⟨rfl, ?_, rfl⟩
  show 1 + max (max 0 0) (1 + (choiceItem m ws).height) ≤ maxHeight
  rw [maxHeight]
  omega

end WordList

end TableLexer
