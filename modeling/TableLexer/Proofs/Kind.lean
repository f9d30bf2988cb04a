import Mathlib.Data.List.Nodup
import TableLexer.Kind

/-!
# How kinds are written

A kind may be written as its path, from the root, and, if it is a string or a number, with the
segment `Literal` that its path leaves out. A reader drops what may stand before a path as plain
text, without looking at segments, and searches for what is left. It is exact all the same: no
path begins like one from the root, and the paths that begin with `String` or `Number` are those
of the strings and the numbers.

Results:
1. `ofPath?_eq_some_iff`: different kinds have different paths.
2. `dropLiteral_eq_iff`, `spelled_iff`: which texts are left as a path.
3. `parse_spelled`: the texts that are read are those that spell a kind, and a text spells one
   kind at most.
-/

namespace TableLexer.Kind

variable {kind kind' : Kind} {text : Text}

/-- The kind falls under one of the two whose paths leave out the segment `Literal`. -/
def Shortened (kind : Kind) : Prop := kind.isA .string = true ∨ kind.isA .number = true

instance (kind : Kind) : Decidable kind.Shortened := inferInstanceAs (Decidable (_ ∨ _))

/-- The ways to write a kind. -/
inductive Spelled (kind : Kind) : Text → Prop
  | path : Spelled kind kind.path.toList
  | rooted : Spelled kind ("Token.".toList ++ kind.path.toList)
  /-- The segment is written only where the path leaves it out. -/
  | literal (h : kind.Shortened) : Spelled kind ("Literal.".toList ++ kind.path.toList)
  | full (h : kind.Shortened) : Spelled kind ("Token.Literal.".toList ++ kind.path.toList)

/-! ## Paths -/

theorem nodup_paths : (all.map path).Nodup := by
  simp [all, path]

theorem path_injective (h : kind.path.toList = kind'.path.toList) : kind = kind' :=
  List.inj_on_of_nodup_map nodup_paths (mem_all kind) (mem_all kind') (String.toList_injective h)

theorem ofPath?_eq_some_iff : ofPath? text = some kind ↔ text = kind.path.toList := by
  have hpath : ∀ {kind}, ofPath? text = some kind → text = kind.path.toList := by
    intro kind h
    have hfound := List.find?_some h
    exact (beq_iff_eq.mp hfound).symm
  refine ⟨hpath, fun h => ?_⟩
  have hsome : (ofPath? text).isSome :=
    List.find?_isSome.mpr ⟨kind, mem_all kind, beq_iff_eq.mpr h.symm⟩
  obtain ⟨found, hfound⟩ := Option.isSome_iff_exists.mp hsome
  rw [hfound, path_injective ((hpath hfound).symm.trans h)]

/-! ## What stands before a path -/

/-- The text from below the root. -/
def dropRoot (text : Text) : Text := (text.dropLead? "Token.".toList).getD text

/-- What the first characters of a path tell: it does not begin like one from the root, no
segment is dropped from it, and what it begins with is what the kind falls under. -/
theorem path_begins : ∀ kind ∈ all, Text.dropLead? kind.path.toList "Token.".toList = none ∧
    dropLiteral kind.path.toList = kind.path.toList ∧
    ((Text.startsWith kind.path.toList "String".toList ||
      Text.startsWith kind.path.toList "Number".toList) = true ↔ kind.Shortened) := by
  decide +kernel

theorem dropRoot_path (kind : Kind) : dropRoot kind.path.toList = kind.path.toList := by
  rw [dropRoot, (path_begins kind (mem_all kind)).1, Option.getD_none]

theorem dropLiteral_path (kind : Kind) : dropLiteral kind.path.toList = kind.path.toList :=
  (path_begins kind (mem_all kind)).2.1

theorem startsWith_iff_shortened (kind : Kind) :
    (Text.startsWith kind.path.toList "String".toList ||
      Text.startsWith kind.path.toList "Number".toList) = true ↔ kind.Shortened :=
  (path_begins kind (mem_all kind)).2.2

theorem dropLiteral_eq_iff : dropLiteral text = kind.path.toList ↔
    text = kind.path.toList ∨ kind.Shortened ∧ text = "Literal.".toList ++ kind.path.toList := by
  constructor
  · intro h
    unfold dropLiteral at h
    split at h
    · next rest hrest =>
      split at h
      · next hstarts =>
        subst h
        exact .inr ⟨(startsWith_iff_shortened kind).mp hstarts,
          Text.dropLead?_eq_some_iff.mp hrest⟩
      · exact .inl h
    · exact .inl h
  · rintro (rfl | ⟨hk, rfl⟩)
    · exact dropLiteral_path kind
    · rw [dropLiteral, Text.dropLead?_eq_some_iff.mpr rfl]
      exact if_pos ((startsWith_iff_shortened kind).mpr hk)

/-- The texts of which a path is left are the spellings of its kind. -/
theorem spelled_iff : kind.Spelled text ↔ dropLiteral (dropRoot text) = kind.path.toList := by
  have hroot : ∀ rest : Text, dropRoot ("Token.".toList ++ rest) = rest := fun rest => by
    rw [dropRoot, Text.dropLead?_eq_some_iff.mpr rfl, Option.getD_some]
  constructor
  · intro h
    cases h with
    | path =>
      rw [dropRoot_path]
      exact dropLiteral_path kind
    | rooted =>
      rw [hroot]
      exact dropLiteral_path kind
    | literal hk => exact dropLiteral_eq_iff.mpr (.inr ⟨hk, rfl⟩)
    | full hk =>
      rw [show "Token.Literal.".toList = "Token.".toList ++ "Literal.".toList from rfl,
        List.append_assoc, hroot]
      exact dropLiteral_eq_iff.mpr (.inr ⟨hk, rfl⟩)
  · intro h
    unfold dropRoot at h
    cases hlead : text.dropLead? "Token.".toList with
    | none =>
      rw [hlead] at h
      rcases dropLiteral_eq_iff.mp h with rfl | ⟨hk, rfl⟩
      · exact .path
      · exact .literal hk
    | some rest =>
      rw [hlead] at h
      obtain rfl := Text.dropLead?_eq_some_iff.mp hlead
      rcases dropLiteral_eq_iff.mp h with rfl | ⟨hk, rfl⟩
      · exact .rooted
      · exact .full hk

/-- Segments are dropped once each, and a segment may be dropped before what is no path. -/
example :
    ["Literal.Literal.Date", "Token.Token.Text", "Literal.Stringx"].map
        (fun text => dropLiteral (dropRoot text.toList))
      = ["Literal.Literal.Date".toList, "Token.Text".toList, "Stringx".toList] := by
  decide +kernel

theorem Spelled.unique (h : kind.Spelled text) (h' : kind'.Spelled text) : kind = kind' :=
  path_injective ((spelled_iff.mp h).symm.trans (spelled_iff.mp h'))

/-! ## Reading -/

/-- The root needs no case of its own. -/
theorem ofText?_eq (text : Text) : ofText? text = ofPath? (dropLiteral (dropRoot text.trim)) := by
  rw [ofText?]
  split
  · next hbare =>
    rw [hbare]
    exact (ofPath?_eq_some_iff.mpr (spelled_iff.mp (.path : Spelled .token _))).symm
  · rfl

theorem ofText?_eq_some_iff : ofText? text = some kind ↔ kind.Spelled text.trim := by
  rw [ofText?_eq, ofPath?_eq_some_iff, spelled_iff]

/-- A text is read as a kind exactly if it spells the kind, up to white space around it, and as
no other kind. A text that spells none is reported as it is, with the white space. -/
theorem parse_spelled (text : String) :
    (∀ kind, parse text = .ok kind ↔ kind.Spelled (Text.trim text.toList)) ∧
      (∀ e, parse text = .error e ↔
        e = ⟨text⟩ ∧ ∀ kind : Kind, ¬ kind.Spelled (Text.trim text.toList)) ∧
      ∀ kind kind' : Kind, kind.Spelled text.toList → kind'.Spelled text.toList → kind = kind' := by
  refine ⟨fun kind => ?_, fun e => ?_, fun _ _ h h' => h.unique h'⟩
  · rw [← ofText?_eq_some_iff, parse]
    cases ofText? text.toList <;> simp
  · simp only [← ofText?_eq_some_iff, parse]
    cases ofText? text.toList <;> simp [eq_comm]

end TableLexer.Kind
