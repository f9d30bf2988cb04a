import TableLexer.Text

/-!
# Texts written as strings

Patterns and tables are written as strings and used as texts. The text of a string has
the characters of `String.toList`, but as long as they are of ASCII it is read off the
bytes of the string one by one. So it can be evaluated in proofs, from its beginning and
no further than it is needed.

* `Text.ofString_eq`: the text of a string has its characters.
-/

namespace TableLexer.Text

/-- The characters of a text with the given bytes, from a first one that is not of ASCII
on those of `others`. -/
def ofBytes : (others : Text) → List UInt8 → Text
  | _, [] => []
  | others, b :: rest =>
      if b < 0x80 then Char.ofNat b.toNat :: ofBytes others.tail rest else others

/-- The text of a string. -/
def ofString (s : String) : Text := ofBytes s.toList s.toByteArray.data.toList

/-- The first byte of a character that takes several tells how many they are. -/
theorem ofBytes_utf8EncodeChar (t : Text) :
    ofBytes t (t.flatMap String.utf8EncodeChar) = t := by
  have htoNat : ∀ n < 256, (UInt8.ofNat n).toNat = n := fun _ => UInt8.toNat_ofNat_of_lt'
  induction t with
  | nil => rfl
  | cons c t ih =>
    rw [List.flatMap_cons]
    by_cases hc : c.val.toNat ≤ 127
    · have hbytes : String.utf8EncodeChar c = [UInt8.ofNat c.val.toNat] := if_pos hc
      have hnat : (UInt8.ofNat c.val.toNat).toNat = c.val.toNat := htoNat _ (by omega)
      have hlt : UInt8.ofNat c.val.toNat < 0x80 := by
        rw [UInt8.lt_iff_toNat_lt, hnat]
        exact Nat.lt_succ_of_le hc
      have hchar : Char.ofNat (UInt8.ofNat c.val.toNat).toNat = c := by
        rw [hnat]
        exact Char.ofNat_toNat c
      rw [hbytes, List.singleton_append, ofBytes, if_pos hlt, hchar, List.tail_cons, ih]
    · have hfirst : ∀ n < 256, 128 ≤ n → ¬ UInt8.ofNat n < 0x80 := by
        intro n hn hle
        rw [UInt8.lt_iff_toNat_lt, htoNat n hn]
        exact Nat.not_lt_of_le hle
      obtain ⟨b, more, hbytes, hb⟩ :
          ∃ b more, String.utf8EncodeChar c = b :: more ∧ ¬ b < 0x80 := by
        unfold String.utf8EncodeChar
        dsimp only
        rw [if_neg hc]
        split
        · exact ⟨_, _, rfl, hfirst _ (by omega) (by omega)⟩
        · split
          · exact ⟨_, _, rfl, hfirst _ (by omega) (by omega)⟩
          · exact ⟨_, _, rfl, hfirst _ (by omega) (by omega)⟩
      rw [hbytes, List.cons_append, ofBytes, if_neg hb]

/-- The text of a string has its characters. -/
theorem ofString_eq (s : String) : ofString s = s.toList := by
  have hbytes : s.toByteArray.data.toList = s.toList.flatMap String.utf8EncodeChar := by
    rw [← String.utf8Encode_toList, List.utf8Encode, List.data_toByteArray]
  rw [ofString, hbytes, ofBytes_utf8EncodeChar]

end TableLexer.Text
