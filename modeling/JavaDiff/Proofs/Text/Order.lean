import JavaDiff.Text.Utf8

/-!
# The order of texts

Texts are ordered by the code points of their characters.  The order of their bytes is the same: of
two characters the lesser has the lesser first byte, or the two have equally many bytes and differ
in a later one.
-/

namespace JavaDiff

namespace Utf8

theorem encodeChar_append_lt {first second : Char} (hless : first < second)
    (left right : List UInt8) :
    String.utf8EncodeChar first ++ left < String.utf8EncodeChar second ++ right := by
  have hvalue : first.val.toNat < second.val.toNat := hless
  have hbound : second.val.toNat < 0x110000 := by
    rcases second.valid with hlow | ⟨-, hhigh⟩
    · exact Nat.lt_trans hlow (by decide)
    · exact hhigh
  unfold String.utf8EncodeChar
  generalize first.val.toNat = low at hvalue
  generalize second.val.toNat = high at hvalue hbound
  simp only
  -- Each of the two has between one and four bytes.
  repeat' split
  all_goals
    simp only [List.cons_append, List.nil_append, List.cons_lt_cons_iff, UInt8.lt_iff_toNat_lt,
      ← UInt8.toNat_inj, UInt8.toNat_ofNat']
    simp (disch := omega) only [Nat.mod_eq_of_lt]
    omega

/-- The bytes of texts are in the order of the texts. -/
theorem encode_lt_encode {left right : List Char} (hless : left < right) :
    encode left < encode right := by
  induction left generalizing right with
  | nil =>
    cases right with
    | nil => exact absurd hless (List.not_lt_nil [])
    | cons second right =>
      obtain ⟨byte, bytes, hencode⟩ :=
        List.exists_cons_of_ne_nil (String.utf8EncodeChar_ne_nil (c := second))
      rw [encode_cons, hencode]
      exact List.nil_lt_cons ..
  | cons first left ih =>
    cases right with
    | nil => exact absurd hless (List.not_lt_nil _)
    | cons second right =>
      rw [encode_cons, encode_cons]
      rcases List.cons_lt_cons_iff.mp hless with hfirst | ⟨rfl, hrest⟩
      · exact encodeChar_append_lt hfirst _ _
      · exact List.append_left_lt (ih hrest)

end Utf8

end JavaDiff
