import JavaDiff.Text.Utf8

/-!
# Character boundaries

A boundary of a text is an offset that lies between two of its characters or at one of its ends.  An
ASCII byte is a character on its own, so there are boundaries on either side of it, and a text can
be cut between any two boundaries.  The bytes of the piece are those between the two offsets.
-/

namespace JavaDiff

namespace Utf8

/-- Whether an offset lies between two characters of a text or at one of its ends. -/
def IsBoundary (text : List Char) (offset : Nat) : Prop :=
  ∃ left right, text = left ++ right ∧ size left = offset

theorem eq_nil_of_size_eq_zero {text : List Char} (hsize : size text = 0) : text = [] := by
  cases text with
  | nil => rfl
  | cons character text =>
    have hwidth := character.utf8Size_pos
    rw [size_cons] at hsize
    omega

/-- Of two front parts of a text the shorter one starts the other. -/
theorem exists_append_of_size_le {front back left right : List Char}
    (htext : front ++ back = left ++ right) (hsize : size front ≤ size left) :
    ∃ middle, left = front ++ middle ∧ back = middle ++ right := by
  rcases List.append_eq_append_iff.mp htext with ⟨middle, hleft, hback⟩ | ⟨extra, rfl, hright⟩
  · exact ⟨middle, hleft, hback⟩
  · have hnil : extra = [] := by
      apply eq_nil_of_size_eq_zero
      rw [size_append] at hsize
      omega
    subst hnil
    exact ⟨[], by simp, by simpa using hright.symm⟩

theorem isBoundary_zero (text : List Char) : IsBoundary text 0 := ⟨[], text, rfl, rfl⟩

theorem head_eq_of_encode_eq {first second : Char} {left right : List UInt8}
    (hbytes : String.utf8EncodeChar first ++ left = String.utf8EncodeChar second ++ right) :
    first = second := by
  have hdecode (character : Char) (rest : List UInt8) :
      (String.utf8EncodeChar character ++ rest).toByteArray.utf8DecodeChar? 0 = some character := by
    rw [List.toByteArray_append]
    exact ByteArray.utf8DecodeChar?_utf8EncodeChar_append
  have hfirst := hdecode first left
  rw [hbytes, hdecode second right] at hfirst
  exact (Option.some.inj hfirst).symm

/-- A text whose bytes start another text starts it as well. -/
theorem isPrefix_of_encode_isPrefix {left right : List Char}
    (hbytes : encode left <+: encode right) : left <+: right := by
  induction left generalizing right with
  | nil => exact List.nil_prefix
  | cons first left ih =>
    obtain ⟨tail, htail⟩ := hbytes
    cases right with
    | nil => simp [String.utf8EncodeChar_ne_nil] at htail
    | cons second right =>
      rw [encode_cons, encode_cons, List.append_assoc] at htail
      obtain rfl := head_eq_of_encode_eq htail
      exact List.cons_prefix_cons.mpr ⟨rfl, ih ⟨tail, List.append_cancel_left htail⟩⟩

theorem encode_injective {left right : List Char} (hbytes : encode left = encode right) :
    left = right := by
  have hleft : left <+: right := isPrefix_of_encode_isPrefix (hbytes ▸ List.prefix_rfl)
  have hright : right <+: left := isPrefix_of_encode_isPrefix (hbytes ▸ List.prefix_rfl)
  exact hleft.eq_of_length_le hright.length_le

/-- An ASCII byte in the encoding of a text is the whole of a character. -/
theorem exists_character_of_ascii {text : List Char} {offset : Nat} {byte : UInt8}
    (hbyte : (encode text)[offset]? = some byte) (hascii : byte < 128) :
    ∃ left character right, text = left ++ character :: right ∧ size left = offset ∧
      String.utf8EncodeChar character = [byte] := by
  induction text generalizing offset with
  | nil => simp at hbyte
  | cons first text ih =>
    rw [encode_cons, List.getElem?_append] at hbyte
    split at hbyte
    · rename_i hinside
      rcases encodeChar_cases first with ⟨ascii, -, hencode⟩ | ⟨-, hwide⟩
      · rw [hencode] at hinside hbyte
        obtain rfl : offset = 0 := by simpa using hinside
        obtain rfl : ascii = byte := by simpa using hbyte
        exact ⟨[], first, text, rfl, rfl, hencode⟩
      · exact absurd hascii (UInt8.not_lt.mpr (hwide byte (List.mem_of_getElem? hbyte)))
    · rename_i houtside
      rw [String.length_utf8EncodeChar] at houtside hbyte
      obtain ⟨left, character, right, rfl, hsize, hencode⟩ := ih hbyte
      exact ⟨first :: left, character, right, rfl, by simp only [size_cons]; omega, hencode⟩

theorem exists_append_of_ascii {text : List Char} {offset : Nat} {character : Char} {byte : UInt8}
    (hbyte : (encode text)[offset]? = some byte) (hascii : byte < 128)
    (hencode : String.utf8EncodeChar character = [byte]) :
    ∃ left right, text = left ++ character :: right ∧ size left = offset := by
  obtain ⟨left, other, right, htext, hsize, hother⟩ := exists_character_of_ascii hbyte hascii
  have hbytes : encode [other] = encode [character] := by
    rw [encode_cons, encode_cons, hother, hencode]
  obtain rfl := List.singleton_inj.mp (encode_injective hbytes)
  exact ⟨left, right, htext, hsize⟩

theorem isBoundary_of_ascii {text : List Char} {offset : Nat} {byte : UInt8}
    (hbyte : (encode text)[offset]? = some byte) (hascii : byte < 128) :
    IsBoundary text offset := by
  obtain ⟨left, character, right, htext, hsize, -⟩ := exists_character_of_ascii hbyte hascii
  exact ⟨left, character :: right, htext, hsize⟩

theorem isBoundary_succ_of_ascii {text : List Char} {offset : Nat} {byte : UInt8}
    (hbyte : (encode text)[offset]? = some byte) (hascii : byte < 128) :
    IsBoundary text (offset + 1) := by
  obtain ⟨left, character, right, htext, hsize, hencode⟩ := exists_character_of_ascii hbyte hascii
  have hwidth : character.utf8Size = 1 := by
    rw [← String.length_utf8EncodeChar, hencode, List.length_singleton]
  exact ⟨left ++ [character], right, by simp [htext], by simp [hsize, hwidth]⟩

/-- A text that starts with an ASCII character stands in another where its bytes do. -/
theorem isInfix_of_encode_isInfix {first : Char} {word text : List Char} {byte : UInt8}
    (hfirst : String.utf8EncodeChar first = [byte]) (hascii : byte < 128)
    (hbytes : encode (first :: word) <:+: encode text) : first :: word <:+: text := by
  obtain ⟨before, after, hsplit⟩ := hbytes
  have hbyte : (encode text)[before.length]? = some byte := by simp [← hsplit, hfirst]
  obtain ⟨left, right, rfl, hsize⟩ := isBoundary_of_ascii hbyte hascii
  rw [encode_append, List.append_assoc] at hsplit
  obtain ⟨-, hright⟩ := List.append_inj hsplit.symm (by rw [length_encode, hsize])
  have hword : first :: word <+: right := isPrefix_of_encode_isPrefix ⟨after, hright.symm⟩
  exact hword.isInfix.trans (List.suffix_append left right).isInfix

theorem exists_cut?_eq_some {text : List Char} {start stop : Nat} (hstart : IsBoundary text start)
    (hstop : IsBoundary text stop) (hle : start ≤ stop) :
    ∃ piece, cut? text start stop = some piece := by
  obtain ⟨before, rest, rfl, rfl⟩ := hstart
  obtain ⟨front, after, htext, rfl⟩ := hstop
  rcases List.append_eq_append_iff.mp htext with ⟨piece, rfl, rfl⟩ | ⟨piece, rfl, rfl⟩
  · exact ⟨piece, cut?_eq_some_iff.mpr ⟨before, after, by simp, rfl, by simp⟩⟩
  · have hempty : size piece = 0 := by
      rw [size_append] at hle
      omega
    refine ⟨[], cut?_eq_some_iff.mpr ⟨front ++ piece, rest, by simp, rfl, by simp [hempty]⟩⟩

theorem encode_of_cut? {text piece : List Char} {start stop : Nat}
    (hcut : cut? text start stop = some piece) :
    encode piece = (encode text).extract start stop := by
  obtain ⟨before, after, rfl, hstart, hstop⟩ := cut?_eq_some_iff.mp hcut
  have hlength : stop - start = (encode piece).length := by
    rw [length_encode]
    omega
  rw [List.extract_eq_take_drop, encode_append, encode_append, List.append_assoc, ← hstart,
    ← length_encode before, List.drop_left, length_encode, hstart, hlength, List.take_left]

/-- A text whose bytes are those between two boundaries of another stands there. -/
theorem exists_append_of_encode_eq_extract {source text : List Char} {start stop : Nat}
    (hstart : IsBoundary source start) (hstop : IsBoundary source stop) (hle : start ≤ stop)
    (htext : encode text = (encode source).extract start stop) :
    ∃ before after, source = before ++ text ++ after ∧ size before = start := by
  obtain ⟨piece, hpiece⟩ := exists_cut?_eq_some hstart hstop hle
  obtain rfl : text = piece := encode_injective (htext.trans (encode_of_cut? hpiece).symm)
  obtain ⟨before, after, hsource, hbefore, -⟩ := cut?_eq_some_iff.mp hpiece
  exact ⟨before, after, hsource, hbefore⟩

end Utf8

end JavaDiff
