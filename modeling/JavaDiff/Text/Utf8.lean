/-!
# Byte offsets in a text

A text is a list of characters, an offset counts the bytes of its UTF-8 encoding.  `encode` gives
those bytes, `splitAt?` divides a text at an offset, and `cut?` takes the text between two offsets.
A division succeeds exactly at a character boundary: `splitAt?_eq_some_iff` says so.
-/

namespace JavaDiff

namespace Utf8

/-- The UTF-8 bytes of a text. -/
def encode (text : List Char) : List UInt8 := text.flatMap String.utf8EncodeChar

/-- The number of bytes in the UTF-8 encoding of a text. -/
def size : List Char → Nat
  | [] => 0
  | character :: text => character.utf8Size + size text

@[simp]
theorem encode_nil : encode [] = [] := rfl

@[simp]
theorem encode_cons (character : Char) (text : List Char) :
    encode (character :: text) = String.utf8EncodeChar character ++ encode text := rfl

@[simp]
theorem encode_append (left right : List Char) :
    encode (left ++ right) = encode left ++ encode right := by
  simp [encode]

@[simp]
theorem size_nil : size [] = 0 := rfl

@[simp]
theorem size_cons (character : Char) (text : List Char) :
    size (character :: text) = character.utf8Size + size text := rfl

@[simp]
theorem size_append (left right : List Char) : size (left ++ right) = size left + size right := by
  induction left with
  | nil => simp
  | cons character left ih => simp [ih, Nat.add_assoc]

@[simp]
theorem length_encode (text : List Char) : (encode text).length = size text := by
  induction text with
  | nil => rfl
  | cons character text ih => simp [ih]

/-- A character is one ASCII byte or several bytes that are all outside ASCII. -/
theorem encodeChar_cases (character : Char) :
    (∃ byte, byte < 128 ∧ String.utf8EncodeChar character = [byte]) ∨
      (character.utf8Size ≠ 1 ∧ ∀ byte ∈ String.utf8EncodeChar character, 128 ≤ byte) := by
  by_cases hsmall : character.val.toNat ≤ 127
  · left
    refine ⟨UInt8.ofNat character.val.toNat, ?_, by simp only [String.utf8EncodeChar, hsmall, if_true]⟩
    rw [UInt8.lt_iff_toNat_lt, UInt8.toNat_ofNat']
    show character.val.toNat % 256 < 128
    omega
  · right
    constructor
    · simp only [Char.utf8Size]
      have hone : ¬ character.val ≤ UInt32.ofNatLT 127 (by decide) := by
        simpa [UInt32.le_iff_toNat_le] using hsmall
      simp only [hone, if_false]
      split <;> (try split) <;> decide
    · simp only [String.utf8EncodeChar, hsmall, if_false]
      split
      · simp [UInt8.le_iff_toNat_le]; omega
      · split <;> (simp [UInt8.le_iff_toNat_le]; omega)

/-- The parts of a text before and after a byte offset.  There are none when the offset lies past
the end or inside a character. -/
def splitAt? : Nat → List Char → Option (List Char × List Char)
  | 0, text => some ([], text)
  | _ + 1, [] => none
  | offset + 1, character :: text =>
    if character.utf8Size ≤ offset + 1 then
      (splitAt? (offset + 1 - character.utf8Size) text).map fun parts =>
        (character :: parts.1, parts.2)
    else none

/-- The text from byte offset `start` up to byte offset `stop`, when both are character boundaries
of the text and `start` does not exceed `stop`. -/
def cut? (text : List Char) (start stop : Nat) : Option (List Char) :=
  if start ≤ stop then do
    let (_, rest) ← splitAt? start text
    let (piece, _) ← splitAt? (stop - start) rest
    return piece
  else none

/-- A text divides at an offset exactly where some of its leading characters fill that many bytes. -/
theorem splitAt?_eq_some_iff {offset : Nat} {text left right : List Char} :
    splitAt? offset text = some (left, right) ↔ text = left ++ right ∧ size left = offset := by
  induction text generalizing offset left with
  | nil =>
    cases offset with
    | zero => cases left <;> simp [splitAt?, eq_comm]
    | succ offset => cases left <;> simp [splitAt?]
  | cons character text ih =>
    have hpositive := character.utf8Size_pos
    cases offset with
    | zero =>
      cases left with
      | nil => simp [splitAt?, eq_comm]
      | cons head left =>
        have hheadPositive := head.utf8Size_pos
        simp [splitAt?]
        omega
    | succ offset =>
      cases left with
      | nil => simp [splitAt?]
      | cons head left =>
        by_cases hfits : character.utf8Size ≤ offset + 1
        · simp [splitAt?, hfits, ih]
          grind
        · simp [splitAt?, hfits]
          grind

/-- The text between two offsets is what stands between the texts that fill the bytes before the first
and after the second. -/
theorem cut?_eq_some_iff {text piece : List Char} {start stop : Nat} :
    cut? text start stop = some piece ↔
      ∃ before after, text = before ++ piece ++ after ∧ size before = start ∧
        start + size piece = stop := by
  constructor
  · intro hcut
    unfold cut? at hcut
    split at hcut
    · rename_i hle
      simp only [Option.bind_eq_bind, Option.bind_eq_some_iff, Option.pure_def,
        Option.some.injEq] at hcut
      obtain ⟨⟨before, rest⟩, hfirst, ⟨middle, after⟩, hsecond, rfl⟩ := hcut
      obtain ⟨rfl, hbefore⟩ := splitAt?_eq_some_iff.mp hfirst
      obtain ⟨rfl, hmiddle⟩ := splitAt?_eq_some_iff.mp hsecond
      exact ⟨before, after, by simp, hbefore, by simp only [hmiddle]; omega⟩
    · simp at hcut
  · rintro ⟨before, after, rfl, rfl, rfl⟩
    have hfirst :
        splitAt? (size before) (before ++ (piece ++ after)) = some (before, piece ++ after) :=
      splitAt?_eq_some_iff.mpr ⟨rfl, rfl⟩
    have hsecond : splitAt? (size piece) (piece ++ after) = some (piece, after) :=
      splitAt?_eq_some_iff.mpr ⟨rfl, rfl⟩
    simp [cut?, hfirst, hsecond]

end Utf8

end JavaDiff
