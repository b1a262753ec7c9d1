import JavaDiff.Java.Mask
import JavaDiff.Proofs.Text.Boundary
import JavaDiff.Text.Line

/-!
# What masking keeps

Masked source keeps each character or puts spaces in place of its bytes, and it keeps every line
feed.  So a byte other than a space stands in the source at the same offset, the lines start at the
same offsets, and next to such a byte the two have the same character boundaries.

The scan looks two bytes ahead.  Text after a cut therefore changes nothing in front of the last two
bytes before the cut.

The closing theorem collects what stays in its place: the length, the line feeds and each character,
kept or blanked as a whole.  So the masked bytes always read back as a text.
-/

namespace JavaDiff

namespace Java

open Ascii

/-- Masked bytes and the bytes that they stand for. -/
inductive Masks : List UInt8 → List UInt8 → Prop
  | nil : Masks [] []
  | cons (shown : Bool) (byte : UInt8) {masked bytes : List UInt8} :
      Masks masked bytes → Masks (image shown byte :: masked) (byte :: bytes)

namespace Masks

variable {masked bytes : List UInt8}

theorem append_same (kept : List UInt8) (hmasks : Masks masked bytes) :
    Masks (kept ++ masked) (kept ++ bytes) := by
  induction kept with
  | nil => exact hmasks
  | cons byte kept ih => exact .cons true byte ih

theorem append_spaces {hidden : List UInt8} (hhidden : newline ∉ hidden)
    (hmasks : Masks masked bytes) :
    Masks (List.replicate hidden.length space ++ masked) (hidden ++ bytes) := by
  induction hidden with
  | nil => exact hmasks
  | cons byte hidden ih =>
    rw [List.mem_cons, not_or] at hhidden
    have himage : image false byte = space := by
      unfold image
      simp [Ne.symm hhidden.1]
    have hcons := Masks.cons false byte (ih hhidden.2)
    rwa [himage] at hcons

theorem take (hmasks : Masks masked bytes) (count : Nat) :
    Masks (masked.take count) (bytes.take count) := by
  induction hmasks generalizing count with
  | nil => simpa using Masks.nil
  | cons shown byte _ ih =>
    cases count with
    | zero => exact .nil
    | succ count => exact .cons shown byte (ih count)

theorem drop (hmasks : Masks masked bytes) (count : Nat) :
    Masks (masked.drop count) (bytes.drop count) := by
  induction hmasks generalizing count with
  | nil => simpa using Masks.nil
  | cons shown byte hrest ih =>
    cases count with
    | zero => exact .cons shown byte hrest
    | succ count => exact ih count

theorem length_eq (hmasks : Masks masked bytes) : masked.length = bytes.length := by
  induction hmasks with
  | nil => rfl
  | cons shown byte _ ih => rw [List.length_cons, List.length_cons, ih]

theorem eq_of_image_ne_space {shown : Bool} {byte : UInt8} (hshown : image shown byte ≠ space) :
    image shown byte = byte := by
  unfold image at hshown ⊢
  split
  · rfl
  · rename_i hhidden
    exact absurd (if_neg hhidden) hshown

theorem getElem?_eq_some (hmasks : Masks masked bytes) {offset : Nat} {byte : UInt8}
    (hbyte : masked[offset]? = some byte) (hshown : byte ≠ space) : bytes[offset]? = some byte := by
  induction hmasks generalizing offset with
  | nil => exact hbyte
  | cons shown original _ ih =>
    cases offset with
    | zero =>
      obtain rfl : image shown original = byte := by simpa using hbyte
      rw [List.getElem?_cons_zero, eq_of_image_ne_space hshown]
    | succ offset => exact ih (by simpa using hbyte)

theorem eq_of_forall_ne_space (hmasks : Masks masked bytes)
    (hshown : ∀ byte ∈ masked, byte ≠ space) : masked = bytes := by
  induction hmasks with
  | nil => rfl
  | cons shown byte _ ih =>
    rw [ih fun byte hbyte => hshown byte (List.mem_cons_of_mem _ hbyte),
      eq_of_image_ne_space (hshown _ List.mem_cons_self)]

/-- A run of masked bytes without a space is the same run in the source. -/
theorem extract_eq (hmasks : Masks masked bytes) {start stop : Nat}
    (hshown : ∀ byte ∈ masked.extract start stop, byte ≠ space) :
    masked.extract start stop = bytes.extract start stop := by
  rw [List.extract_eq_take_drop] at hshown ⊢
  rw [List.extract_eq_take_drop]
  exact ((hmasks.drop start).take (stop - start)).eq_of_forall_ne_space hshown

theorem image_eq_newline_iff {shown : Bool} {byte : UInt8} :
    image shown byte = newline ↔ byte = newline := by
  unfold image
  split
  · rfl
  · rename_i hhidden
    exact iff_of_false (by decide) fun hnewline => hhidden (Or.inr hnewline)

theorem getElem?_eq_newline_iff (hmasks : Masks masked bytes) (offset : Nat) :
    masked[offset]? = some newline ↔ bytes[offset]? = some newline := by
  induction hmasks generalizing offset with
  | nil => rfl
  | cons shown byte _ ih =>
    cases offset with
    | zero => simp [image_eq_newline_iff]
    | succ offset => simpa using ih offset

theorem eq_space_or_getElem?_eq (hmasks : Masks masked bytes) {offset : Nat} {byte : UInt8}
    (hbyte : masked[offset]? = some byte) : byte = space ∨ bytes[offset]? = some byte := by
  by_cases hspace : byte = space
  · exact Or.inl hspace
  · exact Or.inr (hmasks.getElem?_eq_some hbyte hspace)

theorem startsFrom_eq (hmasks : Masks masked bytes) (offset : Nat) :
    LineIndex.startsFrom offset masked = LineIndex.startsFrom offset bytes := by
  induction hmasks generalizing offset with
  | nil => rfl
  | cons shown byte _ ih => simp only [LineIndex.startsFrom, image_eq_newline_iff, ih]

theorem lines_eq (hmasks : Masks masked bytes) :
    LineIndex.ofBytes masked = LineIndex.ofBytes bytes := by
  rw [LineIndex.ofBytes, LineIndex.ofBytes, hmasks.startsFrom_eq]

end Masks

namespace Scan

/-- The scan looks at most two bytes ahead. -/
theorem step_congr (scan : Scan) (first : UInt8) {rest other : List UInt8}
    (hahead : rest.take 2 = other.take 2) : scan.step first rest = scan.step first other := by
  have hnext : rest.take 1 = other.take 1 := by
    have htake := congrArg (List.take 1) hahead
    rwa [List.take_take, List.take_take] at htake
  obtain ⟨region, pending, shown⟩ := scan
  cases pending with
  | succ pending => rfl
  | zero => cases region <;> simp only [step, Region.token, hnext, hahead]

/-- Text after a cut changes nothing in front of the last two bytes before it. -/
theorem take_mask_append (scan : Scan) (front back : List UInt8) :
    (scan.mask (front ++ back)).take (front.length - 2) =
      (scan.mask front).take (front.length - 2) := by
  induction front generalizing scan with
  | nil => rfl
  | cons first front ih =>
    by_cases hlong : 2 ≤ front.length
    · have hahead : (front ++ back).take 2 = front.take 2 := List.take_append_of_le_length hlong
      have hlength : (first :: front).length - 2 = front.length - 2 + 1 := by
        rw [List.length_cons]
        omega
      rw [hlength, List.cons_append, mask, mask, scan.step_congr first hahead, List.take_succ_cons,
        List.take_succ_cons, ih]
    · have hlength : (first :: front).length - 2 = 0 := by
        rw [List.length_cons]
        omega
      rw [hlength, List.take_zero, List.take_zero]

end Scan

namespace Covers

variable {masked text : List Char}

theorem newline_notMem_encodeChar {character : Char} (hnewline : character ≠ '\n') :
    newline ∉ String.utf8EncodeChar character := by
  intro hmem
  rcases Utf8.encodeChar_cases character with ⟨byte, -, hencode⟩ | ⟨-, hwide⟩
  · rw [hencode, List.mem_singleton] at hmem
    have hbytes : Utf8.encode [character] = Utf8.encode ['\n'] := by
      rw [Utf8.encode_cons, hencode, ← hmem]
      rfl
    exact hnewline (List.singleton_inj.mp (Utf8.encode_injective hbytes))
  · exact absurd (hwide newline hmem) (by decide)

theorem size_spaces (count : Nat) : Utf8.size (List.replicate count ' ') = count := by
  have hlength := congrArg List.length (encode_spaces_append count [])
  simpa using hlength

theorem masks (hcovers : Covers masked text) : Masks (Utf8.encode masked) (Utf8.encode text) := by
  induction hcovers with
  | nil => exact .nil
  | keep character _ ih => exact ih.append_same (String.utf8EncodeChar character)
  | blank character hnewline _ ih =>
    rw [encode_spaces_append, ← String.length_utf8EncodeChar]
    exact ih.append_spaces (newline_notMem_encodeChar hnewline)

theorem exists_of_append_cons {left right : List Char} {character : Char}
    (hcovers : Covers (left ++ character :: right) text) (hshown : character ≠ ' ') :
    ∃ front back, text = front ++ character :: back ∧ Utf8.size front = Utf8.size left := by
  generalize hmasked : left ++ character :: right = masked at hcovers
  induction hcovers generalizing left with
  | nil => simp at hmasked
  | keep first hrest ih =>
    cases left with
    | nil =>
      obtain ⟨rfl, rfl⟩ := List.cons.inj hmasked
      exact ⟨[], _, rfl, rfl⟩
    | cons other left =>
      obtain ⟨rfl, hrest⟩ := List.cons.inj hmasked
      obtain ⟨front, back, rfl, hsize⟩ := ih hrest
      exact ⟨other :: front, back, rfl, by rw [Utf8.size_cons, Utf8.size_cons, hsize]⟩
  | @blank first rest text hnewline hrest ih =>
    rcases List.append_eq_append_iff.mp hmasked with ⟨shared, hblanks, htail⟩ | ⟨shared, rfl, htail⟩
    · cases shared with
      | nil =>
        obtain ⟨front, back, rfl, hsize⟩ := @ih [] htail
        refine ⟨first :: front, back, rfl, ?_⟩
        rw [List.append_nil] at hblanks
        rw [← hblanks, size_spaces, Utf8.size_cons, hsize, Utf8.size_nil, Nat.add_zero]
      | cons space shared =>
        obtain ⟨rfl, -⟩ := List.cons.inj htail
        have hmem : character ∈ List.replicate first.utf8Size ' ' := by simp [hblanks]
        exact absurd (List.eq_of_mem_replicate hmem) hshown
    · obtain ⟨front, back, rfl, hsize⟩ := ih htail.symm
      exact ⟨first :: front, back, rfl, by rw [Utf8.size_append, size_spaces, Utf8.size_cons, hsize]⟩

/-- A character of the source has a place in the masked text, where it is kept or blanked. -/
theorem exists_append_of_append_cons {front back : List Char} {character : Char}
    (hcovers : Covers masked (front ++ character :: back)) :
    ∃ left piece right, masked = left ++ piece ++ right ∧ Utf8.size left = Utf8.size front ∧
      (piece = [character] ∨ piece = List.replicate character.utf8Size ' ') := by
  induction front generalizing masked with
  | nil =>
    cases hcovers with
    | @keep _ masked _ _ => exact ⟨[], [character], masked, rfl, rfl, Or.inl rfl⟩
    | @blank _ masked _ _ _ => exact ⟨[], _, masked, rfl, rfl, Or.inr rfl⟩
  | cons first front ih =>
    cases hcovers with
    | keep _ hrest =>
      obtain ⟨left, piece, right, rfl, hsize, hpiece⟩ := ih hrest
      refine ⟨first :: left, piece, right, rfl, ?_, hpiece⟩
      rw [Utf8.size_cons, Utf8.size_cons, hsize]
    | blank _ _ hrest =>
      obtain ⟨left, piece, right, rfl, hsize, hpiece⟩ := ih hrest
      refine ⟨List.replicate first.utf8Size ' ' ++ left, piece, right, by simp, ?_, hpiece⟩
      rw [Utf8.size_append, size_spaces, Utf8.size_cons, hsize]

/-- The bytes of a character of the source are kept or blanked together. -/
theorem extract_eq_or_eq_spaces {front back : List Char} {character : Char}
    (hcovers : Covers masked (front ++ character :: back)) :
    (Utf8.encode masked).extract (Utf8.size front) (Utf8.size front + character.utf8Size) =
        String.utf8EncodeChar character ∨
      (Utf8.encode masked).extract (Utf8.size front) (Utf8.size front + character.utf8Size) =
        List.replicate character.utf8Size space := by
  obtain ⟨left, piece, right, rfl, hsize, hpiece⟩ := hcovers.exists_append_of_append_cons
  have hextract (hwidth : Utf8.size piece = character.utf8Size) :
      (Utf8.encode (left ++ piece ++ right)).extract (Utf8.size front)
        (Utf8.size front + character.utf8Size) = Utf8.encode piece := by
    rw [List.extract_eq_take_drop, Nat.add_sub_cancel_left, Utf8.encode_append, Utf8.encode_append,
      List.append_assoc, List.drop_left' (by rw [Utf8.length_encode, hsize]),
      List.take_left' (by rw [Utf8.length_encode, hwidth])]
  rcases hpiece with rfl | rfl
  · left
    rw [hextract (by simp)]
    simp
  · right
    have hspaces := encode_spaces_append character.utf8Size []
    rw [hextract (size_spaces _)]
    simpa using hspaces

/-- A boundary of the masked text in front of a byte other than a space is one of the source. -/
theorem isBoundary_of_shown (hcovers : Covers masked text) {offset : Nat} {byte : UInt8}
    (hboundary : Utf8.IsBoundary masked offset)
    (hbyte : (Utf8.encode masked)[offset]? = some byte) (hshown : byte ≠ space) :
    Utf8.IsBoundary text offset := by
  obtain ⟨left, right, rfl, rfl⟩ := hboundary
  rw [Utf8.encode_append, ← Utf8.length_encode, List.getElem?_append_right (Nat.le_refl _),
    Nat.sub_self] at hbyte
  cases right with
  | nil => simp at hbyte
  | cons character right =>
    have hcharacter : character ≠ ' ' := by
      rintro rfl
      exact hshown (Option.some.inj hbyte).symm
    obtain ⟨front, back, htext, hsize⟩ := hcovers.exists_of_append_cons hcharacter
    exact ⟨front, character :: back, htext, hsize⟩

/-- A boundary of the masked text behind a byte other than a space is one of the source. -/
theorem isBoundary_succ_of_shown (hcovers : Covers masked text) {offset : Nat} {byte : UInt8}
    (hboundary : Utf8.IsBoundary masked (offset + 1))
    (hbyte : (Utf8.encode masked)[offset]? = some byte) (hshown : byte ≠ space) :
    Utf8.IsBoundary text (offset + 1) := by
  obtain ⟨left, right, rfl, hsize⟩ := hboundary
  rcases List.eq_nil_or_concat left with rfl | ⟨left, character, rfl⟩
  · simp at hsize
  · rw [List.concat_eq_append] at hsize hbyte hcovers
    have hcharacter : character ≠ ' ' := by
      rintro rfl
      rw [Utf8.size_append] at hsize
      have hleft : offset = (Utf8.encode left).length := by
        rw [Utf8.length_encode]
        exact (Nat.succ.inj hsize).symm
      rw [List.append_assoc, Utf8.encode_append, hleft,
        List.getElem?_append_right (Nat.le_refl _), Nat.sub_self] at hbyte
      exact hshown (Option.some.inj hbyte).symm
    rw [List.append_assoc, List.singleton_append] at hcovers
    obtain ⟨front, back, htext, hfront⟩ := hcovers.exists_of_append_cons hcharacter
    refine ⟨front ++ [character], back, by simp [htext], ?_⟩
    rw [Utf8.size_append, hfront, ← Utf8.size_append, hsize]

end Covers

theorem covers_mask (source : String) : Covers (mask source).toList source.toList := by
  obtain ⟨masked, hmasked, hcovers⟩ :=
    exists_encode_eq_mask Scan.start source.toList (Scan.aligned_start _)
  have hmask : (mask source).toList = masked :=
    Utf8.encode_injective (by rw [encode_mask, maskBytes, hmasked])
  rwa [hmask]

/-- Whether masked bytes have everything in the place where a text has it: as many bytes, the same
line feeds, no byte but spaces besides those of the text, and each character whole or blanked byte
by byte. -/
structure KeepsPlaces (text : List Char) (masked : List UInt8) : Prop where
  length_eq : masked.length = (Utf8.encode text).length
  newline_iff : ∀ offset : Nat,
    masked[offset]? = some newline ↔ (Utf8.encode text)[offset]? = some newline
  space_or_same : ∀ (offset : Nat) (byte : UInt8), masked[offset]? = some byte →
    byte = space ∨ (Utf8.encode text)[offset]? = some byte
  whole_or_blank : ∀ front character back, text = front ++ character :: back →
    masked.extract (Utf8.size front) (Utf8.size front + character.utf8Size) =
        String.utf8EncodeChar character ∨
      masked.extract (Utf8.size front) (Utf8.size front + character.utf8Size) =
        List.replicate character.utf8Size space

/-- Masking keeps every place, and the bytes that the scan leaves are read as the masked text: they
are valid, so no byte of them is ever replaced in decoding. -/
theorem mask_keepsPlaces (source : String) :
    KeepsPlaces source.toList (Utf8.encode (mask source).toList) ∧
      String.fromUTF8? (maskBytes (Utf8.encode source.toList)).toByteArray = some (mask source) := by
  have hcovers := covers_mask source
  constructor
  · constructor
    case length_eq => exact hcovers.masks.length_eq
    case newline_iff => exact hcovers.masks.getElem?_eq_newline_iff
    case space_or_same => exact fun _ _ hbyte => hcovers.masks.eq_space_or_getElem?_eq hbyte
    case whole_or_blank =>
      intro front character back htext
      rw [htext] at hcovers
      exact hcovers.extract_eq_or_eq_spaces
  · exact dif_pos (isValidUTF8_maskBytes source)

end Java

end JavaDiff
