import JavaDiff.Text.Ascii
import JavaDiff.Text.Utf8

/-!
# Masked source

A brace inside a string or a comment opens no block.  Masking replaces comments and the contents of
string, character and text-block literals by spaces, so that a plain search for delimiters sees code
only.  Every byte keeps its offset and every line feed stays, so an offset found in masked source
means the same place in the source.

The scan works on bytes, one token of one to three bytes at a time, and looks at most two bytes
ahead.  `encode_mask` states that the masked text is exactly what the byte scan produces: no
character is ever blanked in part.
-/

namespace JavaDiff

namespace Java

open Ascii

/-- The lexical regions of Java source. -/
inductive Region where
  /-- Outside comments and literals. -/
  | code
  /-- After two slashes, up to the line feed. -/
  | lineComment
  /-- After a slash and an asterisk, up to the reverse pair. -/
  | blockComment
  /-- Inside a string literal. -/
  | string
  /-- Inside a character literal. -/
  | character
  /-- Inside a text block, after three double quotes. -/
  | textBlock
deriving DecidableEq, Repr

/-- What the scan does with the token that starts at the current byte. -/
structure Token where
  /-- The number of bytes of the token after its first. -/
  more : Nat
  /-- Whether the bytes of the token stay visible. -/
  shown : Bool
  /-- The region after the token. -/
  next : Region
deriving DecidableEq, Repr

namespace Region

/-- The token inside a one-line literal that ends at `delimiter`.  A backslash takes the following
byte with it, and an unescaped line feed ends an unterminated literal. -/
def literalToken (region : Region) (delimiter first : UInt8) : Token :=
  if first = backslash then ⟨1, false, region⟩
  else if first = newline ∨ first = delimiter then ⟨0, true, code⟩
  else ⟨0, false, region⟩

/-- The token that starts with the byte `first`, followed by `rest`, in a region. -/
def token (region : Region) (first : UInt8) (rest : List UInt8) : Token :=
  match region with
  | code =>
    if first = slash ∧ rest.take 1 = [slash] then ⟨1, false, lineComment⟩
    else if first = slash ∧ rest.take 1 = [star] then ⟨1, false, blockComment⟩
    else if first = quote ∧ rest.take 2 = [quote, quote] then ⟨2, true, textBlock⟩
    else if first = quote then ⟨0, true, string⟩
    else if first = apostrophe then ⟨0, true, character⟩
    else ⟨0, true, code⟩
  | lineComment =>
    if first = newline then ⟨0, true, code⟩ else ⟨0, false, lineComment⟩
  | blockComment =>
    if first = star ∧ rest.take 1 = [slash] then ⟨1, false, code⟩
    else ⟨0, false, blockComment⟩
  | string => literalToken string quote first
  | character => literalToken character apostrophe first
  | textBlock =>
    if first = backslash then ⟨1, false, textBlock⟩
    else if first = quote ∧ rest.take 2 = [quote, quote] then ⟨2, true, code⟩
    else ⟨0, false, textBlock⟩

end Region

/-- The state of the scan between two bytes. -/
structure Scan where
  /-- The region after the current token. -/
  region : Region
  /-- The bytes of the current token that are still to come. -/
  pending : Nat
  /-- Whether those bytes stay visible. -/
  shown : Bool
deriving DecidableEq, Repr

/-- The image of a byte in masked source. -/
def image (shown : Bool) (byte : UInt8) : UInt8 :=
  if shown ∨ byte = newline then byte else space

namespace Scan

/-- The state before the first byte of a text. -/
def start : Scan := ⟨.code, 0, true⟩

/-- Whether the byte `first`, followed by `rest`, stays visible, and the state after it. -/
def step (scan : Scan) (first : UInt8) (rest : List UInt8) : Bool × Scan :=
  match scan.pending with
  | pending + 1 => (scan.shown, { scan with pending })
  | 0 =>
    let token := scan.region.token first rest
    (token.shown, ⟨token.next, token.more, token.shown⟩)

/-- The masked bytes of a text scanned from a given state. -/
def mask : Scan → List UInt8 → List UInt8
  | _, [] => []
  | scan, first :: rest =>
    image (scan.step first rest).1 first :: mask (scan.step first rest).2 rest

/-- The state after a whole text. -/
def finish : Scan → List UInt8 → Scan
  | scan, [] => scan
  | scan, first :: rest => finish (scan.step first rest).2 rest

@[simp]
theorem length_mask (scan : Scan) (bytes : List UInt8) :
    (scan.mask bytes).length = bytes.length := by
  induction bytes generalizing scan with
  | nil => rfl
  | cons first rest ih => simp [mask, ih]

theorem mask_idle (region : Region) (shown shown' : Bool) (bytes : List UInt8) :
    mask ⟨region, 0, shown⟩ bytes = mask ⟨region, 0, shown'⟩ bytes := by
  cases bytes <;> rfl

theorem mask_code_append (shown : Bool) (wide rest : List UInt8)
    (hwide : ∀ byte ∈ wide, 128 ≤ byte) :
    mask ⟨.code, 0, shown⟩ (wide ++ rest) = wide ++ mask ⟨.code, 0, true⟩ rest := by
  induction wide generalizing shown with
  | nil => exact mask_idle ..
  | cons first wide ih =>
    have hfirst : 128 ≤ first := hwide first (by simp)
    have hslash : first ≠ slash := by rintro rfl; exact absurd hfirst (by decide)
    have hquote : first ≠ quote := by rintro rfl; exact absurd hfirst (by decide)
    have hapostrophe : first ≠ apostrophe := by rintro rfl; exact absurd hfirst (by decide)
    simp [mask, step, Region.token, hslash, hquote, hapostrophe, image,
      ih true (fun byte hbyte => hwide byte (by simp [hbyte]))]

theorem mask_blank_append (region : Region) (hregion : region ≠ .code) (shown : Bool)
    (wide rest : List UInt8) (hwide : ∀ byte ∈ wide, 128 ≤ byte) :
    mask ⟨region, 0, shown⟩ (wide ++ rest) =
      List.replicate wide.length space ++ mask ⟨region, 0, false⟩ rest := by
  induction wide generalizing shown with
  | nil => exact mask_idle ..
  | cons first wide ih =>
    have hfirst : 128 ≤ first := hwide first (by simp)
    have hstar : first ≠ star := by rintro rfl; exact absurd hfirst (by decide)
    have hnewline : first ≠ newline := by rintro rfl; exact absurd hfirst (by decide)
    have hbackslash : first ≠ backslash := by rintro rfl; exact absurd hfirst (by decide)
    have hquote : first ≠ quote := by rintro rfl; exact absurd hfirst (by decide)
    have hapostrophe : first ≠ apostrophe := by rintro rfl; exact absurd hfirst (by decide)
    have hrest := ih false (fun byte hbyte => hwide byte (by simp [hbyte]))
    cases region <;>
      simp_all [mask, step, Region.token, Region.literalToken, image, List.replicate_succ]

/-- Between two characters of a text, the bytes that a token still waits for are whole characters:
either they are ASCII, or one escaped byte is blanked inside a literal or comment, where the rest of
its character is blanked as well. -/
def Aligned (scan : Scan) (bytes : List UInt8) : Prop :=
  scan.pending = 0 ∨
    (scan.pending = 1 ∧ scan.shown = false ∧ scan.region ≠ .code) ∨
    (scan.pending ≤ bytes.length ∧ ∀ byte ∈ bytes.take scan.pending, byte < 128)

theorem aligned_start (bytes : List UInt8) : Aligned start bytes := Or.inl rfl

theorem aligned_token (region : Region) (first : UInt8) (rest : List UInt8) :
    let token := region.token first rest
    Aligned ⟨token.next, token.more, token.shown⟩ rest := by
  have hone {byte : UInt8} (htake : rest.take 1 = [byte]) (hbyte : byte < 128) :
      1 ≤ rest.length ∧ ∀ other ∈ rest.take 1, other < 128 := by
    cases rest with
    | nil => simp at htake
    | cons second rest => simp_all
  have htwo (htake : rest.take 2 = [quote, quote]) :
      2 ≤ rest.length ∧ ∀ other ∈ rest.take 2, other < 128 := by
    have hlength := congrArg List.length htake
    rw [htake]
    simp at hlength ⊢
    exact ⟨by omega, by decide⟩
  cases region <;> simp only [Region.token, Region.literalToken] <;> (repeat' split) <;>
    simp_all [Aligned]
  exact ⟨hone (by decide), by decide⟩

theorem aligned_step {scan : Scan} {first : UInt8} {rest : List UInt8}
    (haligned : Aligned scan (first :: rest)) : Aligned (scan.step first rest).2 rest := by
  obtain ⟨region, pending, shown⟩ := scan
  cases pending with
  | zero => exact aligned_token region first rest
  | succ pending =>
    rcases haligned with hzero | hescape | hascii
    · simp at hzero
    · exact Or.inl (by simpa [step] using hescape.1)
    · right; right
      simpa [step] using ⟨by simpa using hascii.1, fun byte hbyte => hascii.2 byte (by simp [hbyte])⟩

theorem mask_escape_append (region : Region) (hregion : region ≠ .code) (first : UInt8)
    (wide rest : List UInt8) (hwide : ∀ byte ∈ first :: wide, 128 ≤ byte) :
    mask ⟨region, 1, false⟩ (first :: wide ++ rest) =
      List.replicate (first :: wide).length space ++ mask ⟨region, 0, false⟩ rest := by
  have hnewline : first ≠ newline := by
    rintro rfl
    exact absurd (hwide newline List.mem_cons_self) (by decide)
  have hrest := mask_blank_append region hregion false wide rest
    fun byte hbyte => hwide byte (List.mem_cons_of_mem first hbyte)
  simp [mask, step, image, hnewline, List.replicate_succ, hrest]

/-- From an aligned state a multi-byte character stays visible as a whole or is blanked as a
whole. -/
theorem mask_wide_append {scan : Scan} {wide rest : List UInt8} (hne : wide ≠ [])
    (hwide : ∀ byte ∈ wide, 128 ≤ byte) (haligned : scan.Aligned (wide ++ rest)) :
    scan.mask (wide ++ rest) = wide ++ mask ⟨.code, 0, true⟩ rest ∨
      ∃ region, scan.mask (wide ++ rest) =
        List.replicate wide.length space ++ mask ⟨region, 0, false⟩ rest := by
  obtain ⟨first, others, rfl⟩ := List.exists_cons_of_ne_nil hne
  obtain ⟨region, pending, shown⟩ := scan
  cases pending with
  | zero =>
    by_cases hcode : region = .code
    · subst hcode
      exact Or.inl (mask_code_append shown _ rest hwide)
    · exact Or.inr ⟨region, mask_blank_append region hcode shown _ rest hwide⟩
  | succ pending =>
    rcases haligned with hzero | hescape | ⟨-, hascii⟩
    · exact absurd hzero (Nat.succ_ne_zero pending)
    · obtain ⟨rfl, rfl, hcode⟩ : pending = 0 ∧ shown = false ∧ region ≠ .code := by
        simpa using hescape
      exact Or.inr ⟨region, mask_escape_append region hcode first others rest hwide⟩
    · have hlow : first < 128 := hascii first (by simp)
      exact absurd hlow (UInt8.not_lt.mpr (hwide first List.mem_cons_self))

end Scan

/-- A masked text and the text that it stands for.  Each character is kept, or it is no line feed and
as many spaces as it has bytes take its place. -/
inductive Covers : List Char → List Char → Prop
  /-- Nothing stands for nothing. -/
  | nil : Covers [] []
  /-- A character is kept. -/
  | keep (character : Char) {masked text : List Char} :
      Covers masked text → Covers (character :: masked) (character :: text)
  /-- A character is blanked. -/
  | blank (character : Char) {masked text : List Char} : character ≠ '\n' →
      Covers masked text → Covers (List.replicate character.utf8Size ' ' ++ masked) (character :: text)

theorem encode_spaces_append (count : Nat) (masked : List Char) :
    Utf8.encode (List.replicate count ' ' ++ masked) =
      List.replicate count space ++ Utf8.encode masked := by
  have hspace : String.utf8EncodeChar ' ' = [space] := rfl
  induction count with
  | zero => rfl
  | succ count ih => simp [List.replicate_succ, hspace] at ih ⊢; exact ih

/-- Masking blanks whole characters only, so the masked bytes of a text encode a text. -/
theorem exists_encode_eq_mask (scan : Scan) (text : List Char)
    (haligned : scan.Aligned (Utf8.encode text)) :
    ∃ masked, Utf8.encode masked = scan.mask (Utf8.encode text) ∧ Covers masked text := by
  induction text generalizing scan with
  | nil => exact ⟨[], rfl, .nil⟩
  | cons character text ih =>
    rcases Utf8.encodeChar_cases character with ⟨byte, hbyte, hencode⟩ | ⟨hsize, hwide⟩
    · simp only [Utf8.encode_cons, hencode, List.singleton_append] at haligned ⊢
      obtain ⟨masked, hmasked, hcovers⟩ := ih _ (Scan.aligned_step haligned)
      by_cases hkept : (scan.step byte (Utf8.encode text)).1 = true ∨ byte = newline
      · exact ⟨character :: masked, by simp [Scan.mask, image, hkept, hencode, hmasked],
          .keep character hcovers⟩
      · have hwidth : character.utf8Size = 1 := by
          rw [← String.length_utf8EncodeChar, hencode, List.length_singleton]
        have hnewline : character ≠ '\n' := by
          rintro rfl
          exact hkept (Or.inr (List.singleton_inj.mp hencode).symm)
        have hblank := Covers.blank character hnewline hcovers
        rw [hwidth] at hblank
        exact ⟨' ' :: masked, by simp [Scan.mask, image, hkept, hmasked]; rfl, hblank⟩
    · have hnewline : character ≠ '\n' := by
        rintro rfl
        exact hsize rfl
      simp only [Utf8.encode_cons] at haligned ⊢
      rcases Scan.mask_wide_append String.utf8EncodeChar_ne_nil hwide haligned with hkept |
        ⟨region, hblanked⟩
      · obtain ⟨masked, hmasked, hcovers⟩ := ih ⟨.code, 0, true⟩ (Or.inl rfl)
        exact ⟨character :: masked, by rw [Utf8.encode_cons, hmasked, hkept],
          .keep character hcovers⟩
      · obtain ⟨masked, hmasked, hcovers⟩ := ih ⟨region, 0, false⟩ (Or.inl rfl)
        refine ⟨List.replicate character.utf8Size ' ' ++ masked, ?_,
          .blank character hnewline hcovers⟩
        rw [encode_spaces_append, hmasked, hblanked, String.length_utf8EncodeChar]

/-- The masked bytes of a source. -/
def maskBytes (bytes : List UInt8) : List UInt8 := Scan.start.mask bytes

theorem isValidUTF8_maskBytes (source : String) :
    (maskBytes (Utf8.encode source.toList)).toByteArray.IsValidUTF8 := by
  obtain ⟨masked, hmasked, -⟩ :=
    exists_encode_eq_mask Scan.start source.toList (Scan.aligned_start _)
  exact ⟨masked, by rw [maskBytes, ← hmasked]; rfl⟩

/-- The source with comments and the contents of literals blanked. -/
def mask (source : String) : String :=
  String.ofByteArray (maskBytes (Utf8.encode source.toList)).toByteArray
    (isValidUTF8_maskBytes source)

/-- The bytes of the masked source are those that the scan produces. -/
theorem encode_mask (source : String) :
    Utf8.encode (mask source).toList = maskBytes (Utf8.encode source.toList) := by
  have hbytes : (mask source).toList.utf8Encode =
      (maskBytes (Utf8.encode source.toList)).toByteArray := by
    rw [String.utf8Encode_toList]
    rfl
  exact List.toByteArray_inj.mp hbytes

end Java

end JavaDiff
