import JavaDiff.Proofs.Java.Concat
import JavaDiff.Proofs.Java.Lexeme

/-!
# Literals left open at the end of a line

An unterminated string or character literal ends with its line.  So behind a line that starts
neither a block comment nor a text block the scan is back in code, whatever quotes, backslashes and
slashes the line holds, and the following lines are masked as if they stood alone.

There is one exception.  A backslash in a literal takes the byte behind it along, also when that
byte is the line feed: then the literal goes on in the next line.  What follows a line is masked on
its own exactly when no such escape is open at the end of the line.
-/

namespace JavaDiff

namespace Java

open Ascii

/-- A line that starts neither a block comment nor a text block. -/
structure IsLine (line : String) : Prop where
  newline_notMem : '\n' ∉ line.toList
  blockComment_notInfix : ¬ ['/', '*'] <:+: line.toList
  textBlock_notInfix : ¬ ['"', '"', '"'] <:+: line.toList

/-- Whether a text ends inside a token, so that a backslash still waits for the byte that it
escapes.  `endsEscaping_iff` says so of the last lexeme of the text. -/
def EndsEscaping (text : String) : Prop :=
  (Scan.start.finish (Utf8.encode text.toList)).pending ≠ 0

instance (text : String) : Decidable (EndsEscaping text) :=
  inferInstanceAs (Decidable (_ ≠ _))

/-- A text ends inside an escape when its last lexeme is a literal that is not terminated, with an odd
number of backslashes at the end. -/
theorem endsEscaping_iff {text : String} {lexemes : List Lexeme}
    (hlexes : Lexes (Utf8.encode text.toList) lexemes) :
    EndsEscaping text ↔ ∃ enclosure body,
      lexemes.getLast? = some (.enclosed enclosure body []) ∧ enclosure.isLiteral = true ∧
        (body.reverse.takeWhile (· = backslash)).length % 2 = 1 := by
  rw [EndsEscaping, Scan.start, (hlexes.reads true).pending_ne_zero_iff]
  constructor
  · rintro ⟨last, hlast, hescape⟩
    cases last with
    | code => exact hescape.elim
    | enclosed enclosure body closer =>
      rcases closer with _ | ⟨first, closer⟩
      · obtain ⟨hliteral, hopen⟩ := hescape
        rw [Enclosure.isWhole_iff_length_takeWhile, Nat.mod_two_not_eq_zero] at hopen
        exact ⟨enclosure, body, hlast, hliteral, hopen⟩
      · exact hescape.elim
  · rintro ⟨enclosure, body, hlast, hliteral, hopen⟩
    rw [← Nat.mod_two_not_eq_zero, ← Enclosure.isWhole_iff_length_takeWhile] at hopen
    exact ⟨_, hlast, hliteral, hopen⟩

/-- Whether a region ends with the line at the latest. -/
structure Region.EndsWithLine (region : Region) : Prop where
  ne_blockComment : region ≠ .blockComment
  ne_textBlock : region ≠ .textBlock

/-- Where neither a block comment nor a text block starts, none is entered. -/
theorem Region.endsWithLine_token {region : Region} {first : UInt8} {rest : List UInt8}
    (hregion : region.EndsWithLine) (hcomment : ¬ [slash, star] <+: first :: rest)
    (htext : ¬ [quote, quote, quote] <+: first :: rest) :
    (region.token first rest).next.EndsWithLine := by
  have hstar : ¬ (first = slash ∧ rest.take 1 = [star]) := by
    rintro ⟨rfl, hahead⟩
    exact hcomment (by simp [List.prefix_iff_eq_take, hahead])
  have hquotes : ¬ (first = quote ∧ rest.take 2 = [quote, quote]) := by
    rintro ⟨rfl, hahead⟩
    exact htext (by simp [List.prefix_iff_eq_take, hahead])
  cases region with
  | blockComment => exact absurd rfl hregion.ne_blockComment
  | textBlock => exact absurd rfl hregion.ne_textBlock
  | code =>
    simp only [token, if_neg hstar, if_neg hquotes]
    (repeat' split) <;> exact ⟨by simp, by simp⟩
  | lineComment =>
    simp only [token]
    split <;> exact ⟨by simp, by simp⟩
  | string | character =>
    simp only [token, literalToken]
    (repeat' split) <;> exact ⟨by simp, by simp⟩

namespace Scan

/-- The scan of a line ends in a region that ends with the line. -/
theorem endsWithLine_finish {scan : Scan} {line : List UInt8} (hregion : scan.region.EndsWithLine)
    (hcomment : ¬ [slash, star] <:+: line) (htext : ¬ [quote, quote, quote] <:+: line) :
    (scan.finish line).region.EndsWithLine := by
  induction line generalizing scan with
  | nil => exact hregion
  | cons first rest ih =>
    apply ih _ (fun hrest => hcomment (hrest.trans (List.suffix_cons first rest).isInfix))
      (fun hrest => htext (hrest.trans (List.suffix_cons first rest).isInfix))
    obtain ⟨region, pending, shown⟩ := scan
    cases pending with
    | succ pending => exact hregion
    | zero =>
      exact Region.endsWithLine_token hregion (fun hprefix => hcomment hprefix.isInfix)
        (fun hprefix => htext hprefix.isInfix)

theorem aligned_finish {scan : Scan} {bytes : List UInt8} (haligned : scan.Aligned bytes) :
    (scan.finish bytes).Aligned [] := by
  induction bytes generalizing scan with
  | nil => exact haligned
  | cons first rest ih => exact ih (aligned_step haligned)

theorem step_newline {scan : Scan} (hregion : scan.region.EndsWithLine)
    (hpending : scan.pending = 0) : (scan.step newline []).2 = start := by
  obtain ⟨region, pending, shown⟩ := scan
  obtain rfl : pending = 0 := hpending
  cases region with
  | blockComment => exact absurd rfl hregion.ne_blockComment
  | textBlock => exact absurd rfl hregion.ne_textBlock
  | code | lineComment | string | character => rfl

/-- An open escape takes the line feed along, and the literal that it stands in goes on. -/
theorem step_newline_of_pending {scan : Scan} (haligned : scan.Aligned [])
    (hpending : scan.pending ≠ 0) :
    ∃ region, region ≠ .code ∧ (scan.step newline []).2 = ⟨region, 0, false⟩ := by
  obtain ⟨region, pending, shown⟩ := scan
  rcases haligned with hzero | ⟨rfl, rfl, hcode⟩ | ⟨hnone, -⟩
  · exact absurd hzero hpending
  · exact ⟨region, hcode, rfl⟩
  · exact absurd (Nat.le_zero.mp hnone) hpending

theorem mask_openBrace {region : Region} (hregion : region ≠ .code) (shown : Bool) :
    mask ⟨region, 0, shown⟩ [openBrace] = [space] := by
  cases region with
  | code => exact absurd rfl hregion
  | lineComment | blockComment | string | character | textBlock => rfl

end Scan

variable {line : String}

theorem IsLine.endsWithLine_finish (hline : IsLine line) :
    (Scan.start.finish (Utf8.encode line.toList)).region.EndsWithLine := by
  have hslash : String.utf8EncodeChar '/' = [slash] := rfl
  have hquote : String.utf8EncodeChar '"' = [quote] := rfl
  apply Scan.endsWithLine_finish ⟨by decide, by decide⟩
  · intro hcomment
    exact hline.blockComment_notInfix
      (Utf8.isInfix_of_encode_isInfix hslash (by decide) hcomment)
  · intro htext
    exact hline.textBlock_notInfix
      (Utf8.isInfix_of_encode_isInfix hquote (by decide) htext)

/-- A text behind a line feed is masked on its own exactly when its bytes are masked, from the state
behind the line feed, as they are from the start. -/
theorem mask_append_newline_iff {rest : String} :
    mask (line ++ "\n" ++ rest) = mask line ++ "\n" ++ mask rest ↔
      ((Scan.start.finish (Utf8.encode line.toList)).step newline []).2.mask
        (Utf8.encode rest.toList) = maskBytes (Utf8.encode rest.toList) := by
  have hnewline : Utf8.encode "\n".toList = [newline] := rfl
  have hwhole : Utf8.encode (mask (line ++ "\n" ++ rest)).toList =
      maskBytes (Utf8.encode line.toList) ++ newline ::
        ((Scan.start.finish (Utf8.encode line.toList)).step newline []).2.mask
          (Utf8.encode rest.toList) := by
    rw [encode_mask, String.toList_append, String.toList_append, Utf8.encode_append,
      Utf8.encode_append, hnewline, List.append_assoc, List.singleton_append, maskBytes,
      Scan.mask_append_newline]
    rfl
  have hparts : Utf8.encode (mask line ++ "\n" ++ mask rest).toList =
      maskBytes (Utf8.encode line.toList) ++ newline :: maskBytes (Utf8.encode rest.toList) := by
    rw [String.toList_append, String.toList_append, Utf8.encode_append, Utf8.encode_append,
      hnewline, encode_mask, encode_mask, List.append_assoc, List.singleton_append]
  constructor
  · intro hequal
    rw [hequal, hparts] at hwhole
    exact (List.cons.inj (List.append_cancel_left hwhole)).2.symm
  · intro hequal
    rw [hequal, ← hparts] at hwhole
    exact String.toList_injective (Utf8.encode_injective hwhole)

/-- Whatever follows a line is masked as if it stood alone, unless the line ends inside an
escape. -/
theorem mask_line_append_iff (hline : IsLine line) :
    (∀ rest, mask (line ++ "\n" ++ rest) = mask line ++ "\n" ++ mask rest) ↔
      ¬ EndsEscaping line := by
  constructor
  · intro halone hescaping
    obtain ⟨region, hcode, hbehind⟩ :=
      Scan.step_newline_of_pending (Scan.aligned_finish (Scan.aligned_start _)) hescaping
    have hbrace := mask_append_newline_iff.mp (halone "\x7b")
    rw [hbehind] at hbrace
    exact absurd ((Scan.mask_openBrace hcode false).symm.trans hbrace) (by decide)
  · intro hescaping rest
    have hpending := Decidable.not_not.mp hescaping
    rw [mask_append_newline_iff, Scan.step_newline hline.endsWithLine_finish hpending, maskBytes]

theorem mask_line_append_of_open_literal :
    IsLine "s = \"it\\\" // '\\\\" ∧ ¬ EndsEscaping "s = \"it\\\" // '\\\\" ∧
      mask ("s = \"it\\\" // '\\\\" ++ "\n" ++ "m() \x7b \x7d") =
        mask "s = \"it\\\" // '\\\\" ++ "\n" ++ mask "m() \x7b \x7d" := by
  have hline : IsLine "s = \"it\\\" // '\\\\" :=
    ⟨by decide +kernel, by decide +kernel, by decide +kernel⟩
  have hescaping : ¬ EndsEscaping "s = \"it\\\" // '\\\\" := by decide +kernel
  exact ⟨hline, hescaping, (mask_line_append_iff hline).mpr hescaping _⟩

/-- Behind a string that ends its line with a backslash, a brace is hidden. -/
theorem mask_line_append_ne_of_open_escape :
    IsLine "\"\\" ∧ mask ("\"\\" ++ "\n" ++ "\x7b") ≠ mask "\"\\" ++ "\n" ++ mask "\x7b" :=
  ⟨⟨by decide +kernel, by decide +kernel, by decide +kernel⟩, by decide +kernel⟩

end Java

end JavaDiff
