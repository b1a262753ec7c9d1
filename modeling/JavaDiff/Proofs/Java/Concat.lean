import JavaDiff.Proofs.Java.Mask

/-!
# Masking behind a finished line

The scan never looks past a line feed.  So when a source ends with a line feed and the scan is in
code there, whatever is appended to it is masked as if it stood alone.  Behind any other end of a
source, appended text can only change how the last two bytes in front of it are masked.
-/

namespace JavaDiff

namespace Java

open Ascii

/-- Whether a source ends with a line feed and the scan is in code behind it. -/
structure EndsLine (source : String) : Prop where
  getLast?_eq : source.toList.getLast? = some '\n'
  region_eq : (Scan.start.finish (Utf8.encode source.toList)).region = .code

namespace Scan

/-- The scan does not look past a line feed, and a line feed ahead changes no token. -/
theorem step_append_newline (scan : Scan) (first : UInt8) (front back : List UInt8) :
    scan.step first (front ++ newline :: back) = scan.step first front := by
  have hnone (byte : UInt8) (hbyte : byte ≠ newline) (rest others : List UInt8) :
      ¬ newline :: rest = byte :: others := fun hequal => hbyte (List.cons.inj hequal).1.symm
  have hmarks : slash ≠ newline ∧ star ≠ newline ∧ quote ≠ newline := by decide
  obtain ⟨region, pending, shown⟩ := scan
  cases pending with
  | succ pending => rfl
  | zero =>
    match front with
    | second :: third :: front => rfl
    | [second] => cases region <;> simp [step, Region.token, hnone, hmarks]
    | [] => cases region <;> simp [step, Region.token, hnone, hmarks]

/-- A text is masked up to a line feed as if it ended there, and what follows is masked from the
state behind the line feed. -/
theorem mask_append_newline (scan : Scan) (front back : List UInt8) :
    scan.mask (front ++ newline :: back) =
      scan.mask front ++ newline :: ((scan.finish front).step newline []).2.mask back := by
  induction front generalizing scan with
  | nil =>
    have hahead : scan.step newline back = scan.step newline [] := by
      obtain ⟨region, pending, shown⟩ := scan
      cases pending with
      | succ pending => rfl
      | zero => cases region <;> rfl
    simp [mask, finish, hahead, image]
  | cons first front ih =>
    rw [List.cons_append, mask, step_append_newline, ih, mask, finish, List.cons_append]

theorem finish_append_newline (scan : Scan) (front : List UInt8) :
    scan.finish (front ++ [newline]) = ((scan.finish front).step newline []).2 := by
  induction front generalizing scan with
  | nil => rfl
  | cons first front ih => rw [List.cons_append, finish, step_append_newline, ih, finish]

theorem pending_finish_newline (scan : Scan) (front : List UInt8)
    (haligned : scan.Aligned (front ++ [newline])) :
    (scan.finish (front ++ [newline])).pending = 0 := by
  induction front generalizing scan with
  | nil =>
    obtain ⟨region, pending, shown⟩ := scan
    cases pending with
    | zero => cases region <;> rfl
    | succ pending =>
      rcases haligned with hzero | hescape | hascii
      · cases hzero
      · exact Nat.succ.inj hescape.1
      · exact Nat.le_zero.mp (Nat.le_of_succ_le_succ hascii.1)
  | cons first front ih => exact ih _ (aligned_step haligned)

end Scan

variable {front : String}

theorem EndsLine.exists_encode_eq (hfront : EndsLine front) :
    ∃ line, Utf8.encode front.toList = line ++ [newline] := by
  obtain ⟨line, hline⟩ := List.getLast?_eq_some_iff.mp hfront.getLast?_eq
  exact ⟨Utf8.encode line, by rw [hline, Utf8.encode_append]; rfl⟩

/-- Behind a line feed with which the scan is back in code, the text is masked as if it stood
alone. -/
theorem maskBytes_append_newline {line : List UInt8}
    (hregion : (Scan.start.finish (line ++ [newline])).region = .code)
    (hpending : (Scan.start.finish (line ++ [newline])).pending = 0) (back : List UInt8) :
    maskBytes (line ++ newline :: back) = maskBytes line ++ newline :: maskBytes back := by
  rw [Scan.finish_append_newline] at hregion hpending
  rw [maskBytes, Scan.mask_append_newline]
  generalize ((Scan.start.finish line).step newline []).2 = scan at hregion hpending ⊢
  obtain ⟨region, pending, shown⟩ := scan
  obtain rfl : region = .code := hregion
  obtain rfl : pending = 0 := hpending
  rw [Scan.mask_idle .code shown true back]
  rfl

theorem EndsLine.maskBytes_append (hfront : EndsLine front) (back : List UInt8) :
    maskBytes (Utf8.encode front.toList ++ back) =
      maskBytes (Utf8.encode front.toList) ++ maskBytes back := by
  obtain ⟨line, hline⟩ := hfront.exists_encode_eq
  have hregion := hfront.region_eq
  have hpending := Scan.pending_finish_newline Scan.start line (Scan.aligned_start _)
  rw [hline] at hregion ⊢
  have hmask := maskBytes_append_newline hregion hpending
  rw [List.append_assoc, List.singleton_append, hmask back, hmask [], List.append_assoc,
    List.cons_append]
  rfl

theorem EndsLine.mask_append (hfront : EndsLine front) (back : String) :
    mask (front ++ back) = mask front ++ mask back := by
  apply String.toList_injective
  apply Utf8.encode_injective
  rw [encode_mask, String.toList_append, String.toList_append, Utf8.encode_append,
    Utf8.encode_append, encode_mask, encode_mask, hfront.maskBytes_append]

theorem EndsLine.toList_mask_append (hfront : EndsLine front) (back : String) :
    (mask (front ++ back)).toList = (mask front).toList ++ (mask back).toList := by
  rw [hfront.mask_append, String.toList_append]

/-- Masking is local: appended text changes nothing in front of the last two bytes of a source, and
nothing at all behind a finished line, where it is itself masked as if it stood alone. -/
theorem mask_append_local (front back : String) :
    (∀ offset, offset + 2 < Utf8.size front.toList →
      (Utf8.encode (mask (front ++ back)).toList)[offset]? =
        (Utf8.encode (mask front).toList)[offset]?) ∧
    (EndsLine front → mask (front ++ back) = mask front ++ mask back) := by
  refine ⟨fun offset hoffset => ?_, fun hfront => hfront.mask_append back⟩
  have hinside : offset < (Utf8.encode front.toList).length - 2 := by
    rw [Utf8.length_encode]
    omega
  rw [encode_mask, encode_mask, String.toList_append, Utf8.encode_append, maskBytes, maskBytes,
    ← List.getElem?_take_of_lt hinside, Scan.take_mask_append, List.getElem?_take_of_lt hinside]

/-- A brace in a literal is hidden by the line that holds it, and one behind that line is not. -/
theorem mask_append_local_brace :
    (Utf8.encode (mask ("s = \"\x7b\";\n" ++ "\x7b\"")).toList)[5]? =
        (Utf8.encode (mask "s = \"\x7b\";\n").toList)[5]? ∧
      mask ("s = \"\x7b\";\n" ++ "\x7b\"") = mask "s = \"\x7b\";\n" ++ mask "\x7b\"" := by
  have hfront : EndsLine "s = \"\x7b\";\n" := ⟨by decide +kernel, by decide +kernel⟩
  obtain ⟨hinside, hbehind⟩ := mask_append_local "s = \"\x7b\";\n" "\x7b\""
  exact ⟨hinside 5 (by decide +kernel), hbehind hfront⟩

/-- The last two bytes in front of appended text may change: two quotes at the end of a text block
are blanked unless a third one follows. -/
example : (Utf8.encode (mask ("\"\"\" \"\"" ++ "\"")).toList)[4]? ≠
    (Utf8.encode (mask "\"\"\" \"\"").toList)[4]? := by decide +kernel

end Java

end JavaDiff
