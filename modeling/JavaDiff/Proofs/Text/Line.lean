import JavaDiff.Proofs.Counter
import JavaDiff.Text.Line
import JavaDiff.Text.Utf8

/-!
# Line numbers count line feeds

The line number that the binary search finds for an offset is one more than the number of line feeds
in front of it.  The search keeps the starts below its range before the offset and the starts above
its range behind it, so where it ends it has found the offset or the place to insert it.  The starts
ascend, so either answer tells how many of them there are up to the offset, whichever way the range
was halved.

Line numbers are words of 32 bits, so they are counted modulo the number of words.  A number that is
no larger than the largest word is kept as it is, and nothing overflows on the way to it.  In a source
whose lines can all be numbered like that, the numbers grow with the offset, by one behind each line
feed.
-/

namespace JavaDiff

namespace LineIndex

namespace Place

/-- Whether a search for an offset among starts may have this outcome.  A start that is found is the
offset, and a missing offset would stand behind all lesser starts and in front of all greater
ones. -/
def IsFor (starts : List Nat) (offset : Nat) : Place → Prop
  | found index => starts[index]? = some offset
  | missing index =>
    index ≤ starts.length ∧ (∀ start ∈ starts.take index, start < offset) ∧
      ∀ start ∈ starts.drop index, offset < start

/-- The one-based number of the line at a place. -/
def line : Place → Nat
  | found index => index + 1
  | missing index => index

/-- The number of the line at a place in words of 32 bits, unless the largest word is counted
beyond. -/
def lineWord? : Place → Option UInt32
  | found index => if index.toUInt32 + 1 = 0 then none else some (index.toUInt32 + 1)
  | missing index => some index.toUInt32

end Place

theorem countP_eq_of_split {starts : List Nat} {offset count : Nat} (hcount : count ≤ starts.length)
    (hbelow : ∀ start ∈ starts.take count, start ≤ offset)
    (habove : ∀ start ∈ starts.drop count, offset < start) :
    starts.countP (· ≤ offset) = count := by
  have htake : (starts.take count).countP (· ≤ offset) = (starts.take count).length :=
    List.countP_eq_length.mpr fun start hstart => by simpa using hbelow start hstart
  have hdrop : (starts.drop count).countP (· ≤ offset) = 0 :=
    List.countP_eq_zero.mpr fun start hstart => by simpa using habove start hstart
  calc
    starts.countP (· ≤ offset) =
        (starts.take count ++ starts.drop count).countP (· ≤ offset) := by
      rw [List.take_append_drop]
    _ = count := by rw [List.countP_append, htake, hdrop, List.length_take]; omega

theorem lt_getElem_of_mem_take {starts : List Nat} (hascending : starts.Pairwise (· < ·))
    {index start : Nat} (hindex : index < starts.length) (hstart : start ∈ starts.take index) :
    start < starts[index] := by
  rw [← List.take_append_drop index starts, List.pairwise_append] at hascending
  apply hascending.2.2 start hstart
  rw [← List.getElem_cons_drop hindex]
  exact List.mem_cons_self

theorem getElem_lt_of_mem_drop {starts : List Nat} (hascending : starts.Pairwise (· < ·))
    {index start : Nat} (hindex : index < starts.length)
    (hstart : start ∈ starts.drop (index + 1)) : starts[index] < start := by
  rw [← List.take_append_drop index starts, List.pairwise_append, ← List.getElem_cons_drop hindex,
    List.pairwise_cons] at hascending
  exact hascending.2.1.1 start hstart

theorem le_getElem_of_mem_take_succ {starts : List Nat} (hascending : starts.Pairwise (· < ·))
    {index start : Nat} (hindex : index < starts.length)
    (hstart : start ∈ starts.take (index + 1)) : start ≤ starts[index] := by
  rw [← List.take_append_getElem hindex] at hstart
  rcases List.mem_append.mp hstart with hstart | hstart
  · exact Nat.le_of_lt (lt_getElem_of_mem_take hascending hindex hstart)
  · exact Nat.le_of_eq (List.mem_singleton.mp hstart)

/-- The search ends at a place for the offset.  Its invariant: the starts before `low` lie before the
offset, those from `high` on behind it. -/
theorem isFor_search {starts : Array Nat} {offset low high : Nat}
    (hascending : starts.toList.Pairwise (· < ·)) (hrange : low ≤ high) (hsize : high ≤ starts.size)
    (hbelow : ∀ start ∈ starts.toList.take low, start < offset)
    (habove : ∀ start ∈ starts.toList.drop high, offset < start) :
    (search starts offset low high).IsFor starts.toList offset := by
  fun_induction search starts offset low high with
  | case1 low high hopen middle hmiddle hequal =>
    exact List.getElem?_eq_some_iff.mpr ⟨hmiddle, hequal⟩
  | case2 low high hopen middle hmiddle hequal hless ih =>
    refine ih (by omega) hsize (fun start hstart => ?_) habove
    exact Nat.lt_of_le_of_lt (le_getElem_of_mem_take_succ hascending hmiddle hstart) hless
  | case3 low high hopen middle hmiddle hequal hless ih =>
    have hmiddleAbove : offset < starts[middle] := by omega
    refine ih (by omega) (by omega) hbelow fun start hstart => ?_
    have hdrop : starts[middle] :: starts.toList.drop (middle + 1) = starts.toList.drop middle :=
      List.getElem_cons_drop hmiddle
    rw [← hdrop] at hstart
    rcases List.mem_cons.mp hstart with rfl | hstart
    · exact hmiddleAbove
    · exact Nat.lt_trans hmiddleAbove (getElem_lt_of_mem_drop hascending hmiddle hstart)
  | case4 low high hclosed =>
    obtain rfl : low = high := by omega
    exact ⟨hsize, hbelow, habove⟩

/-- At whichever place a search ends, the number of the line is that of the starts up to the
offset. -/
theorem Place.IsFor.line_eq_countP {place : Place} {starts : List Nat} {offset : Nat}
    (hplace : place.IsFor starts offset) (hascending : starts.Pairwise (· < ·)) :
    place.line = starts.countP (· ≤ offset) := by
  cases place with
  | found index =>
    obtain ⟨hindex, rfl⟩ := List.getElem?_eq_some_iff.mp hplace
    refine (countP_eq_of_split (Nat.succ_le_of_lt hindex) ?_ ?_).symm
    · exact fun start hstart => le_getElem_of_mem_take_succ hascending hindex hstart
    · exact fun start hstart => getElem_lt_of_mem_drop hascending hindex hstart
  | missing index =>
    obtain ⟨hindex, hbelow, habove⟩ := hplace
    exact (countP_eq_of_split hindex (fun start hstart => Nat.le_of_lt (hbelow start hstart))
      habove).symm

theorem Place.lineWord_eq_ofNat_line (place : Place) : place.lineWord = UInt32.ofNat place.line := by
  cases place with
  | found index => exact (UInt32.ofNat_add index 1).symm
  | missing index => rfl

theorem Place.lineWord?_eq_some {place : Place} (hline : place.line < Nat.pow 2 32) :
    place.lineWord? = some place.lineWord := by
  have hnumber : place.lineWord.toNat = place.line := by
    rw [lineWord_eq_ofNat_line]
    exact UInt32.toNat_ofNat_of_lt' hline
  cases place with
  | found index =>
    refine if_neg fun hzero => ?_
    rw [lineWord, hzero] at hnumber
    exact Nat.succ_ne_zero index hnumber.symm
  | missing index => rfl

theorem lt_of_mem_startsFrom {offset start : Nat} {bytes : List UInt8}
    (hstart : start ∈ startsFrom offset bytes) : offset < start := by
  induction bytes generalizing offset with
  | nil => simp [startsFrom] at hstart
  | cons byte rest ih =>
    unfold startsFrom at hstart
    split at hstart
    · rcases List.mem_cons.mp hstart with rfl | hstart
      · omega
      · have hlater := ih hstart
        omega
    · have hlater := ih hstart
      omega

theorem pairwise_startsFrom (offset : Nat) (bytes : List UInt8) :
    (startsFrom offset bytes).Pairwise (· < ·) := by
  induction bytes generalizing offset with
  | nil => exact List.Pairwise.nil
  | cons byte rest ih =>
    unfold startsFrom
    split
    · exact List.pairwise_cons.mpr ⟨fun start hstart => lt_of_mem_startsFrom hstart, ih _⟩
    · exact ih _

/-- The lines that start up to an offset are as many as the line feeds in front of it. -/
theorem countP_startsFrom (base offset : Nat) (bytes : List UInt8) :
    (startsFrom base bytes).countP (· ≤ base + offset) =
      (bytes.take offset).count Ascii.newline := by
  induction bytes generalizing base offset with
  | nil => simp [startsFrom]
  | cons byte rest ih =>
    cases offset with
    | zero =>
      rw [List.take_zero, List.count_nil, List.countP_eq_zero]
      intro start hstart
      have hlater := lt_of_mem_startsFrom hstart
      simpa using hlater
    | succ offset =>
      have hrest := ih (base + 1) offset
      rw [Nat.add_assoc, Nat.add_comm 1] at hrest
      unfold startsFrom
      split
      · rename_i hnewline
        rw [List.countP_cons, hrest, hnewline, List.take_succ_cons, List.count_cons_self]
        simp
      · rename_i hother
        rw [hrest, List.take_succ_cons, List.count_cons_of_ne hother]

theorem pairwise_starts_ofBytes (bytes : List UInt8) :
    (ofBytes bytes).starts.toList.Pairwise (· < ·) :=
  List.pairwise_cons.mpr
    ⟨fun _ hstart => lt_of_mem_startsFrom hstart, pairwise_startsFrom 0 bytes⟩

theorem countP_starts_ofBytes (bytes : List UInt8) (offset : Nat) :
    (ofBytes bytes).starts.toList.countP (· ≤ offset) =
      (bytes.take offset).count Ascii.newline + 1 := by
  have hcount := countP_startsFrom 0 offset bytes
  rw [Nat.zero_add] at hcount
  rw [ofBytes, List.countP_cons, hcount]
  simp

theorem isFor_search_ofBytes (bytes : List UInt8) (offset : Nat) :
    (search (ofBytes bytes).starts offset 0 (ofBytes bytes).starts.size).IsFor
      (ofBytes bytes).starts.toList offset :=
  isFor_search (pairwise_starts_ofBytes bytes) (Nat.zero_le _) (Nat.le_refl _) (by simp)
    (by rw [← Array.length_toList, List.drop_length]; simp)

theorem Place.IsFor.line_eq {place : Place} {bytes : List UInt8} {offset : Nat}
    (hplace : place.IsFor (ofBytes bytes).starts.toList offset) :
    place.line = (bytes.take offset).count Ascii.newline + 1 := by
  rw [hplace.line_eq_countP (pairwise_starts_ofBytes bytes), countP_starts_ofBytes]

theorem lineOf_ofBytes (bytes : List UInt8) (offset : Nat) :
    (ofBytes bytes).lineOf offset =
      UInt32.ofNat ((bytes.take offset).count Ascii.newline + 1) := by
  rw [lineOf, Place.lineWord_eq_ofNat_line, (isFor_search_ofBytes bytes offset).line_eq]

theorem countsTo_lineOf_ofBytes (bytes : List UInt8) (offset : Nat) :
    CountsTo ((ofBytes bytes).lineOf offset) ((bytes.take offset).count Ascii.newline + 1) :=
  lineOf_ofBytes bytes offset ▸ countsTo_ofNat _

theorem toNat_lineOf_ofBytes_le (bytes : List UInt8) (offset : Nat) :
    ((ofBytes bytes).lineOf offset).toNat ≤ bytes.count Ascii.newline + 1 :=
  Nat.le_trans (countsTo_lineOf_ofBytes bytes offset).toNat_le
    (Nat.succ_le_succ ((List.take_sublist offset bytes).count_le _))

theorem count_take_lt_of_lt {bytes : List UInt8} {limit : Nat}
    (hlines : bytes.count Ascii.newline + 1 < limit) (offset : Nat) :
    (bytes.take offset).count Ascii.newline + 1 < limit :=
  Nat.lt_of_le_of_lt (Nat.succ_le_succ ((List.take_sublist offset bytes).count_le _)) hlines

/-- Where the number of lines fits into a word, no line number overflows. -/
theorem lineWord?_eq_some_lineOf {place : Place} {bytes : List UInt8} {offset : Nat}
    (hlines : bytes.count Ascii.newline + 1 < Nat.pow 2 32)
    (hplace : place.IsFor (ofBytes bytes).starts.toList offset) :
    place.lineWord? = some ((ofBytes bytes).lineOf offset) := by
  rw [Place.lineWord?_eq_some (hplace.line_eq ▸ count_take_lt_of_lt hlines offset),
    Place.lineWord_eq_ofNat_line, hplace.line_eq, lineOf_ofBytes]

theorem lineWord?_search {bytes : List UInt8}
    (hlines : bytes.count Ascii.newline + 1 < Nat.pow 2 32) (offset : Nat) :
    (search (ofBytes bytes).starts offset 0 (ofBytes bytes).starts.size).lineWord? =
      some ((ofBytes bytes).lineOf offset) :=
  lineWord?_eq_some_lineOf hlines (isFor_search_ofBytes bytes offset)

theorem count_take_le_count_take (bytes : List UInt8) {offset later : Nat} (hle : offset ≤ later) :
    (bytes.take offset).count Ascii.newline ≤ (bytes.take later).count Ascii.newline :=
  (List.take_prefix_take_left hle).sublist.count_le _

theorem count_take_succ (bytes : List UInt8) (offset : Nat) :
    (bytes.take (offset + 1)).count Ascii.newline =
      (bytes.take offset).count Ascii.newline +
        if bytes[offset]? = some Ascii.newline then 1 else 0 := by
  rw [List.take_add_one, List.count_append]
  congr 1
  cases bytes[offset]? with
  | none => rfl
  | some byte => simp [List.count_singleton]

/-- The line number of an offset is one more than the number of line feeds of a source in front of
it, also past the end, and every search that ends at a place for the offset gives this number.  It is
counted in words of 32 bits.  Where the number of lines fits into a word, it is counted without an
overflow: then the first line is one, a later offset is on no earlier line, and the number grows by
one exactly behind a line feed. -/
theorem lineOf_counts (source : String) :
    let bytes := Utf8.encode source.toList
    let lines := ofBytes bytes
    (∀ offset, lines.lineOf offset =
      UInt32.ofNat (1 + (bytes.take offset).count Ascii.newline)) ∧
    (∀ offset, (search lines.starts offset 0 lines.starts.size).IsFor lines.starts.toList offset) ∧
    (∀ offset (place : Place), place.IsFor lines.starts.toList offset →
      place.line = 1 + (bytes.take offset).count Ascii.newline ∧
        place.lineWord = lines.lineOf offset) ∧
    (bytes.count Ascii.newline + 1 < Nat.pow 2 32 →
      (∀ offset, (lines.lineOf offset).toNat = 1 + (bytes.take offset).count Ascii.newline) ∧
      (∀ offset (place : Place), place.IsFor lines.starts.toList offset →
        place.lineWord? = some (lines.lineOf offset)) ∧
      (∀ offset, 1 ≤ lines.lineOf offset) ∧
      (∀ offset later, offset ≤ later → lines.lineOf offset ≤ lines.lineOf later) ∧
      ∀ offset, (lines.lineOf (offset + 1)).toNat = (lines.lineOf offset).toNat +
        if bytes[offset]? = some Ascii.newline then 1 else 0) := by
  intro bytes lines
  have hplace (offset : Nat) (place : Place) (hfor : place.IsFor lines.starts.toList offset) :
      place.line = 1 + (bytes.take offset).count Ascii.newline ∧
        place.lineWord = lines.lineOf offset := by
    refine ⟨hfor.line_eq.trans (Nat.add_comm ..), ?_⟩
    rw [Place.lineWord_eq_ofNat_line, hfor.line_eq, lineOf_ofBytes]
  refine ⟨fun offset => ?_, isFor_search_ofBytes bytes, hplace, fun hlines => ?_⟩
  · rw [lineOf_ofBytes, Nat.add_comm]
  have hnumber (offset : Nat) :
      (lines.lineOf offset).toNat = 1 + (bytes.take offset).count Ascii.newline := by
    rw [(countsTo_lineOf_ofBytes bytes offset).toNat_eq (count_take_lt_of_lt hlines offset),
      Nat.add_comm]
  refine ⟨hnumber, fun offset place hfor => lineWord?_eq_some_lineOf hlines hfor, fun offset => ?_,
    fun offset later hle => ?_, fun offset => ?_⟩
  · rw [UInt32.le_iff_toNat_le, hnumber]
    exact Nat.le_add_right 1 _
  · rw [UInt32.le_iff_toNat_le, hnumber, hnumber]
    exact Nat.add_le_add_left (count_take_le_count_take bytes hle) 1
  · rw [hnumber, hnumber, count_take_succ, Nat.add_assoc]

/-- The third line is empty, and past the end the last line goes on. -/
theorem lineOf_counts_emptyLine :
    let bytes := Utf8.encode "ab\ncd\n\nef".toList
    let lines := ofBytes bytes
    ((Place.found 3).IsFor lines.starts.toList 7 ∧ (Place.missing 4).IsFor lines.starts.toList 12 ∧
      bytes.count Ascii.newline + 1 < Nat.pow 2 32 ∧ 7 ≤ 12) ∧
    (lines.lineOf 6 = 3 ∧ (lines.lineOf 7).toNat = (lines.lineOf 6).toNat + 1) ∧
    ((Place.found 3).lineWord? = some (lines.lineOf 7) ∧
      (Place.missing 4).lineWord? = some (lines.lineOf 12)) ∧
    lines.lineOf 7 ≤ lines.lineOf 12 := by
  intro bytes lines
  have hfound : (Place.found 3).IsFor lines.starts.toList 7 := by
    unfold Place.IsFor
    decide
  have hmissing : (Place.missing 4).IsFor lines.starts.toList 12 := by
    unfold Place.IsFor
    decide
  have hlines : bytes.count Ascii.newline + 1 < Nat.pow 2 32 := by decide
  obtain ⟨hcount, -, -, hexact⟩ := lineOf_counts "ab\ncd\n\nef"
  obtain ⟨-, hword, -, hmono, hstep⟩ := hexact hlines
  exact ⟨⟨hfound, hmissing, hlines, by decide⟩, ⟨(hcount 6).trans (by decide), hstep 6⟩,
    ⟨hword 7 _ hfound, hword 12 _ hmissing⟩, hmono 7 12 (by decide)⟩

end LineIndex

end JavaDiff
