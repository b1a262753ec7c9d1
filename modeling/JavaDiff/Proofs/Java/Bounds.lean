import JavaDiff.Proofs.Java.Layout

/-!
# What an outline reads and cuts

Whatever a source holds, its outline comes to an end with an outline or with an error about the
source: no text is ever cut inside a character or behind the end.  Searches start inside the bytes.
Names and the words in front of them are whole runs of identifier bytes, so they can be cut where they
stand although they are found in the masked source.  Behind each method that is found the search for
methods goes on inside the body.  No line number overflows as long as the number of lines fits into a
word.
-/

namespace JavaDiff

namespace Java

open Ascii

/-- What is read and cut at a parenthesis of a body that ends at `close`.  In front of it stands a
name or none, in front of the name another word or none.  If there is a method, its name and its text
can be cut, and the search for methods goes on behind it. -/
structure IsSafeParen (masked source : List Char) (close paren : Nat) : Prop where
  name_isWordSlice : ∀ name,
    lastIdentifier? ((Utf8.encode masked).take paren).reverse = some name →
    IsWordSlice source name.word (name.startAt paren) (name.stopAt paren)
  word_isWordSlice : ∀ name word,
    lastIdentifier? ((Utf8.encode masked).take paren).reverse = some name →
    lastIdentifier? name.before = some word →
    IsWordSlice source word.word (word.startAt (name.startAt paren))
      (word.stopAt (name.startAt paren))
  method_isSlice : ∀ span,
    methodAt? ((Utf8.encode masked).take paren).reverse paren
      (((Utf8.encode masked).take close).drop (paren + 1)) = some span →
    IsSlice source span.start span.nameStop ∧ IsSlice source span.start (span.close + 1)
  search_resumes : ∀ span,
    methodAt? ((Utf8.encode masked).take paren).reverse paren
      (((Utf8.encode masked).take close).drop (paren + 1)) = some span →
    paren < span.close + 1 ∧ span.close + 1 ≤ close ∧
      methodSpans (Utf8.encode masked) paren close =
        span :: methodSpans (Utf8.encode masked) (span.close + 1) close

/-- What is read and cut for a declaration with its body between two braces.  A run of identifier
bytes and the way to the brace of a method body both end in front of the closing brace. -/
structure IsSafeBody (masked source : List Char) (head : Head) (opening close : Nat) : Prop where
  close_lt_length : close < (Utf8.encode masked).length
  text_isSlice : IsSlice source head.start (close + 1)
  membersStart_le : ∀ start,
    membersStart? head.kind (Utf8.encode masked) opening close = some start → start ≤ close
  run_le : ∀ start, start ≤ close →
    start + (((Utf8.encode masked).drop start).takeWhile isIdentifier).length ≤ close
  body_lt : ∀ start distance, start ≤ close →
    bodyDistance? (((Utf8.encode masked).take close).drop start) = some distance →
    start + distance < close ∧ (Utf8.encode masked)[start + distance]? = some openBrace
  isSafeParen : ∀ paren, paren < close → (Utf8.encode masked)[paren]? = some openParen →
    IsSafeParen masked source close paren

variable {masked source : List Char}

theorem bodyDistance?_eq_some {bytes : List UInt8} {distance : Nat}
    (hdistance : bodyDistance? bytes = some distance) : bytes[distance]? = some openBrace := by
  have hbehind (property : UInt8 → Bool) (bytes : List UInt8) (index : Nat) :
      bytes[(bytes.takeWhile property).length + index]? = (bytes.dropWhile property)[index]? := by
    have hsplit : (bytes.takeWhile property ++ bytes.dropWhile property)[
        (bytes.takeWhile property).length + index]? = (bytes.dropWhile property)[index]? := by
      rw [List.getElem?_append_right (Nat.le_add_right ..), Nat.add_sub_cancel_left]
    rwa [List.takeWhile_append_dropWhile] at hsplit
  unfold bodyDistance? at hdistance
  dsimp only at hdistance
  split at hdistance
  · cases hdistance
  · rename_i first rest htrimmed
    split at hdistance
    · split at hdistance
      · rename_i hthrows
        obtain ⟨length, -, hdistance⟩ := Option.bind_eq_some_iff.mp hdistance
        split at hdistance
        · rename_i hbrace
          obtain rfl := Option.some.inj hdistance
          rw [Nat.add_assoc, hbehind, ← hthrows, hbehind, hbrace]
        · cases hdistance
      · cases hdistance
    · split at hdistance
      · rename_i hbrace
        obtain rfl := Option.some.inj hdistance
        rw [← Nat.add_zero (bytes.takeWhile isBlank).length, hbehind, htrimmed, hbrace]
        rfl
      · cases hdistance

theorem reverse_take_succ {bytes : List UInt8} {offset : Nat} {byte : UInt8}
    (hbyte : bytes[offset]? = some byte) :
    (bytes.take (offset + 1)).reverse = byte :: (bytes.take offset).reverse := by
  rw [List.take_add_one, hbyte, Option.toList_some, List.reverse_append, List.reverse_singleton,
    List.singleton_append]

/-- The bytes of the last method found are passed over. -/
theorem methodSpansFrom_skip {bytes : List UInt8} {skip offset : Nat} (depth : Nat)
    (hskip : offset + skip ≤ bytes.length) :
    methodSpansFrom skip depth (bytes.take offset).reverse offset (bytes.drop offset) =
      methodSpansFrom 0 depth (bytes.take (offset + skip)).reverse (offset + skip)
        (bytes.drop (offset + skip)) := by
  induction skip generalizing offset with
  | zero => rfl
  | succ skip ih =>
    have hbyte := List.getElem?_eq_getElem (l := bytes) (i := offset) (by omega)
    rw [drop_eq_cons hbyte, methodSpansFrom, ← reverse_take_succ hbyte, ih (by omega),
      Nat.add_right_comm, Nat.add_assoc]

theorem methodSpans_eq_take {bytes : List UInt8} {start close : Nat} (hstart : start ≤ close) :
    methodSpans bytes start close =
      methodSpansFrom 0 0 ((bytes.take close).take start).reverse start
        ((bytes.take close).drop start) := by
  rw [methodSpans, List.take_take, Nat.min_eq_left hstart]

section Paren

variable {bytes : List UInt8} {close paren : Nat} {span : MethodSpan}

theorem isMethod_of_methodAt?_take (hclose : paren < close)
    (hparen : bytes[paren]? = some openParen)
    (hspan : methodAt? (bytes.take paren).reverse paren ((bytes.take close).drop (paren + 1)) =
      some span) :
    span.IsMethod bytes ∧ span.paren = paren ∧ span.close < close := by
  obtain ⟨hlength, -⟩ := List.getElem?_eq_some_iff.mp hparen
  have hbefore : (bytes.take paren).reverse.length = paren := by
    rw [List.length_reverse, List.length_take]
    omega
  have hinside : (bytes.take close)[paren]? = some openParen := by
    rw [List.getElem?_take_of_lt hclose, hparen]
  have htake : (bytes.take close).take paren = bytes.take paren := by
    rw [List.take_take, Nat.min_eq_left (Nat.le_of_lt hclose)]
  have hbody : (bytes.take paren).reverse.reverse ++
      openParen :: (bytes.take close).drop (paren + 1) = bytes.take close := by
    rw [List.reverse_reverse, ← drop_eq_cons hinside, ← htake, List.take_append_drop]
  have hfound : methodAt? (bytes.take paren).reverse (bytes.take paren).reverse.length
      ((bytes.take close).drop (paren + 1)) = some span := by
    rw [hbefore, hspan]
  obtain ⟨hmethod, hplace⟩ := isMethod_of_methodAt? hfound
  rw [hbody] at hmethod
  have hend := hmethod.close_lt_length
  have happend := hmethod.append (bytes.drop close)
  rw [List.length_take] at hend
  rw [List.take_append_drop] at happend
  exact ⟨happend, hplace.trans hbefore, by omega⟩

/-- Behind a method the search goes on where its body ends. -/
theorem methodSpans_eq_cons (hclose : paren < close) (hparen : bytes[paren]? = some openParen)
    (hspan : methodAt? (bytes.take paren).reverse paren ((bytes.take close).drop (paren + 1)) =
      some span) :
    methodSpans bytes paren close = span :: methodSpans bytes (span.close + 1) close := by
  obtain ⟨hmethod, hplace, hend⟩ := isMethod_of_methodAt?_take hclose hparen hspan
  have hbody := hmethod.paren_lt_close
  have hlength := hmethod.close_lt_length
  have hinside : (bytes.take close)[paren]? = some openParen := by
    rw [List.getElem?_take_of_lt hclose, hparen]
  have hskip : paren + 1 + (span.close - paren) ≤ (bytes.take close).length := by
    rw [List.length_take]
    omega
  have hresume : paren + 1 + (span.close - paren) = span.close + 1 := by omega
  have htake : (bytes.take close).take paren = bytes.take paren := by
    rw [List.take_take, Nat.min_eq_left (Nat.le_of_lt hclose)]
  rw [methodSpans_eq_take (Nat.le_of_lt hclose), methodSpans_eq_take (Nat.succ_le_of_lt hend),
    drop_eq_cons hinside, methodSpansFrom, if_neg (by decide), if_neg (by decide),
    if_pos ⟨rfl, rfl⟩, htake, hspan, ← htake, ← reverse_take_succ hinside]
  dsimp only
  rw [methodSpansFrom_skip 0 hskip, hresume]

end Paren

theorem isSafeParen (hcovers : Covers masked source) {close paren : Nat} (hclose : paren < close)
    (hparen : (Utf8.encode masked)[paren]? = some openParen) :
    IsSafeParen masked source close paren := by
  constructor
  case name_isWordSlice => exact fun name => isWordSlice_name hcovers hparen
  case word_isWordSlice => exact fun name word => isWordSlice_word hcovers hparen
  case method_isSlice =>
    intro span hspan
    obtain ⟨hmethod, -, -⟩ := isMethod_of_methodAt?_take hclose hparen hspan
    have hname := hmethod.start_lt_nameStop
    have hstop := hmethod.nameStop_le_paren
    have hbody := hmethod.paren_lt_close
    have hstart := hmethod.isBoundary_start hcovers
    exact ⟨⟨Nat.le_of_lt hname, hstart, hmethod.isBoundary_nameStop hcovers⟩,
      by omega, hstart, hmethod.isBoundary_stop hcovers⟩
  case search_resumes =>
    intro span hspan
    obtain ⟨hmethod, hplace, hend⟩ := isMethod_of_methodAt?_take hclose hparen hspan
    have hbody := hmethod.paren_lt_close
    exact ⟨by omega, hend, methodSpans_eq_cons hclose hparen hspan⟩

theorem IsComplete.isSafeBody {head : Head} {opening close : Nat}
    (hcomplete : IsComplete (Utf8.encode masked) head opening close)
    (hcovers : Covers masked source) : IsSafeBody masked source head opening close := by
  have hopening := hcomplete.start_lt_opening
  have hbody := hcomplete.opening_lt_close
  have hlength := hcomplete.close_lt_length
  constructor
  case close_lt_length => exact hlength
  case text_isSlice =>
    exact ⟨by omega, hcomplete.isBoundary_start hcovers,
      isBoundary_succ hcovers hcomplete.closeBrace_at (by decide) (by decide)⟩
  case membersStart_le =>
    intro start hstart
    exact (membersStart?_bounds hbody hstart).2
  case run_le =>
    -- The closing brace is no identifier byte, so a run in front of it ends there at the latest.
    intro start hstart
    have hsplit : (Utf8.encode masked).drop start = ((Utf8.encode masked).take close).drop start ++
        closeBrace :: (Utf8.encode masked).drop (close + 1) := by
      rw [← drop_eq_cons hcomplete.closeBrace_at,
        ← List.drop_append_of_le_length (by rw [List.length_take]; omega), List.take_append_drop]
    rw [hsplit, takeWhile_append_stop (by decide)]
    have hrun := (List.takeWhile_prefix isIdentifier
      (l := ((Utf8.encode masked).take close).drop start)).length_le
    rw [List.length_drop, List.length_take] at hrun
    omega
  case body_lt =>
    intro start distance hstart hdistance
    have hbrace := bodyDistance?_eq_some hdistance
    obtain ⟨hinside, -⟩ := List.getElem?_eq_some_iff.mp hbrace
    rw [List.length_drop, List.length_take] at hinside
    have hlt : start + distance < close := by omega
    rw [List.getElem?_drop, List.getElem?_take_of_lt hlt] at hbrace
    exact ⟨hlt, hbrace⟩
  case isSafeParen =>
    exact fun paren hclose hparen => Java.isSafeParen hcovers hclose hparen

theorem stop_le_length_of_mem_heads {head : Head} (hhead : head ∈ heads masked) :
    head.stop ≤ (Utf8.encode masked).length := by
  obtain ⟨left, right, headText, rfl, -, rfl⟩ := exists_of_mem_heads hhead
  rw [Utf8.length_encode, Utf8.size_append, Utf8.size_append]
  exact Nat.le_add_right ..

/-- An outline succeeds or fails with an error in the source. -/
theorem outline_eq_ok_or_inSource (source : String) :
    (∃ result, outline source = .ok result) ∨
      ∃ line detail, outline source = .error (.inSource line detail) := by
  cases hblank : source.toList.all Blank.isBlank with
  | true => exact Or.inl ⟨.empty unnamedSource, by rw [outline, if_pos hblank]⟩
  | false =>
    obtain ⟨types, htypes⟩ := exists_areTypes (covers_mask source)
    rw [outline_eq_finished hblank htypes, finished]
    split
    · obtain ⟨line, detail, herror⟩ := exists_noTypeError_eq (types.foldl addType
        (unclosedOutline (linesOf source.toList) (declarations (mask source).toList))).issues
      exact Or.inr ⟨line, detail, congrArg Except.error herror⟩
    · exact Or.inl ⟨_, rfl⟩

/-- Every source is outlined to the end, with all offsets inside it and all cuts between characters.
The search for the brace that opens a body starts behind the name or behind a component list. -/
theorem outline_stays_inside (source : String) :
    ((∃ result, outline source = .ok result) ∨
      ∃ line detail, outline source = .error (.inSource line detail)) ∧
    (∀ head ∈ heads (mask source).toList,
      head.stop ≤ (Utf8.encode (mask source).toList).length ∧
      ∀ list listEnd,
        headEnd? openParen (Utf8.encode (mask source).toList) head.stop = some list →
        closingParen (Utf8.encode (mask source).toList) list = some listEnd →
        listEnd + 1 ≤ (Utf8.encode (mask source).toList).length) ∧
    (∀ head opening close, ⟨head, opening, some close⟩ ∈ declarations (mask source).toList →
      IsSafeBody (mask source).toList source.toList head opening close) ∧
    ((Utf8.encode source.toList).count newline + 1 < Nat.pow 2 32 → ∀ offset,
      (LineIndex.search (linesOf source.toList).starts offset 0
        (linesOf source.toList).starts.size).lineWord? =
          some ((linesOf source.toList).lineOf offset)) := by
  refine ⟨outline_eq_ok_or_inSource source, fun head hhead => ⟨?_, ?_⟩, ?_, fun hlines offset => ?_⟩
  · exact stop_le_length_of_mem_heads hhead
  · intro list listEnd _ hlistEnd
    obtain ⟨-, -, hend⟩ := closingDelimiter_eq_some hlistEnd
    obtain ⟨hlength, -⟩ := List.getElem?_eq_some_iff.mp hend
    exact hlength
  · intro head opening close hmem
    exact (isComplete_of_mem_declarations hmem rfl).isSafeBody (covers_mask source)
  · exact LineIndex.lineWord?_search hlines offset

theorem outline_stays_inside_second_line :
    (Utf8.encode "é\nclass A \x7b m()\x7b\x7d \x7d".toList).count newline + 1 < Nat.pow 2 32 ∧
    IsSafeBody (mask "é\nclass A \x7b m()\x7b\x7d \x7d").toList
      "é\nclass A \x7b m()\x7b\x7d \x7d".toList ⟨.classType, "A", 3, 10⟩ 11 19 ∧
    (LineIndex.search (linesOf "é\nclass A \x7b m()\x7b\x7d \x7d".toList).starts 19 0
      (linesOf "é\nclass A \x7b m()\x7b\x7d \x7d".toList).starts.size).lineWord? = some 2 := by
  have hmem : ⟨⟨.classType, "A", 3, 10⟩, 11, some 19⟩ ∈
      declarations (mask "é\nclass A \x7b m()\x7b\x7d \x7d").toList := by
    decide +kernel
  have hlines : (Utf8.encode "é\nclass A \x7b m()\x7b\x7d \x7d".toList).count newline + 1 <
      Nat.pow 2 32 := by
    decide +kernel
  have hline : (linesOf "é\nclass A \x7b m()\x7b\x7d \x7d".toList).lineOf 19 = 2 := by
    decide +kernel
  obtain ⟨-, -, hbody, hword⟩ := outline_stays_inside "é\nclass A \x7b m()\x7b\x7d \x7d"
  exact ⟨hlines, hbody _ _ _ hmem, hline ▸ hword hlines 19⟩

end Java

end JavaDiff
