import JavaDiff.Java.Outline
import JavaDiff.Proofs.Java.Delimiter
import JavaDiff.Proofs.Text.Boundary
import JavaDiff.Proofs.Text.Sequence

/-!
# The places of methods

A method starts with its name, a whole run of identifier bytes that only blanks separate from the
parenthesis, and ends with a brace.  A byte that is neither blank nor identifier therefore lies
outside of everything from the name to the parenthesis.  So the methods of a body lie behind the
brace that opens it, and each lies behind the one before.
-/

namespace JavaDiff

namespace Java

open Ascii

/-- An identifier, the blanks behind it and what stands in front of it make up the bytes. -/
theorem lastIdentifier?_eq_some {before : List UInt8} {identifier : LastIdentifier}
    (hidentifier : lastIdentifier? before = some identifier) :
    ∃ blanks, before = blanks ++ identifier.word.reverse ++ identifier.before ∧
      blanks.length = identifier.blanks ∧ (∀ byte ∈ blanks, isBlank byte = true) ∧
      identifier.word ≠ [] ∧ (∀ byte ∈ identifier.word, isIdentifier byte = true) ∧
      ∀ byte ∈ identifier.before.head?, isIdentifier byte = false := by
  unfold lastIdentifier? at hidentifier
  dsimp only at hidentifier
  split at hidentifier
  · simp at hidentifier
  · rename_i first others hword
    split at hidentifier
    · simp at hidentifier
    · obtain rfl := Option.some.inj hidentifier
      refine ⟨before.takeWhile isBlank, ?_, rfl, fun byte hbyte => ?_, ?_, fun byte hbyte => ?_, ?_⟩
      · rw [List.reverse_reverse, List.append_assoc, List.takeWhile_append_dropWhile,
          List.takeWhile_append_dropWhile]
      · exact List.all_eq_true.mp List.all_takeWhile byte hbyte
      · simp [hword]
      · exact List.all_eq_true.mp List.all_takeWhile byte (List.mem_reverse.mp hbyte)
      · intro byte hbyte
        have hhead := List.head?_dropWhile_not isIdentifier (before.dropWhile isBlank)
        rw [Option.mem_def.mp hbyte] at hhead
        simpa using hhead

/-- Whether the bytes between two offsets are a run of identifier bytes that does not go on in front of
them. -/
structure IsRun (bytes : List UInt8) (start stop : Nat) : Prop where
  start_lt_stop : start < stop
  stop_le_length : stop ≤ bytes.length
  isIdentifier_of_mem : ∀ byte ∈ bytes.extract start stop, isIdentifier byte = true
  isIdentifier_before : ∀ byte ∈ (bytes.take start).getLast?, isIdentifier byte = false

namespace LastIdentifier

/-- The offset after an identifier when only blanks separate it from an offset behind. -/
def stopAt (identifier : LastIdentifier) (offset : Nat) : Nat := offset - identifier.blanks

/-- The offset of an identifier when only blanks separate it from an offset behind. -/
def startAt (identifier : LastIdentifier) (offset : Nat) : Nat :=
  identifier.stopAt offset - identifier.word.length

/-- The place of the last identifier in front of an offset: it is a whole run, and only blanks follow
up to the offset. -/
structure IsLast (bytes : List UInt8) (offset : Nat) (identifier : LastIdentifier) : Prop where
  isRun : IsRun bytes (identifier.startAt offset) (identifier.stopAt offset)
  stopAt_le : identifier.stopAt offset ≤ offset
  extract_eq :
    bytes.extract (identifier.startAt offset) (identifier.stopAt offset) = identifier.word
  isBlank_of_mem : ∀ byte ∈ bytes.extract (identifier.stopAt offset) offset, isBlank byte = true
  before_eq : identifier.before = (bytes.take (identifier.startAt offset)).reverse

theorem isLast_of_eq_some {bytes : List UInt8} {offset : Nat} {identifier : LastIdentifier}
    (hoffset : offset ≤ bytes.length)
    (hidentifier : lastIdentifier? (bytes.take offset).reverse = some identifier) :
    identifier.IsLast bytes offset := by
  obtain ⟨blanks, hbefore, hblanks, hblank, hword, hall, hfront⟩ :=
    lastIdentifier?_eq_some hidentifier
  have htake : bytes.take offset =
      identifier.before.reverse ++ identifier.word ++ blanks.reverse := by
    rw [← List.reverse_reverse (bytes.take offset), hbefore, List.reverse_append,
      List.reverse_append, List.reverse_reverse, List.append_assoc]
  have hbytes : bytes =
      identifier.before.reverse ++ identifier.word ++ blanks.reverse ++ bytes.drop offset := by
    rw [← htake, List.take_append_drop]
  have hlength : offset = identifier.before.length + identifier.word.length + blanks.length := by
    have hparts := congrArg List.length htake
    rw [List.length_take, Nat.min_eq_left hoffset, List.length_append, List.length_append,
      List.length_reverse, List.length_reverse] at hparts
    exact hparts
  have hstop : identifier.stopAt offset =
      identifier.before.reverse.length + identifier.word.length := by
    rw [stopAt, List.length_reverse]
    omega
  have hstart : identifier.startAt offset = identifier.before.reverse.length := by
    rw [startAt, hstop, Nat.add_sub_cancel]
  have hpositive : 0 < identifier.word.length := List.length_pos_iff.mpr hword
  have hextract : bytes.extract (identifier.startAt offset) (identifier.stopAt offset) =
      identifier.word := by
    rw [hstart, hstop, hbytes, List.append_assoc]
    exact extract_append_append ..
  have hfrontBytes : bytes.take (identifier.startAt offset) = identifier.before.reverse := by
    rw [hstart, hbytes, List.append_assoc, List.append_assoc, List.take_left]
  exact {
    isRun := {
      start_lt_stop := by omega
      stop_le_length := by
        rw [List.length_reverse] at hstop
        omega
      isIdentifier_of_mem := by rwa [hextract]
      isIdentifier_before := by rwa [hfrontBytes, List.getLast?_reverse] }
    stopAt_le := Nat.sub_le ..
    extract_eq := hextract
    isBlank_of_mem := by
      have hgap : bytes.extract (identifier.stopAt offset) offset = blanks.reverse := by
        rw [hstop, ← List.length_append]
        have hoffset : offset =
            (identifier.before.reverse ++ identifier.word).length + blanks.reverse.length := by
          simp only [List.length_append, List.length_reverse]
          exact hlength
        rw [hoffset, hbytes]
        exact extract_append_append ..
      rw [hgap]
      exact fun byte hbyte => hblank byte (List.mem_reverse.mp hbyte)
    before_eq := by rw [hfrontBytes, List.reverse_reverse] }

end LastIdentifier

namespace MethodSpan

/-- The places of a method in masked bytes: the name is a whole run of identifier bytes, only blanks
separate it from the parenthesis, and behind that a brace closes the body. -/
structure IsMethod (bytes : List UInt8) (span : MethodSpan) : Prop where
  start_lt_nameStop : span.start < span.nameStop
  nameStop_le_paren : span.nameStop ≤ span.paren
  paren_lt_close : span.paren < span.close
  isIdentifier_of_mem : ∀ byte ∈ bytes.extract span.start span.nameStop, isIdentifier byte = true
  isBlank_of_mem : ∀ byte ∈ bytes.extract span.nameStop span.paren, isBlank byte = true
  isIdentifier_before : ∀ byte ∈ (bytes.take span.start).getLast?, isIdentifier byte = false
  openParen_at : bytes[span.paren]? = some openParen
  closeBrace_at : bytes[span.close]? = some closeBrace

namespace IsMethod

variable {front back bytes : List UInt8} {span : MethodSpan}

theorem close_lt_length (hspan : span.IsMethod bytes) : span.close < bytes.length := by
  obtain ⟨hlength, -⟩ := List.getElem?_eq_some_iff.mp hspan.closeBrace_at
  exact hlength

theorem isRun (hspan : span.IsMethod bytes) : IsRun bytes span.start span.nameStop := by
  have hparen := hspan.nameStop_le_paren
  have hclose := hspan.paren_lt_close
  have hlength := hspan.close_lt_length
  exact ⟨hspan.start_lt_nameStop, by omega, hspan.isIdentifier_of_mem, hspan.isIdentifier_before⟩

theorem append (hspan : span.IsMethod front) (back : List UInt8) :
    span.IsMethod (front ++ back) := by
  have hname := hspan.start_lt_nameStop
  have hblanks := hspan.nameStop_le_paren
  have hparen := hspan.paren_lt_close
  have hlength := hspan.close_lt_length
  exact {
    start_lt_nameStop := hname
    nameStop_le_paren := hblanks
    paren_lt_close := hparen
    isIdentifier_of_mem := by
      rw [extract_append_of_le (by omega)]
      exact hspan.isIdentifier_of_mem
    isBlank_of_mem := by
      rw [extract_append_of_le (by omega)]
      exact hspan.isBlank_of_mem
    isIdentifier_before := by
      rw [List.take_append_of_le_length (by omega)]
      exact hspan.isIdentifier_before
    openParen_at := by
      rw [List.getElem?_append_left (by omega)]
      exact hspan.openParen_at
    closeBrace_at := by
      rw [List.getElem?_append_left hlength]
      exact hspan.closeBrace_at }

/-- A byte in front of the parenthesis that is neither blank nor identifier lies in front of the
name. -/
theorem lt_start (hspan : span.IsMethod bytes) {offset : Nat} {byte : UInt8}
    (hbyte : bytes[offset]? = some byte) (hoffset : offset < span.paren)
    (hblank : isBlank byte = false) (hidentifier : isIdentifier byte = false) :
    offset < span.start := by
  rcases Nat.lt_or_ge offset span.start with hfront | hbehind
  · exact hfront
  · rcases Nat.lt_or_ge offset span.nameStop with hname | hgap
    · have hmem := hspan.isIdentifier_of_mem byte (mem_extract hbyte hbehind hname)
      rw [hidentifier] at hmem
      contradiction
    · have hmem := hspan.isBlank_of_mem byte (mem_extract hbyte hgap hoffset)
      rw [hblank] at hmem
      contradiction

end IsMethod

end MethodSpan

theorem isMethod_of_methodAt? {before rest : List UInt8} {span : MethodSpan}
    (hspan : methodAt? before before.length rest = some span) :
    span.IsMethod (before.reverse ++ openParen :: rest) ∧ span.paren = before.length := by
  unfold methodAt? at hspan
  simp only [Option.bind_eq_bind, Option.bind_eq_some_iff] at hspan
  obtain ⟨name, hname, hspan⟩ := hspan
  split at hspan
  · simp at hspan
  simp only [Option.bind_eq_some_iff] at hspan
  obtain ⟨listEnd, hlistEnd, distance, -, close, hclose, hspan⟩ := hspan
  obtain rfl := Option.some.inj hspan
  have htake : (before.reverse ++ openParen :: rest).take before.length = before.reverse := by
    rw [← List.length_reverse, List.take_left]
  have hlast : name.IsLast (before.reverse ++ openParen :: rest) before.length :=
    LastIdentifier.isLast_of_eq_some (by simp) (by rw [htake, List.reverse_reverse, hname])
  have hlist := (closingFrom_eq_some hlistEnd).1
  obtain ⟨hbody, hbrace⟩ := closingFrom_eq_some hclose
  have hcloseBrace : (before.reverse ++ openParen :: rest)[close]? = some closeBrace := by
    rw [List.getElem?_append_right (by rw [List.length_reverse]; omega), List.length_reverse,
      show close - before.length = close - before.length - 1 + 1 by omega, List.getElem?_cons_succ,
      ← hbrace, List.getElem?_drop]
    congr 1
    omega
  have hparen : before.length < close := by omega
  refine ⟨?_, rfl⟩
  exact {
    start_lt_nameStop := hlast.isRun.start_lt_stop
    nameStop_le_paren := hlast.stopAt_le
    paren_lt_close := hparen
    isIdentifier_of_mem := hlast.isRun.isIdentifier_of_mem
    isBlank_of_mem := hlast.isBlank_of_mem
    isIdentifier_before := hlast.isRun.isIdentifier_before
    openParen_at := by simp
    closeBrace_at := hcloseBrace }

/-- The methods that a search finds lie behind the skipped bytes, each behind the one before. -/
theorem methodSpansFrom_spec (skip depth : Nat) (before rest : List UInt8) :
    (∀ span ∈ methodSpansFrom skip depth before before.length rest,
      span.IsMethod (before.reverse ++ rest) ∧ before.length + skip ≤ span.paren) ∧
    (methodSpansFrom skip depth before before.length rest).Pairwise
      fun earlier later => earlier.close < later.paren := by
  induction rest generalizing skip depth before with
  | nil => simp [methodSpansFrom]
  | cons byte rest ih =>
    have hbytes : (byte :: before).reverse ++ rest = before.reverse ++ byte :: rest := by simp
    have hlater (skip' depth' : Nat) (hskip : skip ≤ skip' + 1) :
        (∀ span ∈ methodSpansFrom skip' depth' (byte :: before) (before.length + 1) rest,
          span.IsMethod (before.reverse ++ byte :: rest) ∧ before.length + skip ≤ span.paren) ∧
        (methodSpansFrom skip' depth' (byte :: before) (before.length + 1) rest).Pairwise
          fun earlier later => earlier.close < later.paren := by
      obtain ⟨hspans, hpairwise⟩ := ih skip' depth' (byte :: before)
      rw [hbytes, List.length_cons] at hspans
      refine ⟨fun span hspan => ?_, hpairwise⟩
      obtain ⟨hmethod, hparen⟩ := hspans span hspan
      exact ⟨hmethod, by omega⟩
    cases skip with
    | succ skip => exact hlater skip depth (Nat.le_refl _)
    | zero =>
      rw [methodSpansFrom]
      split
      · exact hlater 0 _ (Nat.zero_le _)
      · split
        · exact hlater 0 _ (Nat.zero_le _)
        · split
          · rename_i hparen
            cases hfound : methodAt? before before.length rest with
            | none => exact hlater 0 0 (Nat.zero_le _)
            | some method =>
              obtain ⟨hmethod, hplace⟩ := isMethod_of_methodAt? hfound
              obtain ⟨hspans, hpairwise⟩ := ih (method.close - before.length) 0 (byte :: before)
              rw [← hparen.1] at hmethod
              rw [hbytes, List.length_cons] at hspans
              -- The search resumes behind the body, so every later parenthesis lies behind it.
              have hbehind : ∀ span ∈ methodSpansFrom (method.close - before.length) 0
                  (byte :: before) (before.length + 1) rest, method.close < span.paren := by
                intro span hspan
                have hparen := (hspans span hspan).2
                omega
              have hbody := hmethod.paren_lt_close
              refine ⟨fun span hspan => ?_, List.pairwise_cons.mpr ⟨hbehind, hpairwise⟩⟩
              rcases List.mem_cons.mp hspan with rfl | hspan
              · exact ⟨hmethod, by omega⟩
              · have hlaterParen := hbehind span hspan
                exact ⟨(hspans span hspan).1, by omega⟩
          · exact hlater 0 _ (Nat.zero_le _)

theorem membersDistance?_le {depth distance : Nat} {bytes : List UInt8}
    (hdistance : membersDistance? depth bytes = some distance) : distance ≤ bytes.length := by
  induction bytes generalizing depth distance with
  | nil => simp [membersDistance?] at hdistance
  | cons byte rest ih =>
    have hlater {depth : Nat}
        (hrest : (membersDistance? depth rest).map (· + 1) = some distance) :
        distance ≤ (byte :: rest).length := by
      obtain ⟨inner, hinner, rfl⟩ := Option.map_eq_some_iff.mp hrest
      rw [List.length_cons]
      exact Nat.succ_le_succ (ih hinner)
    unfold membersDistance? at hdistance
    split at hdistance
    · exact hlater hdistance
    · split at hdistance
      · exact hlater hdistance
      · split at hdistance
        · obtain rfl := Option.some.inj hdistance
          exact Nat.succ_le_succ (Nat.zero_le _)
        · exact hlater hdistance

theorem membersStart?_bounds {kind : TypeKind} {bytes : List UInt8} {opening close start : Nat}
    (hopening : opening < close) (hstart : membersStart? kind bytes opening close = some start) :
    opening < start ∧ start ≤ close := by
  unfold membersStart? at hstart
  split at hstart
  · obtain ⟨distance, hdistance, rfl⟩ := Option.map_eq_some_iff.mp hstart
    have hle := membersDistance?_le hdistance
    rw [List.length_drop, List.length_take] at hle
    omega
  · obtain rfl := Option.some.inj hstart
    omega

/-- The methods of a body lie between its braces, each behind the one before. -/
theorem bodyMethodSpans_spec {kind : TypeKind} {bytes : List UInt8} {opening close : Nat}
    (hbrace : bytes[opening]? = some openBrace) (hopening : opening < close)
    (hclose : close ≤ bytes.length) :
    (∀ span ∈ bodyMethodSpans kind bytes opening close,
      span.IsMethod bytes ∧ opening < span.start ∧ span.close < close) ∧
    (bodyMethodSpans kind bytes opening close).Pairwise
      fun earlier later => earlier.close < later.start := by
  unfold bodyMethodSpans
  split
  · rename_i start hstart
    obtain ⟨hbehind, hle⟩ := membersStart?_bounds hopening hstart
    have hbody : (bytes.take start).reverse.reverse ++ (bytes.take close).drop start =
        bytes.take close := by
      have htake : (bytes.take close).take start = bytes.take start := by
        rw [List.take_take, Nat.min_eq_left hle]
      rw [List.reverse_reverse, ← htake, List.take_append_drop]
    have hlength : (bytes.take start).reverse.length = start := by
      rw [List.length_reverse, List.length_take]
      omega
    obtain ⟨hspans, hpairwise⟩ :=
      methodSpansFrom_spec 0 0 (bytes.take start).reverse ((bytes.take close).drop start)
    rw [hbody, hlength] at hspans
    rw [hlength] at hpairwise
    have hmethod : ∀ span ∈ methodSpans bytes start close, span.IsMethod bytes ∧
        opening < span.start ∧ span.close < close := by
      intro span hspan
      obtain ⟨hmethod, hparen⟩ := hspans span hspan
      have hend := hmethod.close_lt_length
      have happend := hmethod.append (bytes.drop close)
      rw [List.length_take] at hend
      rw [List.take_append_drop] at happend
      exact ⟨happend, happend.lt_start hbrace (by omega) (by decide) (by decide), by omega⟩
    refine ⟨hmethod, hpairwise.imp_of_mem fun {earlier later} hearlier hlater hlt => ?_⟩
    exact (hmethod later hlater).1.lt_start (hmethod earlier hearlier).1.closeBrace_at hlt
      (by decide) (by decide)
  · simp

end Java

end JavaDiff
