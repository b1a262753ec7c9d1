import JavaDiff.Proofs.Java.Place
import Mathlib.Data.List.TakeWhile

/-!
# Places behind blanks

Searches run forward from an offset, so behind other bytes they find the same places, shifted by the
number of those bytes.  Where a search looks back, it passes over blanks.  So blanks in front of a
masked source shift every head, every body and every method and change nothing else.
-/

namespace JavaDiff

namespace Java

open Ascii

/-- The head with each offset greater by a number of bytes. -/
def Head.shift (count : Nat) (head : Head) : Head :=
  { head with start := count + head.start, stop := count + head.stop }

/-- The declaration with each offset greater by a number of bytes. -/
def Declaration.shift (count : Nat) (declaration : Declaration) : Declaration :=
  ⟨declaration.head.shift count, count + declaration.opening,
    declaration.closing?.map (count + ·)⟩

/-- The span with each offset greater by a number of bytes. -/
def MethodSpan.shift (count : Nat) (span : MethodSpan) : MethodSpan :=
  ⟨count + span.start, count + span.nameStop, count + span.paren, count + span.close⟩

section Searches

variable (front back : List UInt8) (start : Nat)

theorem nextOffset_shift (property : UInt8 → Bool) :
    nextOffset property (front ++ back) (front.length + start) =
      (nextOffset property back start).map (front.length + ·) := by
  rw [nextOffset, nextOffset, List.drop_length_add_append, Option.map_map]
  exact congrArg (Option.map · _) (funext fun distance => Nat.add_assoc ..)

theorem closingFrom_shift (opener closer : UInt8) (depth count offset : Nat)
    (bytes : List UInt8) :
    closingFrom opener closer depth (count + offset) bytes =
      (closingFrom opener closer depth offset bytes).map (count + ·) := by
  induction bytes generalizing depth offset with
  | nil => rfl
  | cons byte bytes ih =>
    rcases closingFrom_cons opener closer depth byte with ⟨-, -, hend⟩ | ⟨next, -, hnext⟩
    · rw [hend, hend]
      rfl
    · rw [hnext, hnext]
      exact ih next (offset + 1)

theorem closingDelimiter_shift (opener closer : UInt8) :
    closingDelimiter opener closer (front ++ back) (front.length + start) =
      (closingDelimiter opener closer back start).map (front.length + ·) := by
  rw [closingDelimiter, closingDelimiter, List.drop_length_add_append]
  split
  · rfl
  · split
    · rw [Nat.add_assoc, closingFrom_shift]
    · rfl

theorem headEnd?_shift (expected : UInt8) :
    headEnd? expected (front ++ back) (front.length + start) =
      (headEnd? expected back start).map (front.length + ·) := by
  rw [headEnd?, headEnd?, nextOffset_shift]
  cases nextOffset endsHead back start with
  | none => rfl
  | some offset =>
    simp only [Option.map_some, Option.bind_eq_bind, Option.bind_some]
    rw [List.getElem?_append_right (Nat.le_add_right ..), Nat.add_sub_cancel_left]
    split <;> rfl

theorem recordOpening?_shift :
    recordOpening? (front ++ back) (front.length + start) =
      (recordOpening? back start).map (front.length + ·) := by
  rw [recordOpening?, recordOpening?, List.drop_length_add_append, headEnd?_shift]
  cases (back.drop start).find? (!isBlank ·) with
  | none => rfl
  | some follower =>
    simp only [Option.bind_eq_bind, Option.bind_some]
    split
    · cases headEnd? openParen back start with
      | none => rfl
      | some list =>
        simp only [Option.map_some, Option.bind_some, closingParen]
        rw [closingDelimiter_shift]
        cases closingDelimiter openParen closeParen back list with
        | none => rfl
        | some listEnd =>
          simp only [Option.map_some, Option.bind_some]
          rw [Nat.add_assoc, headEnd?_shift]
    · rfl

end Searches

section Back

variable {blanks : List UInt8}

theorem dropWhile_append_of_all {α : Type} {property : α → Bool} {back : List α}
    (hback : ∀ value ∈ back, property value = true) (front : List α) :
    (front ++ back).dropWhile property =
      match front.dropWhile property with
      | [] => []
      | first :: rest => first :: (rest ++ back) := by
  have hnil : back.dropWhile property = [] := List.dropWhile_eq_nil_iff.mpr hback
  rw [List.dropWhile_append, hnil]
  cases front.dropWhile property <;> rfl

theorem takeWhile_append_of_all {α : Type} {property : α → Bool} {front : List α} {first : α}
    {rest : List α} (hfront : front.dropWhile property = first :: rest) (back : List α) :
    (front ++ back).takeWhile property = front.takeWhile property := by
  induction front with
  | nil => cases hfront
  | cons other front ih =>
    rw [List.cons_append, List.takeWhile_cons, List.takeWhile_cons]
    split
    · rename_i hother
      rw [List.dropWhile_cons, if_pos hother] at hfront
      rw [ih hfront]
    · rfl

theorem takeWhile_append_of_none {α : Type} {property : α → Bool} {back : List α}
    (hback : ∀ value ∈ back, property value = false) (front : List α) :
    (front ++ back).takeWhile property = front.takeWhile property := by
  cases back with
  | nil => rw [List.append_nil]
  | cons stop back => exact takeWhile_append_stop (hback stop List.mem_cons_self) front back

theorem dropWhile_append_of_none {α : Type} {property : α → Bool} {back : List α}
    (hback : ∀ value ∈ back, property value = false) (front : List α) :
    (front ++ back).dropWhile property = front.dropWhile property ++ back := by
  cases back with
  | nil => rw [List.append_nil, List.append_nil]
  | cons stop back => exact dropWhile_append_stop (hback stop List.mem_cons_self) front back

theorem isIdentifier_of_isBlank {byte : UInt8} (hbyte : isBlank byte = true) :
    isIdentifier byte = false := by
  simp only [isBlank, Bool.or_eq_true, beq_iff_eq] at hbyte
  rcases hbyte with (((rfl | rfl) | rfl) | rfl) | rfl <;> decide

theorem lastIdentifier?_append (hblanks : ∀ byte ∈ blanks, isBlank byte = true)
    (before : List UInt8) :
    lastIdentifier? (before ++ blanks) = (lastIdentifier? before).map fun identifier =>
      { identifier with before := identifier.before ++ blanks } := by
  have hidentifier : ∀ byte ∈ blanks, isIdentifier byte = false := fun byte hbyte =>
    isIdentifier_of_isBlank (hblanks byte hbyte)
  unfold lastIdentifier?
  rw [dropWhile_append_of_all hblanks]
  cases hbefore : before.dropWhile isBlank with
  | nil => rfl
  | cons first rest =>
    dsimp only
    rw [← List.cons_append, takeWhile_append_of_none hidentifier,
      dropWhile_append_of_none hidentifier, takeWhile_append_of_all hbefore]
    split
    · rfl
    · split <;> rfl

theorem allowsName_append (hblanks : ∀ byte ∈ blanks, isBlank byte = true)
    (before : List UInt8) : allowsName (before ++ blanks) = allowsName before := by
  unfold allowsName
  rw [dropWhile_append_of_all hblanks, lastIdentifier?_append hblanks]
  cases before.dropWhile isBlank with
  | nil => rfl
  | cons first rest => cases lastIdentifier? before <;> rfl

/-- A method is found behind further blanks, and its place is shifted. -/
theorem methodAt?_shift (hblanks : ∀ byte ∈ blanks, isBlank byte = true)
    (before rest : List UInt8) :
    methodAt? (before ++ blanks) (blanks.length + before.length) rest =
      (methodAt? before before.length rest).map (MethodSpan.shift blanks.length) := by
  unfold methodAt?
  rw [lastIdentifier?_append hblanks]
  cases hname : lastIdentifier? before with
  | none => rfl
  | some name =>
    have hfits : name.blanks + name.word.length ≤ before.length := by
      obtain ⟨gap, hbefore, hgap, -⟩ := lastIdentifier?_eq_some hname
      rw [hbefore, List.length_append, List.length_append, List.length_reverse, hgap]
      exact Nat.le_add_right ..
    simp only [Option.map_some, Option.bind_eq_bind, Option.bind_some, allowsName_append hblanks]
    split
    · rfl
    · rw [Nat.add_assoc, closingFrom_shift]
      cases closingFrom openParen closeParen 0 (before.length + 1) rest with
      | none => rfl
      | some listEnd =>
        simp only [Option.map_some, Option.bind_some, Nat.add_sub_add_left]
        cases bodyDistance? (rest.drop (listEnd - before.length)) with
        | none => rfl
        | some distance =>
          simp only [Option.bind_some, Nat.add_assoc, Nat.add_sub_add_left]
          rw [closingFrom_shift]
          cases closingFrom openBrace closeBrace 0 (listEnd + (1 + (distance + 1)))
              (rest.drop (listEnd + (1 + distance) - before.length)) with
          | none => rfl
          | some close =>
            refine congrArg some ((MethodSpan.mk.injEq ..).mpr ⟨?_, ?_, rfl, rfl⟩)
            all_goals dsimp only
            all_goals omega

/-- The methods behind further blanks are the same methods, and their places are shifted. -/
theorem methodSpansFrom_shift (hblanks : ∀ byte ∈ blanks, isBlank byte = true)
    (skip depth : Nat) (before rest : List UInt8) :
    methodSpansFrom skip depth (before ++ blanks) (blanks.length + before.length) rest =
      (methodSpansFrom skip depth before before.length rest).map
        (MethodSpan.shift blanks.length) := by
  induction rest generalizing skip depth before with
  | nil => rfl
  | cons byte rest ih =>
    have hlater (skip depth : Nat) :
        methodSpansFrom skip depth (byte :: (before ++ blanks))
          (blanks.length + before.length + 1) rest =
          (methodSpansFrom skip depth (byte :: before) (before.length + 1) rest).map
            (MethodSpan.shift blanks.length) := ih skip depth (byte :: before)
    cases skip with
    | succ skip => exact hlater skip depth
    | zero =>
      rw [methodSpansFrom, methodSpansFrom, methodAt?_shift hblanks]
      split
      · exact hlater ..
      · split
        · exact hlater ..
        · split
          · cases methodAt? before before.length rest with
            | none => exact hlater 0 0
            | some method =>
              have hskip : (method.shift blanks.length).close -
                  (blanks.length + before.length) = method.close - before.length :=
                Nat.add_sub_add_left ..
              simp only [Option.map_some, List.map_cons, hskip, hlater]
          · exact hlater ..

end Back

/-- Whether masked source shows nothing: it consists of spaces and line feeds. -/
def ShowsNothing (masked : List Char) : Prop :=
  ∀ character ∈ masked, character = ' ' ∨ character = '\n'

variable {front : List Char}

theorem ShowsNothing.isBlank (hfront : ShowsNothing front) :
    ∀ byte ∈ Utf8.encode front, isBlank byte = true := by
  intro byte hbyte
  obtain ⟨character, hcharacter, hbyte⟩ := List.mem_flatMap.mp hbyte
  rcases hfront character hcharacter with rfl | rfl
  · obtain rfl : byte = space := List.mem_singleton.mp hbyte
    rfl
  · obtain rfl : byte = newline := List.mem_singleton.mp hbyte
    rfl

theorem headsFrom_shift (skip : Nat) (previous : Option Char) (count offset : Nat)
    (text : List Char) :
    headsFrom skip previous (count + offset) text =
      (headsFrom skip previous offset text).map (Head.shift count) := by
  induction text generalizing skip previous offset with
  | nil => rfl
  | cons character text ih =>
    have hlater (skip : Nat) := ih skip (some character) (offset + character.utf8Size)
    rw [← Nat.add_assoc] at hlater
    cases skip with
    | succ skip => exact hlater skip
    | zero =>
      rw [headsFrom_zero_cons, headsFrom_zero_cons]
      split
      · exact hlater 0
      · rw [hlater, Nat.add_assoc]
        rfl

/-- No head starts in blank text, and none is kept from starting behind it. -/
theorem ShowsNothing.headsFrom_append (hfront : ShowsNothing front) {previous : Option Char}
    (hprevious : previous.any Word.isWord = false) (offset : Nat) (text : List Char) :
    headsFrom 0 previous offset (front ++ text) =
      headsFrom 0 none (offset + Utf8.size front) text := by
  induction front generalizing previous offset with
  | nil =>
    cases text with
    | nil => rfl
    | cons character text =>
      rw [List.nil_append, headsFrom_zero_cons, headsFrom_zero_cons, hprevious]
      rfl
  | cons first front ih =>
    rw [ShowsNothing, List.forall_mem_cons] at hfront
    have hword : (some first).any Word.isWord = false := by
      rcases hfront.1 with rfl | rfl <;> decide +kernel
    have hhead : HeadText.ofStart? (first :: (front ++ text)) = none := by
      rcases hfront.1 with rfl | rfl <;> rfl
    rw [List.cons_append, headsFrom_zero_cons, hhead, ite_self]
    dsimp only
    rw [ih hfront.2 hword, Utf8.size_cons, Nat.add_assoc]

theorem ShowsNothing.heads_shift (hfront : ShowsNothing front) (back : List Char) :
    heads (front ++ back) = (heads back).map (Head.shift (Utf8.size front)) := by
  rw [heads, heads, hfront.headsFrom_append rfl, ← headsFrom_shift, Nat.zero_add, Nat.add_zero]

section Declarations

variable {blanks : List UInt8} (back : List UInt8)

theorem Head.isQualified_shift (hblanks : ∀ byte ∈ blanks, isBlank byte = true) (head : Head) :
    (head.shift blanks.length).isQualified (blanks ++ back) = head.isQualified back := by
  rw [isQualified, isQualified, shift, List.take_length_add_append, List.reverse_append,
    dropWhile_append_of_all fun byte hbyte => hblanks byte (List.mem_reverse.mp hbyte)]
  cases (back.take head.start).reverse.dropWhile isBlank <;> rfl

theorem Head.opening?_shift (hblanks : ∀ byte ∈ blanks, isBlank byte = true) (head : Head) :
    (head.shift blanks.length).opening? (blanks ++ back) =
      (head.opening? back).map (blanks.length + ·) := by
  unfold opening?
  rw [isQualified_shift back hblanks]
  split
  · rfl
  · cases hkind : head.kind <;> simp only [shift, hkind, recordOpening?_shift, headEnd?_shift]

theorem membersStart?_shift (kind : TypeKind) (opening close : Nat) :
    membersStart? kind (blanks ++ back) (blanks.length + opening) (blanks.length + close) =
      (membersStart? kind back opening close).map (blanks.length + ·) := by
  unfold membersStart?
  rw [List.take_length_add_append, Nat.add_assoc, List.drop_length_add_append]
  cases kind with
  | enumType =>
    rw [Option.map_map]
    exact congrArg (Option.map · _) (funext fun distance => Nat.add_assoc ..)
  | classType | interfaceType | recordType => rfl

theorem bodyMethodSpans_shift (hblanks : ∀ byte ∈ blanks, isBlank byte = true) (kind : TypeKind)
    {opening close : Nat} (hopening : opening < close) (hclose : close ≤ back.length) :
    bodyMethodSpans kind (blanks ++ back) (blanks.length + opening) (blanks.length + close) =
      (bodyMethodSpans kind back opening close).map (MethodSpan.shift blanks.length) := by
  rw [bodyMethodSpans, bodyMethodSpans, membersStart?_shift]
  cases hstart : membersStart? kind back opening close with
  | none => rfl
  | some start =>
    have hle := (membersStart?_bounds hopening hstart).2
    have hlength : (back.take start).reverse.length = start := by
      rw [List.length_reverse, List.length_take]
      omega
    have hreverse : ∀ byte ∈ blanks.reverse, isBlank byte = true := fun byte hbyte =>
      hblanks byte (List.mem_reverse.mp hbyte)
    have hshift := methodSpansFrom_shift hreverse 0 0 (back.take start).reverse
      ((back.take close).drop start)
    rw [hlength, List.length_reverse] at hshift
    simp only [Option.map_some, methodSpans, List.take_length_add_append,
      List.drop_length_add_append, List.reverse_append, hshift]

end Declarations

theorem ShowsNothing.declarations_shift (hfront : ShowsNothing front) (back : List Char) :
    declarations (front ++ back) =
      (declarations back).map (Declaration.shift (Utf8.size front)) := by
  have hblanks := hfront.isBlank
  rw [declarations, declarations, hfront.heads_shift, List.filterMap_map, List.map_filterMap,
    Utf8.encode_append, ← Utf8.length_encode]
  refine congrArg (List.filterMap · _) (funext fun head => ?_)
  rw [Function.comp_apply, Head.opening?_shift _ hblanks, Option.map_map, Option.map_map]
  apply congrArg (Option.map · _)
  funext opening
  rw [Function.comp_apply, closingBrace, closingDelimiter_shift]
  rfl

end Java

end JavaDiff
