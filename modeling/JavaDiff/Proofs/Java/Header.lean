import JavaDiff.Proofs.Java.Concat
import JavaDiff.Proofs.Java.Shift
import JavaDiff.Proofs.Java.Verbatim

/-!
# Comments in front of a source

A header that ends with a finished line and shows nothing when masked only moves what stands
behind it.  The outline is the same but for offsets, which grow by the bytes of the header, and
lines, which grow by its line feeds.  That includes the lines that the notes about repeated names
mention, and the line of the error when there is no type.

Lines grow in words of 32 bits.  Unless there are more lines behind the header than a word can count,
their numbers grow as numbers do.
-/

namespace JavaDiff

/-- How far a text moves what stands behind it. -/
structure Distance where
  /-- The number of bytes. -/
  bytes : Nat
  /-- The number of line feeds. -/
  lines : Nat
deriving DecidableEq

/-- The bytes and line feeds of a text. -/
def Distance.ofText (text : List Char) : Distance := ⟨Utf8.size text, text.count '\n'⟩

namespace Distance

/-- The number of a line moved by a distance. -/
def moveLine (distance : Distance) (line : UInt32) : UInt32 := UInt32.ofNat distance.lines + line

/-- Whether a distance adds its lines to the number of a line that is moved, unless the last line
then has no number that fits into a word. -/
def AddsTo (distance : Distance) (last : Nat) (line : UInt32) : Prop :=
  distance.lines + last < Nat.pow 2 32 →
    (distance.moveLine line).toNat = distance.lines + line.toNat

theorem addsTo_of_le (distance : Distance) {last : Nat} {line : UInt32} (hline : line.toNat ≤ last) :
    distance.AddsTo last line :=
  fun hlast => toNat_ofNat_add (Nat.lt_of_le_of_lt (Nat.add_le_add_left hline _) hlast)

end Distance

/-- The method moved by a distance. -/
def Method.shift (distance : Distance) (method : Method) : Method :=
  { method with
    startLine := distance.moveLine method.startLine
    endLine := distance.moveLine method.endLine
    startByte := distance.bytes + method.startByte }

/-- The type moved by a distance with its methods. -/
def DeclaredType.shift (distance : Distance) (type : DeclaredType) : DeclaredType :=
  { type with
    startLine := distance.moveLine type.startLine
    endLine := distance.moveLine type.endLine
    startByte := distance.bytes + type.startByte
    methods := type.methods.mapValues (Method.shift distance) }

/-- Whether the lines of a type and its methods have a property. -/
structure DeclaredType.LinesSatisfy (property : UInt32 → Prop) (type : DeclaredType) : Prop where
  startLine : property type.startLine
  endLine : property type.endLine
  methods : ∀ name method, type.methods.get? name = some method →
    property method.startLine ∧ property method.endLine

namespace Java

open Ascii

/-- What the issues of a Java source note. -/
inductive Note where
  /-- The body of the declaration at a line does not end. -/
  | unclosed (line : UInt32) (kind : TypeKind) (name : String)
  /-- The declaration at a line takes the place of an earlier one. -/
  | repeated (name : String) (line earlier : UInt32)
deriving DecidableEq

namespace Note

/-- The issue that a note is written as. -/
def issue : Note → Issue
  | unclosed line kind name => ⟨line, s!"{kind.keyword} '{name}' has no closing brace"⟩
  | repeated name line earlier =>
    ⟨line, s!"class name '{name}' declared more than once; " ++
      s!"keeping the declaration at line {line} over line {earlier}"⟩

/-- The note with each line moved by a distance. -/
def shift (distance : Distance) : Note → Note
  | unclosed line kind name => unclosed (distance.moveLine line) kind name
  | repeated name line earlier =>
    repeated name (distance.moveLine line) (distance.moveLine earlier)

/-- The lines that a note mentions. -/
def lines : Note → List UInt32
  | unclosed line _ _ => [line]
  | repeated _ line earlier => [line, earlier]

end Note

/-- Whether an outline of a source with some last line is another one moved by a distance: its types
are, and its issues are the same notes with the lines moved. -/
structure IsShift (distance : Distance) (last : Nat) (outline shifted : Outline) : Prop where
  filename_eq : shifted.filename = outline.filename
  types_eq : shifted.types = outline.types.mapValues (DeclaredType.shift distance)
  addsTo_types : ∀ name type, outline.types.get? name = some type →
    type.LinesSatisfy (distance.AddsTo last)
  exists_notes : ∃ notes : List Note, outline.issues = notes.map Note.issue ∧
    shifted.issues = (notes.map (Note.shift distance)).map Note.issue ∧
    ∀ note ∈ notes, ∀ line ∈ note.lines, distance.AddsTo last line

namespace IsShift

variable {distance : Distance} {last : Nat} {outline shifted : Outline}

theorem size_eq (hshift : IsShift distance last outline shifted) :
    shifted.types.size = outline.types.size := by
  rw [hshift.types_eq, NameMap.size, NameMap.size, NameMap.mapValues, List.length_map]

theorem addType (hshift : IsShift distance last outline shifted) {type : DeclaredType}
    (htype : type.LinesSatisfy (distance.AddsTo last)) :
    IsShift distance last (addType outline type)
      (Java.addType shifted (type.shift distance)) where
  filename_eq := hshift.filename_eq
  types_eq := by
    rw [Java.addType, Java.addType, NameMap.mapValues_insert, hshift.types_eq]
    rfl
  addsTo_types := by
    intro name kept hkept
    rw [Java.addType] at hkept
    by_cases hname : name = type.name
    · rw [hname, NameMap.get?_insert_self] at hkept
      exact Option.some.inj hkept ▸ htype
    · rw [NameMap.get?_insert_of_ne _ _ hname] at hkept
      exact hshift.addsTo_types name kept hkept
  exists_notes := by
    obtain ⟨notes, hissues, hshifted, hlines⟩ := hshift.exists_notes
    have hget : shifted.types.get? (type.shift distance).name =
        (outline.types.get? type.name).map (DeclaredType.shift distance) := by
      rw [hshift.types_eq, NameMap.get?_mapValues]
      rfl
    rw [Java.addType, Java.addType, hget]
    cases hearlier : outline.types.get? type.name with
    | none => exact ⟨notes, hissues, hshifted, hlines⟩
    | some earlier =>
      have hearlierLines := hshift.addsTo_types type.name earlier hearlier
      refine ⟨notes ++ [.repeated earlier.name type.startLine earlier.startLine], ?_, ?_, ?_⟩
      · rw [List.map_append, ← hissues]
        rfl
      · rw [List.map_append, List.map_append, ← hshifted]
        rfl
      · rw [List.forall_mem_append]
        refine ⟨hlines, List.forall_mem_singleton.mpr ?_⟩
        exact List.forall_mem_cons.mpr
          ⟨htype.startLine, List.forall_mem_singleton.mpr hearlierLines.startLine⟩

theorem foldl_addType (hshift : IsShift distance last outline shifted) {types : List DeclaredType}
    (htypes : ∀ type ∈ types, type.LinesSatisfy (distance.AddsTo last)) :
    IsShift distance last (types.foldl Java.addType outline)
      ((types.map (DeclaredType.shift distance)).foldl Java.addType shifted) := by
  induction types generalizing outline shifted with
  | nil => exact hshift
  | cons type types ih =>
    obtain ⟨htype, htypes⟩ := List.forall_mem_cons.mp htypes
    exact ih (hshift.addType htype) htypes

end IsShift

section Behind

variable (front : List Char) {back : List Char}

theorem cut_shift (start stop : Nat) :
    cut (front ++ back) (Utf8.size front + start) (Utf8.size front + stop) =
      cut back start stop := by
  have hcut : Utf8.cut? (front ++ back) (Utf8.size front + start) (Utf8.size front + stop) =
      Utf8.cut? back start stop := by
    apply Option.ext
    intro piece
    rw [Utf8.cut?_eq_some_iff, Utf8.cut?_eq_some_iff]
    constructor
    · rintro ⟨before, after, htext, hbefore, hstop⟩
      rw [List.append_assoc] at htext
      obtain ⟨middle, rfl, hback⟩ := Utf8.exists_append_of_size_le htext (by omega)
      rw [Utf8.size_append] at hbefore
      exact ⟨middle, after, by rw [hback, List.append_assoc], by omega, by omega⟩
    · rintro ⟨before, after, rfl, rfl, rfl⟩
      exact ⟨front ++ before, after, by simp only [List.append_assoc], Utf8.size_append ..,
        Nat.add_assoc ..⟩
  rw [cut, cut, hcut]

theorem count_newline_encode (text : List Char) :
    (Utf8.encode text).count newline = text.count '\n' := by
  induction text with
  | nil => rfl
  | cons character text ih =>
    rw [Utf8.encode_cons, List.count_append, ih]
    by_cases hcharacter : character = '\n'
    · subst hcharacter
      rw [List.count_cons_self, Nat.add_comm]
      rfl
    · rw [List.count_cons_of_ne hcharacter,
        List.count_eq_zero_of_not_mem (Covers.newline_notMem_encodeChar hcharacter), Nat.zero_add]

theorem lineOf_shift (offset : Nat) :
    (linesOf (front ++ back)).lineOf (Utf8.size front + offset) =
      (Distance.ofText front).moveLine ((linesOf back).lineOf offset) := by
  rw [LineIndex.lineOf_ofBytes, LineIndex.lineOf_ofBytes, Utf8.encode_append,
    ← Utf8.length_encode, List.take_length_add_append, List.count_append, count_newline_encode,
    Nat.add_assoc]
  exact UInt32.ofNat_add ..

/-- The lines of a source are no later than its last one. -/
theorem addsTo_lineOf (distance : Distance) (source : List Char) (offset : Nat) :
    distance.AddsTo (source.count '\n' + 1) ((linesOf source).lineOf offset) :=
  distance.addsTo_of_le
    (count_newline_encode source ▸ LineIndex.toNat_lineOf_ofBytes_le (Utf8.encode source) offset)

theorem methodOf_shift (owner : String) (span : MethodSpan) :
    methodOf (front ++ back) (linesOf (front ++ back)) owner (span.shift (Utf8.size front)) =
      (methodOf back (linesOf back) owner span).map (Method.shift (.ofText front)) := by
  unfold methodOf
  rw [MethodSpan.shift, cut_shift, Nat.add_assoc, cut_shift, lineOf_shift, lineOf_shift]
  cases cut back span.start span.nameStop with
  | error error => rfl
  | ok name =>
    cases cut back span.start (span.close + 1) with
    | error error => rfl
    | ok text => rfl

end Behind

section Header

variable {front masked header source : List Char}

/-- A type behind text that shows nothing is the same type, moved. -/
theorem ShowsNothing.typeOf_shift (hfront : ShowsNothing front)
    (hsize : Utf8.size front = Utf8.size header) {head : Head} {opening close : Nat}
    (hcomplete : IsComplete (Utf8.encode masked) head opening close) :
    typeOf (header ++ source) (Utf8.encode (front ++ masked)) (linesOf (header ++ source))
        (head.shift (Utf8.size header)) (Utf8.size header + opening)
        (Utf8.size header + close) =
      (typeOf source (Utf8.encode masked) (linesOf source) head opening close).map
        (DeclaredType.shift (.ofText header)) := by
  have hspans := bodyMethodSpans_shift (Utf8.encode masked) hfront.isBlank head.kind
    hcomplete.opening_lt_close (Nat.le_of_lt hcomplete.close_lt_length)
  rw [Utf8.length_encode, hsize] at hspans
  have hmethods (spans : List MethodSpan) :
      (spans.map (MethodSpan.shift (Utf8.size header))).mapM
          (methodOf (header ++ source) (linesOf (header ++ source)) head.name) =
        (spans.mapM (methodOf source (linesOf source) head.name)).map
          (List.map (Method.shift (.ofText header))) := by
    rw [← mapM_map_result, List.mapM_map]
    exact congrArg (List.mapM · spans) (funext fun span => methodOf_shift header head.name span)
  unfold typeOf
  simp only [Head.shift]
  rw [Nat.add_assoc, cut_shift, Utf8.encode_append, hspans, hmethods, lineOf_shift, lineOf_shift]
  cases cut source head.start (close + 1) with
  | error error => rfl
  | ok text =>
    cases (bodyMethodSpans head.kind (Utf8.encode masked) opening close).mapM
        (methodOf source (linesOf source) head.name) with
    | error error => rfl
    | ok methods =>
      refine congrArg Except.ok ((DeclaredType.mk.injEq ..).mpr
        ⟨rfl, rfl, rfl, rfl, rfl, rfl, rfl, ?_⟩)
      rw [NameMap.mapValues_ofList, List.map_map, List.map_map]
      rfl

theorem AreTypes.addsTo_of_mem {masked : List Char} {source : String} {types : List DeclaredType}
    (htypes : AreTypes masked source.toList types) (hcovers : Covers masked source.toList)
    {type : DeclaredType} (htype : type ∈ types) (distance : Distance) :
    type.LinesSatisfy (distance.AddsTo (source.toList.count '\n' + 1)) := by
  obtain ⟨head, opening, close, hcomplete, hholds⟩ := htypes.exists_declaration hcovers htype
  constructor
  case startLine => exact hholds.startLine_eq ▸ addsTo_lineOf distance source.toList _
  case endLine => exact hholds.endLine_eq ▸ addsTo_lineOf distance source.toList _
  case methods =>
    intro name method hmethod
    obtain ⟨-, span, -, -, hspan⟩ := hholds.exists_span hcovers hcomplete hmethod
    rw [hspan.startLine_eq, hspan.endLine_eq]
    exact ⟨addsTo_lineOf distance source.toList _, addsTo_lineOf distance source.toList _⟩

theorem complete_map_shift (count : Nat) (declarations : List Declaration) :
    complete (declarations.map (Declaration.shift count)) =
      (complete declarations).map fun (head, opening, close) =>
        (head.shift count, count + opening, count + close) := by
  rw [complete, complete, List.filterMap_map, List.map_filterMap]
  refine congrArg (List.filterMap · declarations) (funext fun declaration => ?_)
  simp only [Function.comp_apply, Declaration.shift, Option.map_map]
  rfl

/-- The types behind text that shows nothing are the same types, moved. -/
theorem AreTypes.shift (hfront : ShowsNothing front)
    (hsize : Utf8.size front = Utf8.size header) {types : List DeclaredType}
    (htypes : AreTypes masked source types) :
    AreTypes (front ++ masked) (header ++ source)
      (types.map (DeclaredType.shift (.ofText header))) := by
  have hmoved := congrArg (List.map (Except.map (DeclaredType.shift (.ofText header)))) htypes
  rw [List.map_map, List.map_map] at hmoved
  rw [AreTypes, hfront.declarations_shift, hsize, complete_map_shift, List.map_map, List.map_map]
  refine Eq.trans (List.map_congr_left fun ⟨head, opening, close⟩ hmem => ?_) hmoved
  have hcomplete := isComplete_of_mem_declarations (mem_complete.mp hmem) rfl
  exact hfront.typeOf_shift hsize hcomplete

/-- The notes about unclosed declarations are moved, with the same messages. -/
theorem ShowsNothing.issues_unclosedOutline_shift (hfront : ShowsNothing front)
    (hsize : Utf8.size front = Utf8.size header) (masked source : List Char) :
    (unclosedOutline (linesOf (header ++ source)) (declarations (front ++ masked))).issues =
      (unclosedOutline (linesOf source) (declarations masked)).issues.map fun issue =>
        ⟨(Distance.ofText header).moveLine issue.line, issue.message⟩ := by
  have hunclosed : (declarations (front ++ masked)).filter (·.closing?.isNone) =
      ((declarations masked).filter (·.closing?.isNone)).map
        (Declaration.shift (Utf8.size header)) := by
    rw [hfront.declarations_shift, hsize, List.filter_map]
    refine congrArg (fun property => ((declarations masked).filter property).map _) ?_
    exact funext fun declaration => Option.isNone_map
  rw [unclosedOutline, unclosedOutline, hunclosed, List.map_map, List.map_map]
  refine List.map_congr_left fun declaration _ => ?_
  exact congrArg (Issue.mk · _) (lineOf_shift header declaration.head.start)

theorem ShowsNothing.isShift_unclosedOutline (hfront : ShowsNothing front)
    (hsize : Utf8.size front = Utf8.size header) (masked source : List Char) :
    IsShift (.ofText header) (source.count '\n' + 1)
      (unclosedOutline (linesOf source) (declarations masked))
      (unclosedOutline (linesOf (header ++ source)) (declarations (front ++ masked))) where
  filename_eq := rfl
  types_eq := rfl
  addsTo_types _ _ hnone := nomatch hnone
  exists_notes := by
    refine ⟨((declarations masked).filter (·.closing?.isNone)).map fun declaration =>
      .unclosed ((linesOf source).lineOf declaration.head.start) declaration.head.kind
        declaration.head.name, ?_, ?_, ?_⟩
    · rw [List.map_map]
      rfl
    · rw [hfront.issues_unclosedOutline_shift hsize, unclosedOutline, List.map_map, List.map_map,
        List.map_map]
      rfl
    · intro note hnote
      obtain ⟨declaration, -, rfl⟩ := List.mem_map.mp hnote
      exact List.forall_mem_singleton.mpr (addsTo_lineOf _ source _)

end Header

theorem exists_noTypeError_map (move : UInt32 → UInt32) (issues : List Issue) :
    ∃ line detail, noTypeError issues = .inSource line detail ∧
      noTypeError (issues.map fun issue => ⟨move issue.line, issue.message⟩) =
        .inSource (line.map move) detail ∧
      ∀ number ∈ line, ∃ issue ∈ issues, issue.line = number := by
  cases issues with
  | nil => exact ⟨none, _, rfl, rfl, fun number hnumber => nomatch hnumber⟩
  | cons issue issues =>
    refine ⟨some issue.line, _, rfl, rfl, fun number hnumber => ?_⟩
    exact ⟨issue, List.mem_cons_self, Option.mem_some.mp hnumber⟩

/-- A header that shows nothing moves the outline of what stands behind it, or the line of the error
when that has no outline. -/
theorem EndsLine.outline_shift {header source : String} (hheader : EndsLine header)
    (hfront : ShowsNothing (mask header).toList)
    (hblank : source.toList.all Blank.isBlank = false) :
    (∃ line detail, outline source = .error (.inSource line detail) ∧
      outline (header ++ source) =
        .error (.inSource (line.map (Distance.ofText header.toList).moveLine) detail) ∧
      ∀ number ∈ line,
        (Distance.ofText header.toList).AddsTo (source.toList.count '\n' + 1) number) ∨
    ∃ result shifted, outline source = .ok result ∧ outline (header ++ source) = .ok shifted ∧
      IsShift (.ofText header.toList) (source.toList.count '\n' + 1) result shifted := by
  have hsize : Utf8.size (mask header).toList = Utf8.size header.toList := by
    rw [← Utf8.length_encode, (covers_mask header).masks.length_eq, Utf8.length_encode]
  have hbehind : (header ++ source).toList.all Blank.isBlank = false := by
    rw [String.toList_append, List.all_append, hblank, Bool.and_false]
  obtain ⟨types, htypes⟩ := exists_areTypes (covers_mask source)
  have hmoved := htypes.shift hfront hsize
  have hstart := hfront.isShift_unclosedOutline hsize (mask source).toList source.toList
  have hissues := hfront.issues_unclosedOutline_shift hsize (mask source).toList source.toList
  rw [← hheader.toList_mask_append, ← String.toList_append] at hmoved hstart hissues
  rw [outline_eq_finished hblank htypes, outline_eq_finished hbehind hmoved]
  cases types with
  | nil =>
    -- Without a type the error is about the first unclosed declaration, if there is one.
    obtain ⟨line, detail, herror, hmovedError, hline⟩ :=
      exists_noTypeError_map (Distance.ofText header.toList).moveLine
        (unclosedOutline (linesOf source.toList) (declarations (mask source).toList)).issues
    rw [← hissues] at hmovedError
    refine Or.inl ⟨line, detail, congrArg Except.error herror, congrArg Except.error hmovedError,
      fun number hnumber => ?_⟩
    obtain ⟨issue, hissue, rfl⟩ := hline number hnumber
    obtain ⟨declaration, -, -, rfl⟩ := mem_issues_unclosedOutline.mp hissue
    exact addsTo_lineOf _ source.toList declaration.head.start
  | cons type types =>
    right
    have hshift := hstart.foldl_addType fun type htype =>
      htypes.addsTo_of_mem (covers_mask source) htype (.ofText header.toList)
    exact ⟨_, _, finished_foldl_addType (List.cons_ne_nil type types) _,
      finished_foldl_addType (List.cons_ne_nil _ _) _, hshift⟩

end Java

end JavaDiff
