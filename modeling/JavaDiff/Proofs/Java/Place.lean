import JavaDiff.Java.Outline
import JavaDiff.Proofs.Java.Declaration
import JavaDiff.Proofs.Java.Mask
import JavaDiff.Proofs.Java.Member
import JavaDiff.Proofs.NameMap
import JavaDiff.Proofs.Outcome

/-!
# What is kept at a place

The offsets that are found in masked source are character boundaries of the source, so the texts at
them can be cut.  Every complete declaration has a type then, and the outline of a source that holds
more than blanks is made of those types.
-/

namespace JavaDiff

namespace Java

open Ascii

variable {masked source : List Char}

theorem lt_of_isIdentifier_eq_false {byte : UInt8} (hbyte : isIdentifier byte = false) :
    byte < 128 := by
  rw [isIdentifier, Bool.or_eq_false_iff] at hbyte
  exact UInt8.not_le.mp (by simpa using hbyte.2)

theorem lt_of_isBlank {byte : UInt8} (hbyte : isBlank byte = true) : byte < 128 := by
  simp only [isBlank, Bool.or_eq_true, beq_iff_eq] at hbyte
  rcases hbyte with (((rfl | rfl) | rfl) | rfl) | rfl <;> decide

theorem ne_space_of_isIdentifier {byte : UInt8} (hbyte : isIdentifier byte = true) :
    byte ≠ space := by
  rintro rfl
  exact absurd hbyte (by decide)

theorem isBoundary_succ (hcovers : Covers masked source) {offset : Nat} {byte : UInt8}
    (hbyte : (Utf8.encode masked)[offset]? = some byte) (hascii : byte < 128)
    (hshown : byte ≠ space) : Utf8.IsBoundary source (offset + 1) :=
  Utf8.isBoundary_succ_of_ascii (hcovers.masks.getElem?_eq_some hbyte hshown) hascii

namespace IsRun

variable {start stop : Nat}

/-- The byte in front of a run is ASCII, or there is none. -/
theorem isBoundary_masked_start (hrun : IsRun (Utf8.encode masked) start stop) :
    Utf8.IsBoundary masked start := by
  have hlt := hrun.start_lt_stop
  have hlength := hrun.stop_le_length
  cases hstart : start with
  | zero => exact Utf8.isBoundary_zero masked
  | succ before =>
    have hbyte := List.getElem?_eq_getElem (l := Utf8.encode masked) (i := before) (by omega)
    have hlast := hrun.isIdentifier_before _ (by
      rw [hstart, List.getLast?_take, if_neg (Nat.succ_ne_zero before), Nat.add_sub_cancel, hbyte]
      rfl)
    exact Utf8.isBoundary_succ_of_ascii hbyte (lt_of_isIdentifier_eq_false hlast)

theorem isBoundary_start (hrun : IsRun (Utf8.encode masked) start stop)
    (hcovers : Covers masked source) : Utf8.IsBoundary source start := by
  have hlt := hrun.start_lt_stop
  have hlength := hrun.stop_le_length
  have hbyte := List.getElem?_eq_getElem (l := Utf8.encode masked) (i := start) (by omega)
  have hidentifier := hrun.isIdentifier_of_mem _ (mem_extract hbyte (Nat.le_refl _) hlt)
  exact hcovers.isBoundary_of_shown hrun.isBoundary_masked_start hbyte
    (ne_space_of_isIdentifier hidentifier)

theorem isBoundary_stop (hrun : IsRun (Utf8.encode masked) start stop)
    (hcovers : Covers masked source) (hstop : Utf8.IsBoundary masked stop) :
    Utf8.IsBoundary source stop := by
  have hlt := hrun.start_lt_stop
  have hlength := hrun.stop_le_length
  obtain ⟨last, rfl⟩ : ∃ last, stop = last + 1 := ⟨stop - 1, by omega⟩
  have hbyte := List.getElem?_eq_getElem (l := Utf8.encode masked) (i := last) (by omega)
  have hidentifier := hrun.isIdentifier_of_mem _ (mem_extract hbyte (by omega) (by omega))
  exact hcovers.isBoundary_succ_of_shown hstop hbyte (ne_space_of_isIdentifier hidentifier)

theorem extract_source (hrun : IsRun (Utf8.encode masked) start stop)
    (hcovers : Covers masked source) :
    (Utf8.encode source).extract start stop = (Utf8.encode masked).extract start stop :=
  (hcovers.masks.extract_eq fun byte hbyte =>
    ne_space_of_isIdentifier (hrun.isIdentifier_of_mem byte hbyte)).symm

end IsRun

/-- Blanks end at a boundary if they start in front of one. -/
theorem isBoundary_of_blanks {start stop : Nat} (hle : start ≤ stop)
    (hlength : stop ≤ (Utf8.encode masked).length)
    (hblank : ∀ byte ∈ (Utf8.encode masked).extract start stop, isBlank byte = true)
    (hstop : Utf8.IsBoundary masked stop) : Utf8.IsBoundary masked start := by
  rcases Nat.lt_or_eq_of_le hle with hgap | rfl
  · have hbyte := List.getElem?_eq_getElem (l := Utf8.encode masked) (i := start) (by omega)
    exact Utf8.isBoundary_of_ascii hbyte
      (lt_of_isBlank (hblank _ (mem_extract hbyte (Nat.le_refl _) hgap)))
  · exact hstop

/-- Whether a source can be cut between two offsets: both are boundaries, and they are in order. -/
structure IsSlice (source : List Char) (start stop : Nat) : Prop where
  start_le_stop : start ≤ stop
  isBoundary_start : Utf8.IsBoundary source start
  isBoundary_stop : Utf8.IsBoundary source stop

/-- Whether a source can be cut between two offsets and has the bytes of a word there. -/
structure IsWordSlice (source : List Char) (word : List UInt8) (start stop : Nat) : Prop extends
    IsSlice source start stop where
  extract_eq : (Utf8.encode source).extract start stop = word

theorem LastIdentifier.IsLast.isWordSlice {offset : Nat} {identifier : LastIdentifier}
    (hlast : identifier.IsLast (Utf8.encode masked) offset) (hcovers : Covers masked source)
    (hlength : offset ≤ (Utf8.encode masked).length) (hoffset : Utf8.IsBoundary masked offset) :
    IsWordSlice source identifier.word (identifier.startAt offset) (identifier.stopAt offset) := by
  have hstop := isBoundary_of_blanks hlast.stopAt_le hlength hlast.isBlank_of_mem hoffset
  exact {
    start_le_stop := Nat.le_of_lt hlast.isRun.start_lt_stop
    isBoundary_start := hlast.isRun.isBoundary_start hcovers
    isBoundary_stop := hlast.isRun.isBoundary_stop hcovers hstop
    extract_eq := (hlast.isRun.extract_source hcovers).trans hlast.extract_eq }

/-- The name in front of a parenthesis is found in the masked source, and stands in the source. -/
theorem isWordSlice_name (hcovers : Covers masked source) {paren : Nat}
    (hparen : (Utf8.encode masked)[paren]? = some openParen) {name : LastIdentifier}
    (hname : lastIdentifier? ((Utf8.encode masked).take paren).reverse = some name) :
    IsWordSlice source name.word (name.startAt paren) (name.stopAt paren) := by
  obtain ⟨hlength, -⟩ := List.getElem?_eq_some_iff.mp hparen
  exact (LastIdentifier.isLast_of_eq_some (Nat.le_of_lt hlength) hname).isWordSlice hcovers
    (Nat.le_of_lt hlength) (Utf8.isBoundary_of_ascii hparen (by decide))

/-- The word in front of the name is found in the masked source, and stands in the source. -/
theorem isWordSlice_word (hcovers : Covers masked source) {paren : Nat}
    (hparen : (Utf8.encode masked)[paren]? = some openParen) {name word : LastIdentifier}
    (hname : lastIdentifier? ((Utf8.encode masked).take paren).reverse = some name)
    (hword : lastIdentifier? name.before = some word) :
    IsWordSlice source word.word (word.startAt (name.startAt paren))
      (word.stopAt (name.startAt paren)) := by
  obtain ⟨hlength, -⟩ := List.getElem?_eq_some_iff.mp hparen
  have hlast := LastIdentifier.isLast_of_eq_some (Nat.le_of_lt hlength) hname
  have hle := Nat.le_trans (Nat.le_of_lt hlast.isRun.start_lt_stop) hlast.isRun.stop_le_length
  rw [hlast.before_eq] at hword
  exact (LastIdentifier.isLast_of_eq_some hle hword).isWordSlice hcovers hle
    hlast.isRun.isBoundary_masked_start

namespace MethodSpan.IsMethod

variable {span : MethodSpan}

theorem isBoundary_start (hspan : span.IsMethod (Utf8.encode masked))
    (hcovers : Covers masked source) : Utf8.IsBoundary source span.start :=
  hspan.isRun.isBoundary_start hcovers

theorem isBoundary_nameStop (hspan : span.IsMethod (Utf8.encode masked))
    (hcovers : Covers masked source) : Utf8.IsBoundary source span.nameStop := by
  have hlength := hspan.close_lt_length
  have hclose := hspan.paren_lt_close
  have hparen := Utf8.isBoundary_of_ascii hspan.openParen_at (by decide)
  exact hspan.isRun.isBoundary_stop hcovers
    (isBoundary_of_blanks hspan.nameStop_le_paren (by omega) hspan.isBlank_of_mem hparen)

theorem isBoundary_stop (hspan : span.IsMethod (Utf8.encode masked))
    (hcovers : Covers masked source) : Utf8.IsBoundary source (span.close + 1) :=
  isBoundary_succ hcovers hspan.closeBrace_at (by decide) (by decide)

end MethodSpan.IsMethod

theorem exists_cut_eq_ok {start stop : Nat} (hstart : Utf8.IsBoundary source start)
    (hstop : Utf8.IsBoundary source stop) (hle : start ≤ stop) :
    ∃ text, cut source start stop = .ok text ∧
      Utf8.encode text.toList = (Utf8.encode source).extract start stop := by
  obtain ⟨piece, hpiece⟩ := Utf8.exists_cut?_eq_some hstart hstop hle
  refine ⟨String.ofList piece, by rw [cut, hpiece], ?_⟩
  rw [String.toList_ofList, Utf8.encode_of_cut? hpiece]

/-- The line index of a source. -/
abbrev linesOf (source : List Char) : LineIndex := LineIndex.ofBytes (Utf8.encode source)

/-- What the method at a span of the source holds.  Its name can be read off the masked source. -/
structure MethodSpan.Holds (masked source : List Char) (owner : String) (span : MethodSpan)
    (method : Method) : Prop where
  name_eq : Utf8.encode method.name.toList =
    (Utf8.encode masked).extract span.start span.nameStop
  owner_eq : method.owner = owner
  text_eq : Utf8.encode method.text.toList =
    (Utf8.encode source).extract span.start (span.close + 1)
  startLine_eq : method.startLine = (linesOf source).lineOf span.start
  endLine_eq : method.endLine = (linesOf source).lineOf span.close
  startByte_eq : method.startByte = span.start

theorem exists_methodOf_eq_ok (hcovers : Covers masked source) {span : MethodSpan}
    (hspan : span.IsMethod (Utf8.encode masked)) (owner : String) :
    ∃ method, methodOf source (linesOf source) owner span = .ok method ∧
      span.Holds masked source owner method := by
  have hname := hspan.start_lt_nameStop
  have hparen := hspan.nameStop_le_paren
  have hclose := hspan.paren_lt_close
  have hstart := hspan.isBoundary_start hcovers
  obtain ⟨name, hcutName, hnameBytes⟩ :=
    exists_cut_eq_ok hstart (hspan.isBoundary_nameStop hcovers) (Nat.le_of_lt hname)
  obtain ⟨text, hcutText, htextBytes⟩ :=
    exists_cut_eq_ok hstart (hspan.isBoundary_stop hcovers) (by omega)
  refine ⟨⟨name, owner, text, (linesOf source).lineOf span.start,
    (linesOf source).lineOf span.close, span.start⟩, ?_, ?_⟩
  · rw [methodOf, hcutName, hcutText]
    rfl
  · exact ⟨hnameBytes.trans (hspan.isRun.extract_source hcovers), rfl, htextBytes, rfl, rfl, rfl⟩

theorem holds_of_methodOf_eq_ok (hcovers : Covers masked source) {span : MethodSpan}
    (hspan : span.IsMethod (Utf8.encode masked)) {owner : String} {method : Method}
    (hmethod : methodOf source (linesOf source) owner span = .ok method) :
    span.Holds masked source owner method := by
  obtain ⟨other, hother, hholds⟩ := exists_methodOf_eq_ok hcovers hspan owner
  obtain rfl := Except.ok.inj (hmethod.symm.trans hother)
  exact hholds

/-- What the type of a complete declaration holds. -/
structure Head.Holds (masked source : List Char) (head : Head) (opening close : Nat)
    (type : DeclaredType) : Prop where
  name_eq : type.name = head.name
  filename_eq : type.filename = unnamedSource
  kind_eq : type.kind = head.kind
  text_eq : Utf8.encode type.text.toList =
    (Utf8.encode source).extract head.start (close + 1)
  startLine_eq : type.startLine = (linesOf source).lineOf head.start
  endLine_eq : type.endLine = (linesOf source).lineOf close
  startByte_eq : type.startByte = head.start
  methods_eq : ∃ methods : List Method,
    (bodyMethodSpans head.kind (Utf8.encode masked) opening close).map
      (methodOf source (linesOf source) head.name) = methods.map .ok ∧
    type.methods = .ofList (methods.map fun method => (method.name, method))

namespace IsComplete

variable {head : Head} {opening close : Nat}

theorem start_lt_opening {bytes : List UInt8} (hcomplete : IsComplete bytes head opening close) :
    head.start < opening := by
  have hkeyword := hcomplete.keyword_le_opening
  have hpositive : 0 < Utf8.size head.kind.keyword.toList := by
    cases head.kind <;> decide
  omega

theorem close_lt_length {bytes : List UInt8} (hcomplete : IsComplete bytes head opening close) :
    close < bytes.length := by
  obtain ⟨hlength, -⟩ := List.getElem?_eq_some_iff.mp hcomplete.closeBrace_at
  exact hlength

theorem bodyMethodSpans_spec {bytes : List UInt8}
    (hcomplete : IsComplete bytes head opening close) :
    (∀ span ∈ bodyMethodSpans head.kind bytes opening close,
      span.IsMethod bytes ∧ opening < span.start ∧ span.close < close) ∧
    (bodyMethodSpans head.kind bytes opening close).Pairwise
      fun earlier later => earlier.close < later.start :=
  Java.bodyMethodSpans_spec hcomplete.openBrace_at hcomplete.opening_lt_close
    (Nat.le_of_lt hcomplete.close_lt_length)

theorem isBoundary_start (hcomplete : IsComplete (Utf8.encode masked) head opening close)
    (hcovers : Covers masked source) : Utf8.IsBoundary source head.start := by
  obtain ⟨first, others, hkeyword, hascii, hshown⟩ : ∃ first others,
      Utf8.encode head.kind.keyword.toList = first :: others ∧ first < 128 ∧ first ≠ space := by
    cases head.kind <;> exact ⟨_, _, rfl, by decide, by decide⟩
  obtain ⟨tail, htail⟩ := hcomplete.keyword_isPrefix
  have hbyte : (Utf8.encode masked)[head.start]? = some first := by
    rw [← Nat.add_zero head.start, ← List.getElem?_drop, ← htail, hkeyword]
    rfl
  exact Utf8.isBoundary_of_ascii (hcovers.masks.getElem?_eq_some hbyte hshown) hascii

theorem exists_typeOf_eq_ok (hcomplete : IsComplete (Utf8.encode masked) head opening close)
    (hcovers : Covers masked source) :
    ∃ type, typeOf source (Utf8.encode masked) (linesOf source) head opening close = .ok type ∧
      head.Holds masked source opening close type := by
  have hopening := hcomplete.start_lt_opening
  have hclose := hcomplete.opening_lt_close
  have hstop := isBoundary_succ hcovers hcomplete.closeBrace_at (by decide) (by decide)
  obtain ⟨text, hcut, htextBytes⟩ :=
    exists_cut_eq_ok (hcomplete.isBoundary_start hcovers) hstop (by omega)
  obtain ⟨methods, hmethods⟩ := exists_map_eq_map_ok fun span hspan =>
    (exists_methodOf_eq_ok hcovers (hcomplete.bodyMethodSpans_spec.1 span hspan).1
      head.name).imp fun method hmethod => hmethod.1
  refine ⟨⟨head.name, unnamedSource, head.kind, text, (linesOf source).lineOf head.start,
    (linesOf source).lineOf close, head.start,
    .ofList (methods.map fun method => (method.name, method))⟩, ?_, ?_⟩
  · rw [typeOf, hcut, mapM_eq_ok_iff.mpr hmethods]
    rfl
  · exact ⟨rfl, rfl, rfl, htextBytes, rfl, rfl, rfl, methods, hmethods, rfl⟩

theorem holds_of_typeOf_eq_ok (hcomplete : IsComplete (Utf8.encode masked) head opening close)
    (hcovers : Covers masked source) {type : DeclaredType}
    (htype : typeOf source (Utf8.encode masked) (linesOf source) head opening close = .ok type) :
    head.Holds masked source opening close type := by
  obtain ⟨other, hother, hholds⟩ := hcomplete.exists_typeOf_eq_ok hcovers
  obtain rfl := Except.ok.inj (htype.symm.trans hother)
  exact hholds

end IsComplete

theorem mem_types_foldl_addType {types : List DeclaredType} {outline : Outline} {name : String}
    {type : DeclaredType}
    (hentry : (name, type) ∈ (types.foldl addType outline).types.entries) :
    (name, type) ∈ outline.types.entries ∨ type ∈ types ∧ type.name = name := by
  induction types generalizing outline with
  | nil => exact Or.inl hentry
  | cons first types ih =>
    rcases ih hentry with hadded | ⟨hmem, hname⟩
    · rcases NameMap.mem_insertEntry hadded with hfirst | hbefore
      · obtain ⟨rfl, rfl⟩ := Prod.mk.inj hfirst
        exact Or.inr ⟨List.mem_cons_self, rfl⟩
      · exact Or.inl hbefore
    · exact Or.inr ⟨List.mem_cons_of_mem first hmem, hname⟩

theorem mem_names_foldl_addType {types : List DeclaredType} {outline : Outline} {name : String} :
    name ∈ (types.foldl addType outline).types.names ↔
      name ∈ outline.types.names ∨ ∃ type ∈ types, type.name = name := by
  induction types generalizing outline with
  | nil => simp
  | cons first types ih =>
    rw [List.foldl_cons, ih, addType, NameMap.mem_names_insert, eq_comm (a := name),
      or_comm (a := first.name = name), or_assoc]
    simp only [List.mem_cons, or_and_right, exists_or, exists_eq_left]

theorem issues_isPrefix_foldl_addType (types : List DeclaredType) (outline : Outline) :
    outline.issues <+: (types.foldl addType outline).issues := by
  induction types generalizing outline with
  | nil => exact List.prefix_rfl
  | cons first types ih =>
    refine List.IsPrefix.trans ?_ (ih (addType outline first))
    rw [addType]
    split
    · exact List.prefix_append ..
    · exact List.prefix_rfl

/-- The complete declarations among some, each with the end of its body. -/
def complete (declarations : List Declaration) : List (Head × Nat × Nat) :=
  declarations.filterMap fun declaration =>
    declaration.closing?.map (declaration.head, declaration.opening, ·)

theorem mem_complete {declarations : List Declaration} {head : Head} {opening close : Nat} :
    (head, opening, close) ∈ complete declarations ↔
      ⟨head, opening, some close⟩ ∈ declarations := by
  simp only [complete, List.mem_filterMap, Option.map_eq_some_iff, Prod.mk.injEq]
  constructor
  · rintro ⟨⟨head, opening, closing?⟩, hmem, close, rfl, rfl, rfl, rfl⟩
    exact hmem
  · exact fun hmem => ⟨_, hmem, close, rfl, rfl, rfl, rfl⟩

/-- The outline with no types and a note about each declaration that is not complete. -/
def unclosedOutline (lines : LineIndex) (declarations : List Declaration) : Outline :=
  { Outline.empty unnamedSource with
    issues := (declarations.filter (·.closing?.isNone)).map fun declaration =>
      unclosedIssue lines declaration.head }

theorem mem_issues_unclosedOutline {lines : LineIndex} {declarations : List Declaration}
    {issue : Issue} :
    issue ∈ (unclosedOutline lines declarations).issues ↔
      ∃ declaration ∈ declarations, declaration.closing? = none ∧
        unclosedIssue lines declaration.head = issue := by
  rw [unclosedOutline, List.mem_map]
  simp only [List.mem_filter, Option.isNone_iff_eq_none, and_assoc]

/-- The types of the complete declarations in a source. -/
def AreTypes (masked source : List Char) (types : List DeclaredType) : Prop :=
  (complete (declarations masked)).map (fun (head, opening, close) =>
    typeOf source (Utf8.encode masked) (linesOf source) head opening close) = types.map .ok

/-- The outcome of an outline: without a type it is an error. -/
def finished (outline : Outline) : Except Error Outline :=
  if outline.isEmpty then .error (noTypeError outline.issues) else .ok outline

theorem finished_eq_ok_iff {outline result : Outline} :
    finished outline = .ok result ↔ outline.types.size ≠ 0 ∧ outline = result := by
  rw [finished, Outline.isEmpty]
  split
  · rename_i hempty
    exact iff_of_false (fun hequal => nomatch hequal) fun hresult =>
      hresult.1 (beq_iff_eq.mp hempty)
  · rename_i hempty
    rw [Except.ok.injEq]
    exact (and_iff_right fun hsize => hempty (beq_iff_eq.mpr hsize)).symm

theorem size_ne_zero_of_get? {outline : Outline} {name : String} {type : DeclaredType}
    (htype : outline.types.get? name = some type) : outline.types.size ≠ 0 := by
  rw [NameMap.get?_eq_some_iff] at htype
  exact Nat.ne_of_gt (List.length_pos_of_mem htype)

theorem size_foldl_addType_ne_zero {types : List DeclaredType} (htypes : types ≠ [])
    (start : Outline) : (types.foldl addType start).types.size ≠ 0 := by
  obtain ⟨type, hmem⟩ := List.exists_mem_of_ne_nil types htypes
  have hname : type.name ∈ (types.foldl addType start).types.names :=
    mem_names_foldl_addType.mpr (Or.inr ⟨type, hmem, rfl⟩)
  obtain ⟨kept, hkept⟩ := NameMap.mem_names_iff.mp hname
  exact size_ne_zero_of_get? hkept

theorem finished_foldl_addType {types : List DeclaredType} (htypes : types ≠ []) (start : Outline) :
    finished (types.foldl addType start) = .ok (types.foldl addType start) :=
  finished_eq_ok_iff.mpr ⟨size_foldl_addType_ne_zero htypes start, rfl⟩

theorem exists_areTypes (hcovers : Covers masked source) :
    ∃ types, AreTypes masked source types := by
  apply exists_map_eq_map_ok
  intro ⟨head, opening, close⟩ hmem
  have hcomplete := isComplete_of_mem_declarations (mem_complete.mp hmem) rfl
  exact (hcomplete.exists_typeOf_eq_ok hcovers).imp fun type htype => htype.1

theorem AreTypes.exists_declaration {types : List DeclaredType} (hcovers : Covers masked source)
    (htypes : AreTypes masked source types) {type : DeclaredType} (htype : type ∈ types) :
    ∃ head opening close, IsComplete (Utf8.encode masked) head opening close ∧
      head.Holds masked source opening close type := by
  obtain ⟨⟨head, opening, close⟩, hmem, hequal⟩ := exists_of_mem_results htypes htype
  have hcomplete := isComplete_of_mem_declarations (mem_complete.mp hmem) rfl
  exact ⟨head, opening, close, hcomplete, hcomplete.holds_of_typeOf_eq_ok hcovers hequal⟩

theorem AreTypes.exists_type {types : List DeclaredType} (hcovers : Covers masked source)
    (htypes : AreTypes masked source types) {declaration : Declaration} {close : Nat}
    (hmem : declaration ∈ declarations masked) (hclose : declaration.closing? = some close) :
    ∃ type ∈ types, type.name = declaration.head.name := by
  have hcomplete := isComplete_of_mem_declarations hmem hclose
  obtain ⟨type, htype, hholds⟩ := hcomplete.exists_typeOf_eq_ok hcovers
  have hpart : (declaration.head, declaration.opening, close) ∈ complete (declarations masked) :=
    mem_complete.mpr (hclose ▸ hmem)
  exact ⟨type, mem_results_of_eq_ok htypes hpart htype, hholds.name_eq⟩

/-- The outline of a source that holds more than blanks is made of the types of its complete
declarations and the notes about the others. -/
theorem outline_eq_finished {source : String} {types : List DeclaredType}
    (hblank : source.toList.all Blank.isBlank = false)
    (htypes : AreTypes (mask source).toList source.toList types) :
    outline source = finished (types.foldl addType
      (unclosedOutline (linesOf source.toList) (declarations (mask source).toList))) := by
  have hmapM := mapM_eq_ok_iff.mpr htypes
  rw [outline, if_neg (by simp [hblank])]
  unfold outlineOf
  simp only [complete] at hmapM
  simp only [hmapM]
  rfl

/-- Every type of an outline stands under its own name and comes from a complete declaration. -/
theorem exists_declaration_of_outline_eq_ok {source : String} {result : Outline}
    (houtline : outline source = .ok result) {name : String} {type : DeclaredType}
    (htype : result.types.get? name = some type) :
    type.name = name ∧ ∃ head opening close, IsComplete (Utf8.encode (mask source).toList) head opening close ∧
      head.Holds (mask source).toList source.toList opening close type := by
  obtain ⟨types, htypes⟩ := exists_areTypes (covers_mask source)
  rw [NameMap.get?_eq_some_iff] at htype
  cases hblank : source.toList.all Blank.isBlank with
  | true =>
    rw [outline, if_pos hblank] at houtline
    obtain rfl := Except.ok.inj houtline
    exact absurd htype List.not_mem_nil
  | false =>
    rw [outline_eq_finished hblank htypes, finished] at houtline
    split at houtline
    · cases houtline
    · obtain rfl := Except.ok.inj houtline
      rcases mem_types_foldl_addType htype with hnone | ⟨hmem, hname⟩
      · exact absurd hnone List.not_mem_nil
      · exact ⟨hname, htypes.exists_declaration (covers_mask source) hmem⟩

end Java

end JavaDiff
