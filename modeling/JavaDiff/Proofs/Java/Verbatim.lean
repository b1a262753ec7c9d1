import JavaDiff.Proofs.Java.Place
import JavaDiff.Proofs.Text.Line

/-!
# Outlines quote the source

Every type of an outline stands under its own name and holds the bytes of the source from its offset
on, from the keyword to the closing brace, and so does every method, from its name to the closing
brace.  Lines are counted by line feeds in words of 32 bits.  The methods lie inside their type, and
no two of them overlap.
-/

namespace JavaDiff

namespace Java

open Ascii

/-- A text that is quoted from a source: it stands there from its offset on up to a closing brace,
and its lines are counted by the line feeds in front of its first and its last byte. -/
structure QuotedText (source text : String) (start : Nat) (firstLine lastLine : UInt32) : Prop where
  bytes_isPrefix : Utf8.encode text.toList <+: (Utf8.encode source.toList).drop start
  getLast?_eq : text.toList.getLast? = some '}'
  firstLine_countsTo :
    CountsTo firstLine (((Utf8.encode source.toList).take start).count newline + 1)
  lastLine_countsTo : CountsTo lastLine
    (((Utf8.encode source.toList).take (start + Utf8.size text.toList - 1)).count newline + 1)

/-- A method that is quoted from a source, inside the type it belongs to. -/
structure QuotedMethod (source : String) (type : DeclaredType) (method : Method) : Prop where
  owner_eq : method.owner = type.name
  quotedText : QuotedText source method.text method.startByte method.startLine method.endLine
  name_isPrefix : method.name.toList <+: method.text.toList
  start_lt : type.startByte < method.startByte
  stop_lt : method.startByte + Utf8.size method.text.toList <
    type.startByte + Utf8.size type.text.toList

/-- A type that is quoted from a source, with its methods in places of their own. -/
structure QuotedType (source : String) (type : DeclaredType) : Prop where
  quotedText : QuotedText source type.text type.startByte type.startLine type.endLine
  keyword_isPrefix : type.kind.keyword.toList <+: type.text.toList
  quoted_methods : ∀ name method, type.methods.get? name = some method →
    method.name = name ∧ QuotedMethod source type method
  methods_disjoint : ∀ name other method second, name ≠ other →
    type.methods.get? name = some method → type.methods.get? other = some second →
    method.startByte + Utf8.size method.text.toList ≤ second.startByte ∨
      second.startByte + Utf8.size second.text.toList ≤ method.startByte

section Texts

variable {source text : String} {start close : Nat}

theorem start_add_size (hle : start ≤ close)
    (htext : Utf8.encode text.toList = (Utf8.encode source.toList).extract start (close + 1))
    (hclose : (Utf8.encode source.toList)[close]? = some closeBrace) :
    start + Utf8.size text.toList = close + 1 := by
  obtain ⟨hlength, -⟩ := List.getElem?_eq_some_iff.mp hclose
  rw [← Utf8.length_encode, htext, List.extract_eq_take_drop, List.length_take, List.length_drop]
  omega

theorem getLast?_eq_closeBrace (hle : start ≤ close)
    (htext : Utf8.encode text.toList = (Utf8.encode source.toList).extract start (close + 1))
    (hclose : (Utf8.encode source.toList)[close]? = some closeBrace) :
    text.toList.getLast? = some '}' := by
  have hbyte : (Utf8.encode text.toList)[close - start]? = some closeBrace := by
    rw [htext, List.extract_eq_take_drop, List.getElem?_take_of_lt (by omega), List.getElem?_drop,
      Nat.add_sub_cancel' hle, hclose]
  have hencode : String.utf8EncodeChar '}' = [closeBrace] := rfl
  obtain ⟨left, right, hsplit, hsize⟩ := Utf8.exists_append_of_ascii hbyte (by decide) hencode
  have hright : right = [] := by
    have hstop := start_add_size hle htext hclose
    rw [hsplit, Utf8.size_append, Utf8.size_cons, hsize] at hstop
    cases right with
    | nil => rfl
    | cons first right =>
      have hbrace : '}'.utf8Size = 1 := rfl
      have hwidth := first.utf8Size_pos
      rw [Utf8.size_cons] at hstop
      omega
  rw [hsplit, hright, List.getLast?_concat]

theorem quotedText_of_extract (hle : start ≤ close)
    (htext : Utf8.encode text.toList = (Utf8.encode source.toList).extract start (close + 1))
    (hclose : (Utf8.encode source.toList)[close]? = some closeBrace) :
    QuotedText source text start ((linesOf source.toList).lineOf start)
      ((linesOf source.toList).lineOf close) := by
  refine ⟨?_, getLast?_eq_closeBrace hle htext hclose, LineIndex.countsTo_lineOf_ofBytes .., ?_⟩
  · rw [htext]
    exact extract_isPrefix_drop ..
  · rw [start_add_size hle htext hclose, Nat.add_sub_cancel]
    exact LineIndex.countsTo_lineOf_ofBytes ..

end Texts

namespace MethodSpan.Holds

variable {source : String} {masked : List Char} {span : MethodSpan} {owner : String}
  {method : Method}

theorem start_add_size (hholds : span.Holds masked source.toList owner method)
    (hcovers : Covers masked source.toList) (hspan : span.IsMethod (Utf8.encode masked)) :
    method.startByte + Utf8.size method.text.toList = span.close + 1 := by
  have hname := hspan.start_lt_nameStop
  have hparen := hspan.nameStop_le_paren
  have hclose := hspan.paren_lt_close
  have hbrace := hcovers.masks.getElem?_eq_some hspan.closeBrace_at (by decide)
  rw [hholds.startByte_eq]
  exact Java.start_add_size (by omega) hholds.text_eq hbrace

theorem quotedText (hholds : span.Holds masked source.toList owner method)
    (hcovers : Covers masked source.toList) (hspan : span.IsMethod (Utf8.encode masked)) :
    QuotedText source method.text method.startByte method.startLine method.endLine := by
  have hname := hspan.start_lt_nameStop
  have hparen := hspan.nameStop_le_paren
  have hclose := hspan.paren_lt_close
  have hbrace := hcovers.masks.getElem?_eq_some hspan.closeBrace_at (by decide)
  rw [hholds.startByte_eq, hholds.startLine_eq, hholds.endLine_eq]
  exact quotedText_of_extract (by omega) hholds.text_eq hbrace

theorem name_isPrefix (hholds : span.Holds masked source.toList owner method)
    (hcovers : Covers masked source.toList) (hspan : span.IsMethod (Utf8.encode masked)) :
    method.name.toList <+: method.text.toList := by
  have hparen := hspan.nameStop_le_paren
  have hclose := hspan.paren_lt_close
  apply Utf8.isPrefix_of_encode_isPrefix
  rw [hholds.name_eq, ← hspan.isRun.extract_source hcovers, hholds.text_eq]
  exact extract_isPrefix_extract _ (by omega)

end MethodSpan.Holds

namespace Head.Holds

variable {source : String} {masked : List Char} {head : Head} {opening close : Nat}
  {type : DeclaredType}

/-- A method of a type comes from a span in the body. -/
theorem exists_span (hholds : head.Holds masked source.toList opening close type)
    (hcovers : Covers masked source.toList)
    (hcomplete : IsComplete (Utf8.encode masked) head opening close) {name : String}
    {method : Method} (hmethod : type.methods.get? name = some method) :
    method.name = name ∧ ∃ span ∈ bodyMethodSpans head.kind (Utf8.encode masked) opening close,
      methodOf source.toList (linesOf source.toList) head.name span = .ok method ∧
      span.Holds masked source.toList head.name method := by
  obtain ⟨methods, hmethods, hmap⟩ := hholds.methods_eq
  rw [hmap, NameMap.get?_eq_some_iff] at hmethod
  obtain ⟨listed, hlisted, hentry⟩ := List.mem_map.mp (NameMap.mem_of_mem_ofList hmethod)
  obtain ⟨rfl, rfl⟩ := Prod.mk.inj hentry
  obtain ⟨span, hspan, hequal⟩ := exists_of_mem_results hmethods hlisted
  have hisMethod := (hcomplete.bodyMethodSpans_spec.1 span hspan).1
  exact ⟨rfl, span, hspan, hequal, holds_of_methodOf_eq_ok hcovers hisMethod hequal⟩

theorem start_add_size (hholds : head.Holds masked source.toList opening close type)
    (hcovers : Covers masked source.toList)
    (hcomplete : IsComplete (Utf8.encode masked) head opening close) :
    type.startByte + Utf8.size type.text.toList = close + 1 := by
  have hopening := hcomplete.start_lt_opening
  have hclose := hcomplete.opening_lt_close
  have hbrace := hcovers.masks.getElem?_eq_some hcomplete.closeBrace_at (by decide)
  rw [hholds.startByte_eq]
  exact Java.start_add_size (by omega) hholds.text_eq hbrace

theorem keyword_isPrefix (hholds : head.Holds masked source.toList opening close type)
    (hcovers : Covers masked source.toList)
    (hcomplete : IsComplete (Utf8.encode masked) head opening close) :
    type.kind.keyword.toList <+: type.text.toList := by
  have hkeyword := hcomplete.keyword_le_opening
  have hclose := hcomplete.opening_lt_close
  have hmasked : (Utf8.encode masked).extract head.start
      (head.start + Utf8.size head.kind.keyword.toList) = Utf8.encode head.kind.keyword.toList := by
    rw [List.extract_eq_take_drop, Nat.add_sub_cancel_left, ← Utf8.length_encode]
    exact (List.prefix_iff_eq_take.mp hcomplete.keyword_isPrefix).symm
  -- No keyword holds a space, so the source has the same bytes there.
  have hspace : space ∉ Utf8.encode head.kind.keyword.toList := by
    cases head.kind <;> decide
  have hsource := hcovers.masks.extract_eq fun byte hbyte hequal =>
    hspace (hequal ▸ hmasked ▸ hbyte)
  apply Utf8.isPrefix_of_encode_isPrefix
  rw [hholds.kind_eq, hholds.text_eq, ← hmasked, hsource]
  exact extract_isPrefix_extract _ (by omega)

theorem quotedMethod (hholds : head.Holds masked source.toList opening close type)
    (hcovers : Covers masked source.toList)
    (hcomplete : IsComplete (Utf8.encode masked) head opening close) {name : String}
    {method : Method} (hmethod : type.methods.get? name = some method) :
    method.name = name ∧ QuotedMethod source type method := by
  obtain ⟨hname, span, hspan, -, hspanHolds⟩ := hholds.exists_span hcovers hcomplete hmethod
  obtain ⟨hisMethod, hstart, hstop⟩ := hcomplete.bodyMethodSpans_spec.1 span hspan
  have hopening := hcomplete.start_lt_opening
  refine ⟨hname, hspanHolds.owner_eq.trans hholds.name_eq.symm,
    hspanHolds.quotedText hcovers hisMethod, hspanHolds.name_isPrefix hcovers hisMethod, ?_, ?_⟩
  · rw [hholds.startByte_eq, hspanHolds.startByte_eq]
    omega
  · rw [hholds.start_add_size hcovers hcomplete, hspanHolds.start_add_size hcovers hisMethod]
    omega

/-- Two methods of a type come from different spans, of which one ends before the other starts. -/
theorem methods_disjoint (hholds : head.Holds masked source.toList opening close type)
    (hcovers : Covers masked source.toList)
    (hcomplete : IsComplete (Utf8.encode masked) head opening close) {name other : String}
    {method second : Method} (hdifferent : name ≠ other)
    (hmethod : type.methods.get? name = some method)
    (hsecond : type.methods.get? other = some second) :
    method.startByte + Utf8.size method.text.toList ≤ second.startByte ∨
      second.startByte + Utf8.size second.text.toList ≤ method.startByte := by
  obtain ⟨hspans, hpairwise⟩ := hcomplete.bodyMethodSpans_spec
  obtain ⟨hname, span, hspan, hmethodOf, hspanHolds⟩ :=
    hholds.exists_span hcovers hcomplete hmethod
  obtain ⟨hother, later, hlater, hsecondOf, hlaterHolds⟩ :=
    hholds.exists_span hcovers hcomplete hsecond
  rw [hspanHolds.start_add_size hcovers (hspans span hspan).1,
    hlaterHolds.start_add_size hcovers (hspans later hlater).1, hspanHolds.startByte_eq,
    hlaterHolds.startByte_eq]
  rcases eq_or_lt_of_pairwise hpairwise hspan hlater with rfl | hbefore | hbehind
  · -- Two methods at one span are the same, and have one name.
    obtain rfl := Except.ok.inj (hmethodOf.symm.trans hsecondOf)
    exact absurd (hname.symm.trans hother) hdifferent
  · exact Or.inl hbefore
  · exact Or.inr hbehind

theorem quotedType (hholds : head.Holds masked source.toList opening close type)
    (hcovers : Covers masked source.toList)
    (hcomplete : IsComplete (Utf8.encode masked) head opening close) : QuotedType source type := by
  have hopening := hcomplete.start_lt_opening
  have hclose := hcomplete.opening_lt_close
  have hbrace := hcovers.masks.getElem?_eq_some hcomplete.closeBrace_at (by decide)
  constructor
  case quotedText =>
    rw [hholds.startByte_eq, hholds.startLine_eq, hholds.endLine_eq]
    exact quotedText_of_extract (by omega) hholds.text_eq hbrace
  case keyword_isPrefix => exact hholds.keyword_isPrefix hcovers hcomplete
  case quoted_methods =>
    intro name method hmethod
    exact hholds.quotedMethod hcovers hcomplete hmethod
  case methods_disjoint =>
    intro name other method second hdifferent hmethod hsecond
    exact hholds.methods_disjoint hcovers hcomplete hdifferent hmethod hsecond

end Head.Holds

/-- Every type of an outline stands under its own name and is quoted from the source. -/
theorem quotedType_of_outline_eq_ok {source : String} {result : Outline}
    (houtline : outline source = .ok result) {name : String} {type : DeclaredType}
    (htype : result.types.get? name = some type) : type.name = name ∧ QuotedType source type := by
  obtain ⟨hname, head, opening, close, hcomplete, hholds⟩ :=
    exists_declaration_of_outline_eq_ok houtline htype
  exact ⟨hname, hholds.quotedType (covers_mask source) hcomplete⟩

theorem quotedType_behind_comment :
    QuotedType "// A\nclass A { m(){} n(){} }"
      ⟨"A", unnamedSource, .classType, "class A { m(){} n(){} }", 2, 2, 5, .ofList [
        ("m", ⟨"m", "A", "m(){}", 2, 2, 15⟩), ("n", ⟨"n", "A", "n(){}", 2, 2, 21⟩)]⟩ := by
  have houtline : outline "// A\nclass A { m(){} n(){} }" = .ok ⟨unnamedSource, .ofList [
      ("A", ⟨"A", unnamedSource, .classType, "class A { m(){} n(){} }", 2, 2, 5, .ofList [
        ("m", ⟨"m", "A", "m(){}", 2, 2, 15⟩), ("n", ⟨"n", "A", "n(){}", 2, 2, 21⟩)]⟩)], []⟩ := by
    decide +kernel
  have hget (type : DeclaredType) : (NameMap.ofList [("A", type)]).get? "A" = some type := rfl
  exact (quotedType_of_outline_eq_ok houtline (hget _)).2

end Java

end JavaDiff
