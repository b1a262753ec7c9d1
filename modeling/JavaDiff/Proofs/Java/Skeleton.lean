import JavaDiff.Language
import JavaDiff.Proofs.Java.Verbatim
import JavaDiff.Proofs.Outline.Skeleton

/-!
# The skeletons of outlined types

The methods of a type that comes from a source stand in its text at their offsets, and no two of
them overlap.  So every type of an outline has a skeleton, which is its text without its methods.
-/

namespace JavaDiff

namespace Java

variable {source : String} {masked : List Char}

theorem Head.Holds.exists_append {head : Head} {opening close : Nat} {type : DeclaredType}
    (hholds : head.Holds masked source.toList opening close type)
    (hcovers : Covers masked source.toList)
    (hcomplete : IsComplete (Utf8.encode masked) head opening close) :
    ∃ before after, source.toList = before ++ type.text.toList ++ after ∧
      Utf8.size before = type.startByte := by
  have hopening := hcomplete.start_lt_opening
  have hclose := hcomplete.opening_lt_close
  have hstop := isBoundary_succ hcovers hcomplete.closeBrace_at (by decide) (by decide)
  rw [hholds.startByte_eq]
  exact Utf8.exists_append_of_encode_eq_extract (hcomplete.isBoundary_start hcovers) hstop
    (by omega) hholds.text_eq

theorem MethodSpan.Holds.exists_append {span : MethodSpan} {owner : String} {method : Method}
    (hholds : span.Holds masked source.toList owner method) (hcovers : Covers masked source.toList)
    (hspan : span.IsMethod (Utf8.encode masked)) :
    ∃ before after, source.toList = before ++ method.text.toList ++ after ∧
      Utf8.size before = method.startByte := by
  have hname := hspan.start_lt_nameStop
  have hparen := hspan.nameStop_le_paren
  have hclose := hspan.paren_lt_close
  rw [hholds.startByte_eq]
  exact Utf8.exists_append_of_encode_eq_extract (hspan.isBoundary_start hcovers)
    (hspan.isBoundary_stop hcovers) (by omega) hholds.text_eq

theorem Head.Holds.holdsMethods {head : Head} {opening close : Nat} {type : DeclaredType}
    (hholds : head.Holds masked source.toList opening close type)
    (hcovers : Covers masked source.toList)
    (hcomplete : IsComplete (Utf8.encode masked) head opening close) : type.HoldsMethods where
  exists_append name method hmethod := by
    have hquoted := (hholds.quotedMethod hcovers hcomplete hmethod).2
    have hstart := hquoted.start_lt
    have hstop := hquoted.stop_lt
    obtain ⟨-, span, hspan, -, hspanHolds⟩ := hholds.exists_span hcovers hcomplete hmethod
    have hisMethod := (hcomplete.bodyMethodSpans_spec.1 span hspan).1
    obtain ⟨before, after, hsource, hbefore⟩ := hholds.exists_append hcovers hcomplete
    obtain ⟨front, back, hmethodSource, hfront⟩ := hspanHolds.exists_append hcovers hisMethod
    -- The text of the type starts in front of the method and ends behind it.
    rw [hsource, List.append_assoc, List.append_assoc] at hmethodSource
    obtain ⟨left, rfl, hrest⟩ := Utf8.exists_append_of_size_le hmethodSource (by omega)
    rw [Utf8.size_append] at hfront
    rw [← List.append_assoc] at hrest
    obtain ⟨right, htext, -⟩ := Utf8.exists_append_of_size_le hrest.symm
      (by rw [Utf8.size_append]; omega)
    exact ⟨left, right, htext, by omega⟩
  size_pos name method hmethod := by
    obtain ⟨-, span, hspan, -, hspanHolds⟩ := hholds.exists_span hcovers hcomplete hmethod
    have hisMethod := (hcomplete.bodyMethodSpans_spec.1 span hspan).1
    have hsize := hspanHolds.start_add_size hcovers hisMethod
    have hstart := hspanHolds.startByte_eq
    have hname := hisMethod.start_lt_nameStop
    have hparen := hisMethod.nameStop_le_paren
    have hclose := hisMethod.paren_lt_close
    omega
  disjoint name other method second hdifferent hmethod hsecond :=
    hholds.methods_disjoint hcovers hcomplete hdifferent hmethod hsecond

theorem holdsMethods_of_outline_eq_ok {result : Outline} (houtline : outline source = .ok result)
    {name : String} {type : DeclaredType} (htype : result.types.get? name = some type) :
    type.HoldsMethods := by
  have hcovers := covers_mask source
  obtain ⟨-, head, opening, close, hcomplete, hholds⟩ :=
    exists_declaration_of_outline_eq_ok houtline htype
  exact hholds.holdsMethods hcovers hcomplete

/-- The outlines of a source: the one without a filename, and those with one. -/
inductive IsOutline (source : String) : Outline → Prop
  | unnamed {result : Outline} (houtline : outline source = .ok result) : IsOutline source result
  | named {result : Outline} (houtline : outline source = .ok result) (filename : String) :
      IsOutline source (result.withFilename filename)

/-- The types of an outline hold their methods. -/
theorem IsOutline.holdsMethods {result : Outline} (houtline : IsOutline source result)
    {name : String} {type : DeclaredType} (htype : result.types.get? name = some type) :
    type.HoldsMethods := by
  cases houtline with
  | unnamed hok => exact holdsMethods_of_outline_eq_ok hok htype
  | named hok filename =>
    rw [Outline.withFilename, NameMap.get?_mapValues] at htype
    obtain ⟨declared, hdeclared, rfl⟩ := Option.map_eq_some_iff.mp htype
    -- A filename changes neither the text of a type nor its methods.
    have hholds := holdsMethods_of_outline_eq_ok hok hdeclared
    exact ⟨hholds.exists_append, hholds.size_pos, hholds.disjoint⟩

end Java

namespace Language

theorem isOutline_of_java_outlineOf {revision : Revision} {result : Outline}
    (houtline : java.outlineOf revision = .ok result) : Java.IsOutline revision.source result := by
  unfold outlineOf at houtline
  split at houtline
  · rename_i outlined hok
    obtain rfl := Except.ok.inj houtline
    exact .named hok revision.filename
  · cases houtline

theorem holdsMethods_of_java_outlineOf {revision : Revision} {result : Outline}
    (houtline : java.outlineOf revision = .ok result) {name : String} {type : DeclaredType}
    (htype : result.types.get? name = some type) : type.HoldsMethods :=
  (isOutline_of_java_outlineOf houtline).holdsMethods htype

end Language

end JavaDiff
