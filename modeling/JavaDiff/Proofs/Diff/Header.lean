import JavaDiff.Proofs.Diff.Silence
import JavaDiff.Proofs.Java.Header

/-!
# Comparisons across a new header

Where a type stands in its source does not count in a comparison: methods are compared by their
texts, and the places that a skeleton depends on are relative to the type.  So a source and the same
source behind a header of comments compare without records, whatever the settings are.
-/

namespace JavaDiff

open Java

theorem DeclaredType.skeleton_shift (distance : Distance) (type : DeclaredType) :
    (type.shift distance).skeleton = type.skeleton := by
  have hspans : (type.shift distance).methodSpans = type.methodSpans := by
    unfold methodSpans shift
    rw [NameMap.values_mapValues, List.filterMap_map]
    refine congrArg (List.filterMap · type.methods.values) (funext fun method => ?_)
    simp only [Function.comp_apply, Method.shift, Nat.add_le_add_iff_left, Nat.add_sub_add_left]
  unfold skeleton
  rw [hspans]
  rfl

theorem not_isReported_shift (settings : Settings) (distance : Distance) (type : DeclaredType)
    (older newer : String) :
    ¬ IsReported settings { type with filename := older }
      { type.shift distance with filename := newer } := by
  rintro ((⟨name, hname⟩ | ⟨name, first, second, hfirst, hsecond, hrewritten⟩) | ⟨-, hskeletons⟩)
  · simp only [DeclaredType.shift, NameMap.names_mapValues] at hname
    tauto
  · simp only [DeclaredType.shift, NameMap.get?_mapValues] at hfirst hsecond
    rw [hfirst] at hsecond
    obtain rfl := Option.some.inj hsecond
    exact hrewritten.1 rfl
  · obtain ⟨base, head, hbase, hhead, hdifferent⟩ := hskeletons
    have hsame := type.skeleton_shift distance
    exact hdifferent (Except.ok.inj (hbase.symm.trans (hsame.symm.trans hhead)))

theorem Java.IsShift.compareOutlines_eq_ok_nil {distance : Distance} {last : Nat}
    {outline shifted : Outline} (hshift : IsShift distance last outline shifted)
    {settings : Settings} {older newer : String}
    (hskeletons : SkeletonsExist settings (outline.withFilename older)
      (shifted.withFilename newer)) :
    compareOutlines settings (outline.withFilename older) (shifted.withFilename newer) =
      .ok [] := by
  rw [compareOutlines_eq_ok_nil_iff hskeletons]
  simp only [Outline.withFilename, hshift.types_eq, NameMap.names_mapValues, NameMap.get?_mapValues]
  refine ⟨trivial, fun name first second hfirst hsecond => ?_⟩
  obtain ⟨type, htype, rfl⟩ := Option.map_eq_some_iff.mp hfirst
  rw [htype] at hsecond
  obtain rfl := Option.some.inj hsecond
  exact not_isReported_shift settings distance type older newer

/-- A header of comments moves the outline of the source behind it and changes nothing else, and the
comparison of the source with and without it has no record. -/
theorem header_only_shifts {header source : String} (hheader : EndsLine header)
    (hfront : ShowsNothing (mask header).toList)
    (hblank : source.toList.all Blank.isBlank = false) :
    (∃ line detail, outline source = .error (.inSource line detail) ∧
      outline (header ++ source) =
        .error (.inSource (line.map (Distance.ofText header.toList).moveLine) detail) ∧
      ∀ number ∈ line,
        (Distance.ofText header.toList).AddsTo (source.toList.count '\n' + 1) number) ∨
    ∃ result shifted, outline source = .ok result ∧ outline (header ++ source) = .ok shifted ∧
      IsShift (.ofText header.toList) (source.toList.count '\n' + 1) result shifted ∧
      ∀ settings older newer,
        Language.java.diff settings ⟨older, source⟩ ⟨newer, header ++ source⟩ = .ok [] := by
  rcases hheader.outline_shift hfront hblank with herror | ⟨result, shifted, hok, hmoved, hshift⟩
  · exact Or.inl herror
  · refine Or.inr ⟨result, shifted, hok, hmoved, hshift, fun settings older newer => ?_⟩
    have hbase : Language.java.outlineOf ⟨older, source⟩ = .ok (result.withFilename older) := by
      simp only [Language.outlineOf, Language.java, hok]
    have hhead : Language.java.outlineOf ⟨newer, header ++ source⟩ =
        .ok (shifted.withFilename newer) := by
      simp only [Language.outlineOf, Language.java, hmoved]
    rw [Language.diff_eq_compareOutlines hbase hhead]
    exact hshift.compareOutlines_eq_ok_nil
      (Language.skeletonsExist_of_java_outlineOf hbase hhead settings)

theorem header_only_shifts_repeated_name :
    ∃ result shifted,
      outline "class A \x7b m()\x7b\x7d \x7d\nclass A \x7b\x7d" = .ok result ∧
      outline ("/* one\n\"two */ // 'three\n" ++
        "class A \x7b m()\x7b\x7d \x7d\nclass A \x7b\x7d") = .ok shifted ∧
      IsShift ⟨25, 2⟩ 2 result shifted ∧
      ∀ settings older newer,
        Language.java.diff settings ⟨older, "class A \x7b m()\x7b\x7d \x7d\nclass A \x7b\x7d"⟩
          ⟨newer, "/* one\n\"two */ // 'three\n" ++
            "class A \x7b m()\x7b\x7d \x7d\nclass A \x7b\x7d"⟩ = .ok [] := by
  have hheader : EndsLine "/* one\n\"two */ // 'three\n" := ⟨by decide +kernel, by decide +kernel⟩
  have hfront : ShowsNothing (mask "/* one\n\"two */ // 'three\n").toList := by
    have hall : (mask "/* one\n\"two */ // 'three\n").toList.all
        (fun character => character == ' ' || character == '\n') = true := by
      decide +kernel
    intro character hcharacter
    simpa using List.all_eq_true.mp hall character hcharacter
  have hblank : "class A \x7b m()\x7b\x7d \x7d\nclass A \x7b\x7d".toList.all Blank.isBlank =
      false := by
    decide +kernel
  have hdistance : Distance.ofText "/* one\n\"two */ // 'three\n".toList = ⟨25, 2⟩ := by
    decide +kernel
  have hlast : "class A \x7b m()\x7b\x7d \x7d\nclass A \x7b\x7d".toList.count '\n' + 1 = 2 := by
    decide +kernel
  have hok : (outline "class A \x7b m()\x7b\x7d \x7d\nclass A \x7b\x7d").isOk = true := by
    decide +kernel
  rcases header_only_shifts hheader hfront hblank with ⟨line, detail, herror, -⟩ | hshift
  · rw [herror] at hok
    cases hok
  · rwa [hdistance, hlast] at hshift

end JavaDiff
