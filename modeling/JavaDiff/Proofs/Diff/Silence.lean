import JavaDiff.Proofs.Diff.Revision

/-!
# Comparisons without records

A comparison has no record when both outlines have the same types and no type of both is reported.
If it looks for every difference in methods and outside of them, such types consist of the same
parts: methods with the same texts, and the same text outside of them.  The places of the methods in
the text are not compared, so a type may have its methods in another order.  Its text has the same
characters nevertheless, and it is the same text when each method has kept its offset in the type.
-/

namespace JavaDiff

namespace DeclaredType

/-- Whether two types consist of the same methods and the same text outside of them. -/
structure SameParts (older newer : DeclaredType) : Prop where
  names_eq : older.methods.names = newer.methods.names
  text_eq : ∀ name first second, older.methods.get? name = some first →
    newer.methods.get? name = some second → first.text = second.text
  exists_skeleton : ∃ kept, older.skeleton = .ok kept ∧ newer.skeleton = .ok kept

/-- Whether each method of two types has the same offset in both. -/
def SameOffsets (older newer : DeclaredType) : Prop :=
  ∀ name first second, older.methods.get? name = some first →
    newer.methods.get? name = some second →
    first.startByte - older.startByte = second.startByte - newer.startByte

namespace SameParts

variable {older newer : DeclaredType}

/-- What is left of types that hold the same parts is the same text. -/
theorem exists_leaves (hparts : older.SameParts newer) (holder : older.HoldsMethods)
    (hnewer : newer.HoldsMethods) : ∃ kept : String,
      Leaves 0 older.pieces older.text.toList kept.toList ∧
        Leaves 0 newer.pieces newer.text.toList kept.toList := by
  obtain ⟨kept, hfirst, hsecond⟩ := hparts.exists_skeleton
  obtain ⟨_, hok, hleaves⟩ := holder.exists_skeleton
  obtain rfl := Except.ok.inj (hfirst.symm.trans hok)
  obtain ⟨_, hok, hothers⟩ := hnewer.exists_skeleton
  obtain rfl := Except.ok.inj (hsecond.symm.trans hok)
  exact ⟨kept, hleaves, hothers⟩

theorem perm (hparts : older.SameParts newer) (holder : older.HoldsMethods)
    (hnewer : newer.HoldsMethods) : older.text.toList.Perm newer.text.toList := by
  obtain ⟨kept, hleaves, hothers⟩ := hparts.exists_leaves holder hnewer
  have hmethods : older.methods.mapValues (·.text) = newer.methods.mapValues (·.text) :=
    NameMap.mapValues_eq_mapValues hparts.names_eq hparts.text_eq
  have htexts : older.methods.values.map Method.text = newer.methods.values.map Method.text := by
    rw [← NameMap.values_mapValues, hmethods, NameMap.values_mapValues]
  have hvalues (type : DeclaredType) :
      (type.methods.values.flatMap fun method => method.text.toList) =
        (type.methods.values.map Method.text).flatMap String.toList := by
    rw [List.flatMap_map]
  have hpieces : (older.pieces.flatMap Piece.text).Perm (newer.pieces.flatMap Piece.text) := by
    refine older.flatMap_pieces_perm.trans (.trans ?_ newer.flatMap_pieces_perm.symm)
    rw [hvalues, hvalues, htexts]
  calc List.Perm older.text.toList (kept.toList ++ older.pieces.flatMap Piece.text) := hleaves.perm
    List.Perm _ (kept.toList ++ newer.pieces.flatMap Piece.text) :=
      hpieces.append_left kept.toList
    List.Perm _ newer.text.toList := hothers.perm.symm

/-- Types that hold the same parts at the same offsets have the same text. -/
theorem text_eq_of_sameOffsets (hparts : older.SameParts newer) (holder : older.HoldsMethods)
    (hnewer : newer.HoldsMethods) (hoffsets : older.SameOffsets newer) :
    older.text = newer.text := by
  obtain ⟨kept, hleaves, hothers⟩ := hparts.exists_leaves holder hnewer
  have hmethods : older.methods.mapValues older.piece = newer.methods.mapValues newer.piece := by
    apply NameMap.mapValues_eq_mapValues hparts.names_eq
    intro name first second hfirst hsecond
    rw [piece, piece, hoffsets name first second hfirst hsecond,
      hparts.text_eq name first second hfirst hsecond]
  have hpieces : older.pieces = newer.pieces := by
    rw [pieces, pieces, ← NameMap.values_mapValues, hmethods, NameMap.values_mapValues]
  rw [hpieces] at hleaves
  exact String.toList_injective (hleaves.text_eq hothers)

end SameParts

end DeclaredType

/-- Types have the same methods with the same texts when every difference would be one. -/
theorem not_methodsDiffer_one_iff {base head : NameMap Method} :
    ¬ MethodsDiffer .one base head ↔ base.names = head.names ∧
      ∀ name older newer, base.get? name = some older → head.get? name = some newer →
        older.text = newer.text := by
  constructor
  · intro hsame
    refine ⟨names_eq_of_not_methodsDiffer hsame, fun name older newer holder hnewer => ?_⟩
    by_contra hdifferent
    exact hsame (Or.inr ⟨name, older, newer, holder, hnewer, hdifferent, Or.inl rfl⟩)
  · rintro ⟨hnames, htexts⟩ (⟨name, hname⟩ | ⟨name, older, newer, holder, hnewer, hrewritten⟩)
    · rw [hnames] at hname
      tauto
    · exact hrewritten.1 (htexts name older newer holder hnewer)

/-- When every difference counts, the types that are not reported are those with the same parts. -/
theorem not_isReported_iff_sameParts {settings : Settings} {older newer : DeclaredType}
    (hdetect : settings.detectMemberChanges = true) (hone : settings.effectiveThreshold = .one)
    (holder : older.HoldsMethods) (hnewer : newer.HoldsMethods) :
    ¬ IsReported settings older newer ↔ older.SameParts newer := by
  obtain ⟨first, hfirst, -⟩ := holder.exists_skeleton
  obtain ⟨second, hsecond, -⟩ := hnewer.exists_skeleton
  rw [IsReported, not_or, hone, not_methodsDiffer_one_iff, and_iff_right hdetect,
    skeletonsDiffer_iff hfirst hsecond, not_not]
  constructor
  · rintro ⟨⟨hnames, htexts⟩, rfl⟩
    exact ⟨hnames, htexts, first, hfirst, hsecond⟩
  · rintro ⟨hnames, htexts, kept, hkept, hother⟩
    obtain rfl := Except.ok.inj (hkept.symm.trans hfirst)
    exact ⟨⟨hnames, htexts⟩, Except.ok.inj (hother.symm.trans hsecond)⟩

theorem compareOutlines_eq_ok_nil_iff_not_isChangeOf {settings : Settings} {base head : Outline}
    (hskeletons : SkeletonsExist settings base head) :
    compareOutlines settings base head = .ok [] ↔
      ∀ name block, ¬ IsChangeOf settings base head name block := by
  obtain ⟨blocks, hok, -, hblocks⟩ := exists_blocks hskeletons
  rw [hok, Except.ok.injEq, List.flatMap_eq_nil_iff]
  constructor
  · intro hrecords name block hchange
    exact List.cons_ne_nil _ _ (hrecords block ((hblocks block).mpr ⟨name, hchange⟩))
  · intro hunchanged block hblock
    obtain ⟨name, hchange⟩ := (hblocks block).mp hblock
    exact absurd hchange (hunchanged name block)

/-- A comparison has no record when both outlines have the same types, none of which is reported. -/
theorem compareOutlines_eq_ok_nil_iff {settings : Settings} {base head : Outline}
    (hskeletons : SkeletonsExist settings base head) :
    compareOutlines settings base head = .ok [] ↔ base.types.names = head.types.names ∧
      ∀ name older newer, base.types.get? name = some older → head.types.get? name = some newer →
        ¬ IsReported settings older newer := by
  rw [compareOutlines_eq_ok_nil_iff_not_isChangeOf hskeletons]
  simp only [IsChangeOf.not_exists_iff]
  constructor
  · intro hunchanged
    refine ⟨NameMap.names_eq_of_mem_iff fun name => ?_, fun name older newer hbase hhead => ?_⟩
    · rw [NameMap.mem_names_iff, NameMap.mem_names_iff]
      rcases hunchanged name with ⟨hbase, hhead⟩ | ⟨older, newer, hbase, hhead, -⟩ <;>
        simp [hbase, hhead]
    · rcases hunchanged name with ⟨hnone, -⟩ | ⟨first, second, hfirst, hsecond, hunreported⟩
      · cases hnone.symm.trans hbase
      · obtain rfl := Option.some.inj (hfirst.symm.trans hbase)
        obtain rfl := Option.some.inj (hsecond.symm.trans hhead)
        exact hunreported
  · rintro ⟨hnames, hunreported⟩ name
    cases hbase : base.types.get? name with
    | none =>
      rw [NameMap.get?_eq_none_iff, hnames, ← NameMap.get?_eq_none_iff] at hbase
      exact Or.inl ⟨rfl, hbase⟩
    | some older =>
      obtain ⟨newer, hhead⟩ : ∃ newer, head.types.get? name = some newer := by
        rw [← NameMap.mem_names_iff, ← hnames, NameMap.mem_names_iff]
        exact ⟨older, hbase⟩
      exact Or.inr ⟨older, newer, rfl, hhead, hunreported name older newer hbase hhead⟩

/-- When every difference counts and there is no record, both revisions have the same types with the
same parts.  A type has the same characters in both, and the same text if its methods have kept their
offsets. -/
theorem sameParts_of_diff_eq_ok_nil {settings : Settings}
    (hdetect : settings.detectMemberChanges = true) (hone : settings.effectiveThreshold = .one)
    {base head : Revision} (hdiff : Language.java.diff settings base head = .ok []) :
    ∃ older newer, Language.java.outlineOf base = .ok older ∧
      Language.java.outlineOf head = .ok newer ∧ older.types.names = newer.types.names ∧
      ∀ name first second, older.types.get? name = some first →
        newer.types.get? name = some second →
        first.SameParts second ∧ first.text.toList.Perm second.text.toList ∧
          (first.SameOffsets second → first.text = second.text) := by
  obtain ⟨older, newer, holder, hnewer, hcompare⟩ :=
    Language.exists_outlineOf_of_diff_eq_ok hdiff
  have hskeletons := Language.skeletonsExist_of_java_outlineOf holder hnewer settings
  obtain ⟨hnames, hunreported⟩ := (compareOutlines_eq_ok_nil_iff hskeletons).mp hcompare
  refine ⟨older, newer, holder, hnewer, hnames, fun name first second hfirst hsecond => ?_⟩
  have hholds := Language.holdsMethods_of_java_outlineOf holder hfirst
  have hothers := Language.holdsMethods_of_java_outlineOf hnewer hsecond
  have hparts := (not_isReported_iff_sameParts hdetect hone hholds hothers).mp
    (hunreported name first second hfirst hsecond)
  exact ⟨hparts, hparts.perm hholds hothers, hparts.text_eq_of_sameOffsets hholds hothers⟩

/-- A revision whose type has two methods. -/
def twoMethods (first second : String) : Revision :=
  ⟨"A.java", "class A \x7b " ++ first ++ "(){} " ++ second ++ "(){} \x7d"⟩

/-- The type with two methods. -/
def twoMethodsType (first second : String) : DeclaredType where
  name := "A"
  filename := "A.java"
  kind := .classType
  text := (twoMethods first second).source
  startLine := 1
  endLine := 1
  startByte := 0
  methods := .ofList [
    (first, ⟨first, "A", first ++ "(){}", 1, 1, 10⟩),
    (second, ⟨second, "A", second ++ "(){}", 1, 1, 16⟩)]

/-- The outline of the type with two methods. -/
def twoMethodsOutline (first second : String) : Outline :=
  ⟨"A.java", .ofList [("A", twoMethodsType first second)], []⟩

theorem outlineOf_twoMethods :
    Language.java.outlineOf (twoMethods "m" "n") = .ok (twoMethodsOutline "m" "n") ∧
      Language.java.outlineOf (twoMethods "n" "m") = .ok (twoMethodsOutline "n" "m") := by
  decide +kernel

theorem skeleton_of_methodSpans {type : DeclaredType}
    (hspans : type.methodSpans = [⟨10, 15⟩, ⟨16, 21⟩] ∨ type.methodSpans = [⟨16, 21⟩, ⟨10, 15⟩])
    (hsize : Utf8.size type.text.toList = 23)
    (hkept : DeclaredType.removeSpans? type.text.toList 0 [⟨10, 15⟩, ⟨16, 21⟩] =
      some "class A {   }".toList) : type.skeleton = .ok "class A {   }" := by
  -- The order of sorted spans does not compute by itself, so it is worked out in both cases.
  rcases hspans with hspans | hspans <;>
    simp [DeclaredType.skeleton, hspans, hsize, hkept, List.mergeSort, Span.before, Span.wrapsInto]

theorem sameParts_twoMethodsType :
    (twoMethodsType "m" "n").SameParts (twoMethodsType "n" "m") where
  names_eq := by decide +kernel
  text_eq name first second hfirst hsecond := by
    have hsame : (twoMethodsType "m" "n").methods.mapValues Method.text =
        (twoMethodsType "n" "m").methods.mapValues Method.text := by
      decide +kernel
    have htext := congrArg (NameMap.get? · name) hsame
    simpa [hfirst, hsecond] using htext
  exists_skeleton := ⟨"class A {   }",
    skeleton_of_methodSpans (by decide +kernel) (by decide +kernel) (by decide +kernel),
    skeleton_of_methodSpans (by decide +kernel) (by decide +kernel) (by decide +kernel)⟩

theorem diff_twoMethods_swap :
    Language.java.diff ⟨.one, true, false⟩ (twoMethods "m" "n") (twoMethods "n" "m") = .ok [] := by
  obtain ⟨holder, hnewer⟩ := outlineOf_twoMethods
  have hskeletons := Language.skeletonsExist_of_java_outlineOf holder hnewer ⟨.one, true, false⟩
  rw [Language.diff_eq_compareOutlines holder hnewer, compareOutlines_eq_ok_nil_iff hskeletons]
  refine ⟨by decide +kernel, fun name older newer hbase hhead => ?_⟩
  have hholds := Language.holdsMethods_of_java_outlineOf holder hbase
  have hothers := Language.holdsMethods_of_java_outlineOf hnewer hhead
  rw [not_isReported_iff_sameParts rfl rfl hholds hothers]
  rw [NameMap.get?_eq_some_iff] at hbase hhead
  obtain ⟨-, rfl⟩ := Prod.mk.inj (List.mem_singleton.mp hbase)
  obtain ⟨-, rfl⟩ := Prod.mk.inj (List.mem_singleton.mp hhead)
  exact sameParts_twoMethodsType

theorem sameParts_of_diff_twoMethods_swap :
    Language.java.diff ⟨.one, true, false⟩ (twoMethods "m" "n") (twoMethods "n" "m") = .ok [] ∧
    ∃ older newer, Language.java.outlineOf (twoMethods "m" "n") = .ok older ∧
      Language.java.outlineOf (twoMethods "n" "m") = .ok newer ∧
      older.types.names = newer.types.names ∧
      ∀ name first second, older.types.get? name = some first →
        newer.types.get? name = some second →
        first.SameParts second ∧ first.text.toList.Perm second.text.toList ∧
          (first.SameOffsets second → first.text = second.text) :=
  ⟨diff_twoMethods_swap, sameParts_of_diff_eq_ok_nil rfl rfl diff_twoMethods_swap⟩

/-- A comparison without records does not mean that the texts of the types are the same. -/
theorem not_text_eq_of_diff_eq_ok_nil :
    ¬ ∀ (settings : Settings) (base head : Revision) (older newer : Outline),
      settings.detectMemberChanges = true → settings.effectiveThreshold = .one →
      Language.java.outlineOf base = .ok older → Language.java.outlineOf head = .ok newer →
      Language.java.diff settings base head = .ok [] →
      older.types.names = newer.types.names ∧
        ∀ name first second, older.types.get? name = some first →
          newer.types.get? name = some second → first.text = second.text := by
  intro htexts
  obtain ⟨-, htexts⟩ := htexts ⟨.one, true, false⟩ _ _ _ _ rfl rfl outlineOf_twoMethods.1
    outlineOf_twoMethods.2 diff_twoMethods_swap
  exact absurd (htexts "A" _ _ rfl rfl) (by decide)

end JavaDiff
