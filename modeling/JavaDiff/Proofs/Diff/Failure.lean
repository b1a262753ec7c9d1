import JavaDiff.Proofs.Diff.Record
import JavaDiff.Proofs.Diff.Revision
import JavaDiff.Proofs.Java.Bounds

/-!
# When a comparison fails

A comparison of revisions fails when neither file is one of a known language, or when a source
cannot be outlined.  The error names the older file in the first case.  In the second it is that of
the outline, with the file and the side of the source; if both sources fail, it is that of the older
one.  A blank source does not fail, and all types of the other side are added or removed.
-/

namespace JavaDiff

/-- Whether the extension of a file is that of Java sources, in small letters or capitals. -/
def IsJavaFile (filename : String) : Prop :=
  ∃ extension, FileName.extension? filename = some extension ∧ lowercase extension = "java"

namespace Language

theorem ofFilename_of_isJavaFile {filename : String} (hjava : IsJavaFile filename) :
    ofFilename filename = .ok java := by
  obtain ⟨extension, hextension, hlower⟩ := hjava
  simp [ofFilename, hextension, hlower, all, java]

theorem ofFilename_of_not_isJavaFile {filename : String} (hother : ¬ IsJavaFile filename) :
    ofFilename filename = .error (.unsupportedLanguage filename) := by
  cases hextension : FileName.extension? filename with
  | none => simp [ofFilename, hextension]
  | some extension =>
    have hlower : lowercase extension ≠ "java" := fun hlower =>
      hother ⟨extension, hextension, hlower⟩
    simp [ofFilename, hextension, hlower, all, java]

theorem ofPair_of_isJavaFile {base head : Revision}
    (hjava : IsJavaFile base.filename ∨ IsJavaFile head.filename) :
    ofPair base head = .ok java := by
  rw [ofPair]
  by_cases hhead : IsJavaFile head.filename
  · rw [ofFilename_of_isJavaFile hhead]
  · rw [ofFilename_of_not_isJavaFile hhead]
    exact ofFilename_of_isJavaFile (hjava.resolve_right hhead)

theorem ofPair_of_not_isJavaFile {base head : Revision}
    (hother : ¬ (IsJavaFile base.filename ∨ IsJavaFile head.filename)) :
    ofPair base head = .error (.unsupportedLanguage base.filename) := by
  obtain ⟨hbase, hhead⟩ := not_or.mp hother
  rw [ofPair, ofFilename_of_not_isJavaFile hhead]
  exact ofFilename_of_not_isJavaFile hbase

theorem java_outlineOf_eq_ok {revision : Revision} {outline : Outline}
    (houtline : Java.outline revision.source = .ok outline) :
    java.outlineOf revision = .ok (outline.withFilename revision.filename) := by
  simp only [outlineOf, java, houtline]

theorem java_outlineOf_eq_error {revision : Revision} {line : Option UInt32} {detail : String}
    (houtline : Java.outline revision.source = .error (.inSource line detail)) :
    java.outlineOf revision = .error (.parse revision.filename none line detail) := by
  simp only [outlineOf, java, houtline]
  rfl

/-- Of a pair of Java revisions the older one fails, or only the newer one, or both have an
outline. -/
theorem outlinePair_java (base head : Revision) :
    (∃ line detail, Java.outline base.source = .error (.inSource line detail) ∧
      java.outlinePair base head = .error (.parse base.filename (some .base) line detail)) ∨
    (∃ older line detail, Java.outline base.source = .ok older ∧
      Java.outline head.source = .error (.inSource line detail) ∧
      java.outlinePair base head = .error (.parse head.filename (some .head) line detail)) ∨
    ∃ older newer, Java.outline base.source = .ok older ∧ Java.outline head.source = .ok newer ∧
      java.outlinePair base head =
        .ok (older.withFilename base.filename, newer.withFilename head.filename) := by
  rw [outlinePair]
  rcases Java.outline_eq_ok_or_inSource base.source with ⟨older, holder⟩ | ⟨line, detail, hbase⟩
  · rw [java_outlineOf_eq_ok holder]
    rcases Java.outline_eq_ok_or_inSource head.source with ⟨newer, hnewer⟩ | ⟨line, detail, hhead⟩
    · rw [java_outlineOf_eq_ok hnewer]
      exact Or.inr (Or.inr ⟨older, newer, holder, hnewer, rfl⟩)
    · rw [java_outlineOf_eq_error hhead]
      exact Or.inr (Or.inl ⟨older, line, detail, holder, hhead, rfl⟩)
  · rw [java_outlineOf_eq_error hbase]
    exact Or.inl ⟨line, detail, hbase, rfl⟩

end Language

/-- The types of some records with what happened to them. -/
def typeChanges (records : List Record) : List (String × Change) :=
  (records.filterMap Record.type?).map fun type => (type.name, type.change)

/-- When the types of one outline all have the same change and no other type has one, the records
report these types in order. -/
theorem typeChanges_eq {settings : Settings} {base head : Outline} {records : List Record}
    (hskeletons : SkeletonsExist settings base head)
    (hrecords : compareOutlines settings base head = .ok records)
    {types : NameMap DeclaredType} {kind : Change}
    (hkind : ∀ name change, IsChangeOf settings base head name change → change.change = kind)
    (hnames : ∀ name, (∃ change, IsChangeOf settings base head name change) ↔
      name ∈ types.names) :
    typeChanges records = types.names.map fun name => (name, kind) := by
  obtain ⟨blocks, hok, hascending, hblocks⟩ := exists_blocks hskeletons
  obtain rfl := Except.ok.inj (hok.symm.trans hrecords)
  have hchanges : ∀ block ∈ blocks, IsChangeOf settings base head block.name block :=
    fun _ => isChangeOf_of_mem hblocks
  have hsame : blocks.map TypeChange.name = types.names := by
    apply eq_of_ascending BytesLess
    · exact fun first second hless hmore => List.lt_asymm hless hmore
    · exact hascending
    · exact types.pairwise_names.imp bytesLess_of_lt
    · intro name
      rw [← hnames, List.mem_map]
      constructor
      · rintro ⟨block, hblock, rfl⟩
        exact ⟨block, hchanges block hblock⟩
      · rintro ⟨block, hchange⟩
        exact ⟨block, (hblocks block).mpr ⟨name, hchange⟩, hchange.name_eq⟩
  rw [typeChanges, filterMap_type?_flatMap_records, ← hsame, List.map_map]
  apply List.map_congr_left
  intro block hblock
  rw [hkind block.name block (hchanges block hblock), Function.comp_apply]

section OneSided

variable {settings : Settings} {base head : Outline} {records : List Record}

theorem typeChanges_eq_added (hrecords : compareOutlines settings base head = .ok records)
    (hbase : ∀ name, base.types.get? name = none) :
    typeChanges records = head.types.names.map fun name => (name, .added) := by
  refine typeChanges_eq ?_ hrecords ?_ ?_
  · intro name older newer hsome
    exact nomatch (hbase name).symm.trans hsome
  · intro name change hchange
    cases hchange with
    | added => rfl
    | removed hsome => exact nomatch (hbase name).symm.trans hsome
    | modified hsome => exact nomatch (hbase name).symm.trans hsome
  · intro name
    rw [NameMap.mem_names_iff]
    constructor
    · rintro ⟨change, hchange⟩
      rcases hchange.mem_names with hmem | hmem
      · exact absurd hmem (NameMap.get?_eq_none_iff.mp (hbase name))
      · exact NameMap.mem_names_iff.mp hmem
    · rintro ⟨type, htype⟩
      exact ⟨_, .added (hbase name) htype⟩

theorem typeChanges_eq_removed (hrecords : compareOutlines settings base head = .ok records)
    (hhead : ∀ name, head.types.get? name = none) :
    typeChanges records = base.types.names.map fun name => (name, .removed) := by
  refine typeChanges_eq ?_ hrecords ?_ ?_
  · intro name older newer _ hsome
    exact nomatch (hhead name).symm.trans hsome
  · intro name change hchange
    cases hchange with
    | added _ hsome => exact nomatch (hhead name).symm.trans hsome
    | removed => rfl
    | modified _ hsome => exact nomatch (hhead name).symm.trans hsome
  · intro name
    rw [NameMap.mem_names_iff]
    constructor
    · rintro ⟨change, hchange⟩
      rcases hchange.mem_names with hmem | hmem
      · exact NameMap.mem_names_iff.mp hmem
      · exact absurd hmem (NameMap.get?_eq_none_iff.mp (hhead name))
    · rintro ⟨type, htype⟩
      exact ⟨_, .removed htype (hhead name)⟩

end OneSided

theorem Java.outline_of_blank {source : String} (hblank : source.toList.all Blank.isBlank = true) :
    outline source = .ok (.empty unnamedSource) := by
  rw [outline, if_pos hblank]

/-- How the comparison of two revisions ends, given the records in its result. -/
structure IsAttributed {α : Type} (base head : Revision) (recordsOf : α → List Record)
    (outcome : Except Error α) : Prop where
  unsupported_iff : outcome = .error (.unsupportedLanguage base.filename) ↔
    ¬ (IsJavaFile base.filename ∨ IsJavaFile head.filename)
  fails_iff : IsJavaFile base.filename ∨ IsJavaFile head.filename →
    ((∃ error, outcome = .error error) ↔
      (∃ error, Java.outline base.source = .error error) ∨
        ∃ error, Java.outline head.source = .error error)
  base_error : IsJavaFile base.filename ∨ IsJavaFile head.filename →
    ∀ error, Java.outline base.source = .error error →
      ∃ line detail, error = .parse unnamedSource none line detail ∧
        outcome = .error (.parse base.filename (some .base) line detail)
  head_error : IsJavaFile base.filename ∨ IsJavaFile head.filename →
    ∀ older error, Java.outline base.source = .ok older →
      Java.outline head.source = .error error →
        ∃ line detail, error = .parse unnamedSource none line detail ∧
          outcome = .error (.parse head.filename (some .head) line detail)
  blank_base : IsJavaFile base.filename ∨ IsJavaFile head.filename →
    base.source.toList.all Blank.isBlank = true →
      (∃ older, Java.outline base.source = .ok older) ∧
      ∀ newer, Java.outline head.source = .ok newer → ∃ result, outcome = .ok result ∧
        typeChanges (recordsOf result) = newer.types.names.map fun name => (name, .added)
  blank_head : IsJavaFile base.filename ∨ IsJavaFile head.filename →
    head.source.toList.all Blank.isBlank = true →
      (∃ newer, Java.outline head.source = .ok newer) ∧
      ∀ older, Java.outline base.source = .ok older → ∃ result, outcome = .ok result ∧
        typeChanges (recordsOf result) = older.types.names.map fun name => (name, .removed)

/-- The end of a comparison that looks for a language, outlines both revisions and compares the
outlines, and passes on every error. -/
structure IsComparison {α : Type} (settings : Settings) (base head : Revision)
    (recordsOf : α → List Record) (outcome : Except Error α) : Prop where
  of_language_error : ∀ error, Language.ofPair base head = .error error → outcome = .error error
  of_outline_error : ∀ language error, Language.ofPair base head = .ok language →
    language.outlinePair base head = .error error → outcome = .error error
  of_records : ∀ language older newer records, Language.ofPair base head = .ok language →
    language.outlinePair base head = .ok (older, newer) →
    compareOutlines settings older newer = .ok records →
      ∃ result, outcome = .ok result ∧ recordsOf result = records

namespace IsComparison

variable {α : Type} {settings : Settings} {base head : Revision} {recordsOf : α → List Record}
  {outcome : Except Error α}

/-- With a language the comparison fails on the older side, or on the newer side only, or
succeeds. -/
theorem outcome_cases (hcomparison : IsComparison settings base head recordsOf outcome)
    (hjava : IsJavaFile base.filename ∨ IsJavaFile head.filename) :
    (∃ line detail, Java.outline base.source = .error (.inSource line detail) ∧
      outcome = .error (.parse base.filename (some .base) line detail)) ∨
    (∃ older line detail, Java.outline base.source = .ok older ∧
      Java.outline head.source = .error (.inSource line detail) ∧
      outcome = .error (.parse head.filename (some .head) line detail)) ∨
    ∃ older newer result, Java.outline base.source = .ok older ∧
      Java.outline head.source = .ok newer ∧ outcome = .ok result ∧
      compareOutlines settings (older.withFilename base.filename)
        (newer.withFilename head.filename) = .ok (recordsOf result) := by
  have hlanguage := Language.ofPair_of_isJavaFile hjava
  rcases Language.outlinePair_java base head with ⟨line, detail, hbase, hpair⟩ |
    ⟨older, line, detail, hbase, hhead, hpair⟩ | ⟨older, newer, hbase, hhead, hpair⟩
  · have houtcome := hcomparison.of_outline_error _ _ hlanguage hpair
    exact Or.inl ⟨line, detail, hbase, houtcome⟩
  · have houtcome := hcomparison.of_outline_error _ _ hlanguage hpair
    exact Or.inr (Or.inl ⟨older, line, detail, hbase, hhead, houtcome⟩)
  · obtain ⟨blocks, hrecords, -⟩ := exists_blocks (Language.skeletonsExist_of_java_outlineOf
      (Language.java_outlineOf_eq_ok hbase) (Language.java_outlineOf_eq_ok hhead) settings)
    obtain ⟨result, houtcome, hresult⟩ := hcomparison.of_records _ _ _ _ hlanguage hpair hrecords
    rw [← hresult] at hrecords
    exact Or.inr (Or.inr ⟨older, newer, result, hbase, hhead, houtcome, hrecords⟩)

theorem exists_result (hcomparison : IsComparison settings base head recordsOf outcome)
    (hjava : IsJavaFile base.filename ∨ IsJavaFile head.filename) {older newer : Outline}
    (holder : Java.outline base.source = .ok older)
    (hnewer : Java.outline head.source = .ok newer) :
    ∃ result, outcome = .ok result ∧
      compareOutlines settings (older.withFilename base.filename)
        (newer.withFilename head.filename) = .ok (recordsOf result) := by
  rcases hcomparison.outcome_cases hjava with ⟨line, detail, hbase, -⟩ |
    ⟨_, line, detail, -, hhead, -⟩ | ⟨_, _, result, hbase, hhead, houtcome, hcompared⟩
  · cases hbase.symm.trans holder
  · cases hhead.symm.trans hnewer
  · obtain rfl := Except.ok.inj (hbase.symm.trans holder)
    obtain rfl := Except.ok.inj (hhead.symm.trans hnewer)
    exact ⟨result, houtcome, hcompared⟩

theorem isAttributed (hcomparison : IsComparison settings base head recordsOf outcome) :
    IsAttributed base head recordsOf outcome := by
  constructor
  case unsupported_iff =>
    constructor
    · intro hunsupported hjava
      rcases hcomparison.outcome_cases hjava with ⟨line, detail, -, houtcome⟩ |
        ⟨older, line, detail, -, -, houtcome⟩ | ⟨older, newer, result, -, -, houtcome, -⟩
      · cases houtcome.symm.trans hunsupported
      · cases houtcome.symm.trans hunsupported
      · cases houtcome.symm.trans hunsupported
    · exact fun hother =>
        hcomparison.of_language_error _ (Language.ofPair_of_not_isJavaFile hother)
  case fails_iff =>
    intro hjava
    rcases hcomparison.outcome_cases hjava with ⟨line, detail, hbase, houtcome⟩ |
      ⟨older, line, detail, -, hhead, houtcome⟩ | ⟨older, newer, result, hbase, hhead, houtcome, -⟩
    · exact iff_of_true ⟨_, houtcome⟩ (Or.inl ⟨_, hbase⟩)
    · exact iff_of_true ⟨_, houtcome⟩ (Or.inr ⟨_, hhead⟩)
    · simp [hbase, hhead, houtcome]
  case base_error =>
    intro hjava error hfailed
    rcases hcomparison.outcome_cases hjava with ⟨line, detail, hbase, houtcome⟩ |
      ⟨older, line, detail, hbase, -⟩ | ⟨older, newer, result, hbase, -⟩
    · exact ⟨line, detail, Except.error.inj (hfailed.symm.trans hbase), houtcome⟩
    · cases hbase.symm.trans hfailed
    · cases hbase.symm.trans hfailed
  case head_error =>
    intro hjava older error holder hfailed
    rcases hcomparison.outcome_cases hjava with ⟨line, detail, hbase, -⟩ |
      ⟨-, line, detail, -, hhead, houtcome⟩ | ⟨-, newer, result, -, hhead, -⟩
    · cases hbase.symm.trans holder
    · exact ⟨line, detail, Except.error.inj (hfailed.symm.trans hhead), houtcome⟩
    · cases hhead.symm.trans hfailed
  case blank_base =>
    intro hjava hblank
    have hempty := Java.outline_of_blank hblank
    refine ⟨⟨_, hempty⟩, fun newer hnewer => ?_⟩
    obtain ⟨result, houtcome, hcompared⟩ := hcomparison.exists_result hjava hempty hnewer
    refine ⟨result, houtcome, (typeChanges_eq_added hcompared fun name => rfl).trans ?_⟩
    rw [Outline.withFilename, NameMap.names_mapValues]
  case blank_head =>
    intro hjava hblank
    have hempty := Java.outline_of_blank hblank
    refine ⟨⟨_, hempty⟩, fun older holder => ?_⟩
    obtain ⟨result, houtcome, hcompared⟩ := hcomparison.exists_result hjava holder hempty
    refine ⟨result, houtcome, (typeChanges_eq_removed hcompared fun name => rfl).trans ?_⟩
    rw [Outline.withFilename, NameMap.names_mapValues]

end IsComparison

theorem isComparison_diff (base head : Revision) :
    IsComparison .default base head id (diff base head) where
  of_language_error error hlanguage := by rw [diff, hlanguage]; rfl
  of_outline_error language error hlanguage hpair := by
    rw [diff, hlanguage]
    simp only [bind, Except.bind, Language.diff, hpair]
  of_records language older newer records hlanguage hpair hrecords := by
    refine ⟨records, ?_, rfl⟩
    rw [diff, hlanguage]
    simp only [bind, Except.bind, Language.diff, hpair, hrecords]

theorem isComparison_report (settings : Settings) (base head : Revision) (duration : Double) :
    IsComparison settings base head Report.records (report settings base head duration) where
  of_language_error error hlanguage := by rw [report, hlanguage]; rfl
  of_outline_error language error hlanguage hpair := by
    rw [report, hlanguage]
    simp only [bind, Except.bind, Language.report, hpair]
  of_records language older newer records hlanguage hpair hrecords := by
    let filename := if head.filename = "" then base.filename else head.filename
    let issues := older.issues.map (·.onSide .base) ++ newer.issues.map (·.onSide .head)
    refine ⟨(Report.ofRecords filename records duration).withIssues issues, ?_, ?_⟩
    · rw [report, hlanguage]
      simp only [bind, Except.bind, Language.report, hpair, hrecords]
      rfl
    · rfl

theorem filename_of_report_eq_ok {settings : Settings} {base head : Revision} {duration : Double}
    {result : Report} (hreport : report settings base head duration = .ok result) :
    result.filename = if head.filename = "" then base.filename else head.filename := by
  cases hlanguage : Language.ofPair base head with
  | error error =>
    rw [report, hlanguage] at hreport
    cases hreport
  | ok language =>
    rw [report, hlanguage] at hreport
    cases hdiff : language.diff settings base head with
    | error error => cases hreport.symm.trans (Language.report_eq_error_iff.mpr hdiff)
    | ok records =>
      obtain ⟨older, newer, holder, hnewer, hrecords⟩ :=
        Language.exists_outlineOf_of_diff_eq_ok hdiff
      have hfiled := Language.report_eq_ok holder hnewer hrecords duration
      rw [Except.ok.inj (hreport.symm.trans hfiled)]
      rfl

/-- A comparison of two revisions, with or without a report, fails without a known language, then on
the older side, then on the newer one, and otherwise succeeds.  The report is filed under the newer
name if there is one. -/
theorem diff_and_report_isAttributed (settings : Settings) (base head : Revision)
    (duration : Double) :
    IsAttributed base head id (diff base head) ∧
      IsAttributed base head Report.records (report settings base head duration) ∧
      ∀ result, report settings base head duration = .ok result →
        result.filename = if head.filename = "" then base.filename else head.filename :=
  ⟨(isComparison_diff base head).isAttributed,
    (isComparison_report settings base head duration).isAttributed,
    fun _ => filename_of_report_eq_ok⟩

end JavaDiff
