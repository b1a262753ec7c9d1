import Mathlib.Algebra.GroupWithZero.Nat
import Mathlib.Data.List.Induction
import JavaDiff.Proofs.Diff.Record
import JavaDiff.Proofs.Diff.Revision
import JavaDiff.Proofs.Diff.Summary

/-!
# What a report says

A report on two revisions exists exactly when their comparison succeeds.  It holds the records of
the comparison, counts them, and lists the notes on the older revision before those on the newer
one.

The summary text of a report mentions the notes that were attached last, unless none are attached:
attaching an empty list takes the notes away but leaves the text, so the text may mention notes that
the report no longer holds.
-/

namespace JavaDiff

/-- What the summary text says about a number of notes. -/
def noteText (count : Nat) : String :=
  if count = 0 then ""
  else if count = 1 then " (1 structural issue)"
  else " (" ++ toString count ++ " structural issues)"

@[simp]
theorem noteText_zero : noteText 0 = "" := rfl

theorem noteText_eq_empty_iff {count : Nat} : noteText count = "" ↔ count = 0 := by
  rw [noteText]
  split
  · rename_i hzero
    exact iff_of_true rfl hzero
  · rename_i hpositive
    refine iff_of_false ?_ hpositive
    split
    · decide
    · simp

theorem count_openParen_noteText_le_one (count : Nat) :
    (noteText count).toList.count '(' ≤ 1 := by
  have hdigits := List.count_eq_zero.mpr (openParen_notMem_toDigits count)
  rw [noteText]
  split
  · decide
  · split
    · decide
    · rw [String.toList_append, String.toList_append, List.count_append, List.count_append]
      change _ + (Nat.repr count).toList.count '(' + _ ≤ 1
      rw [Nat.toList_repr, hdigits]
      decide

theorem issueNote_eq_noteText {count : Nat} (hpositive : count ≠ 0) :
    Report.issueNote count = noteText count := by
  rw [Report.issueNote, noteText, if_neg hpositive]
  split
  · rename_i hone
    rw [hone]
    rfl
  · change " (" ++ toString count ++ " structural " ++ "issues" ++ ")" = _
    rw [String.append_assoc, String.append_assoc]
    rfl

namespace Report

theorem summaryText_withIssues (report : Report) (issues : List SideIssue) :
    (report.withIssues issues).summaryText =
      if issues = [] then report.summaryText
      else report.summary.text ++ noteText issues.length := by
  rw [withIssues]
  split
  · rfl
  · rename_i hissues
    rw [issueNote_eq_noteText (mt List.length_eq_zero_iff.mp hissues)]

theorem summaryText_withIssues_ofRecords (filename : String) (records : List Record)
    (duration : Double) (issues : List SideIssue) :
    ((ofRecords filename records duration).withIssues issues).summaryText =
      (Summary.ofRecords records).text ++ noteText issues.length := by
  rw [summaryText_withIssues]
  split
  · rename_i hissues
    rw [hissues, List.length_nil, noteText_zero, String.append_empty]
    rfl
  · rfl

end Report

/-- What a report on two outlines says about the records of their comparison. -/
structure Report.Describes (report : Report) (older newer : Outline) (records : List Record) :
    Prop where
  records_eq : report.records = records
  types_countsTo : ∀ change,
    CountsTo (report.summary.types.count change) (records.countP (·.isTypeWith change))
  methods_countsTo : ∀ change,
    CountsTo (report.summary.methods.count change) (records.countP (·.isMethodWith change))
  methods_countsTo_sum : ∀ change, CountsTo (report.summary.methods.count change)
    (report.types.map fun type => type.methods.countP (·.change = change)).sum
  flatMap_types_eq :
    (report.types.flatMap fun type => .ofType type :: type.methods.map .ofMethod) = records
  flatMap_methods_eq : report.types.flatMap TypeChange.methods = report.methods
  issues_eq : report.issues =
    older.issues.map (fun issue => ⟨.base, issue.line, issue.message⟩) ++
      newer.issues.map (fun issue => ⟨.head, issue.line, issue.message⟩)
  summaryText_eq : report.summaryText = report.summary.text ++ noteText report.issues.length

theorem countP_isMethodWith (records : List Record) (change : Change) :
    records.countP (·.isMethodWith change) =
      (records.filterMap Record.method?).countP (·.change = change) := by
  rw [List.countP_filterMap]
  refine congrArg (List.countP · records) (funext fun record => ?_)
  cases record <;> rfl

theorem Report.describes_of_records_eq {report : Report} {older newer : Outline}
    {blocks : List TypeChange} (hrecords : report.records = blocks.flatMap TypeChange.records)
    (hsummary : report.summary = Summary.ofRecords report.records)
    (hissues : report.issues =
      older.issues.map (·.onSide .base) ++ newer.issues.map (·.onSide .head))
    (htext : report.summaryText = report.summary.text ++ noteText report.issues.length) :
    report.Describes older newer (blocks.flatMap TypeChange.records) := by
  have htypes : report.types = blocks := by
    rw [types, hrecords, filterMap_type?_flatMap_records]
  have hmethods : report.methods = blocks.flatMap TypeChange.methods := by
    rw [methods, hrecords, filterMap_method?_flatMap_records]
  have hcount := Summary.countsTo_ofRecords report.records
  rw [← hsummary] at hcount
  constructor
  case records_eq => exact hrecords
  case types_countsTo => exact fun change => hrecords ▸ (hcount change).1
  case methods_countsTo => exact fun change => hrecords ▸ (hcount change).2
  case methods_countsTo_sum =>
    intro change
    have hsum : report.records.countP (·.isMethodWith change) =
        (report.types.map fun type => type.methods.countP (·.change = change)).sum := by
      rw [countP_isMethodWith, ← methods, hmethods, List.countP_flatMap, htypes]
      rfl
    exact hsum ▸ (hcount change).2
  case flatMap_types_eq => exact congrArg (List.flatMap TypeChange.records) htypes
  case flatMap_methods_eq => rw [htypes, hmethods]
  case issues_eq => exact hissues
  case summaryText_eq => exact htext

section Revisions

variable (language : Language) (settings : Settings) (base head : Revision) (duration : Double)

/-- A report on two revisions fails exactly when their comparison does, with the same error.
Otherwise it describes the records of the comparison. -/
theorem report_describes_diff :
    (∀ error, language.report settings base head duration = .error error ↔
      language.diff settings base head = .error error) ∧
    ∀ records, language.diff settings base head = .ok records →
      ∃ older newer report, language.outlineOf base = .ok older ∧
        language.outlineOf head = .ok newer ∧
        language.report settings base head duration = .ok report ∧
        report.Describes older newer records := by
  refine ⟨fun error => Language.report_eq_error_iff, fun records hrecords => ?_⟩
  obtain ⟨older, newer, holder, hnewer, hcompared⟩ :=
    Language.exists_outlineOf_of_diff_eq_ok hrecords
  obtain ⟨changes, -, rfl⟩ := exists_changes_of_compareOutlines_eq_ok hcompared
  exact ⟨older, newer, _, holder, hnewer,
    Language.report_eq_ok holder hnewer hcompared duration,
    Report.describes_of_records_eq rfl rfl rfl (Report.summaryText_withIssues_ofRecords ..)⟩

end Revisions

namespace Report

/-- The report after some lists of notes have been attached one after another. -/
def attachAll (report : Report) (steps : List (List SideIssue)) : Report :=
  steps.foldl withIssues report

/-- The last notes of some lists.  A list without notes does not count. -/
def lastNotes (steps : List (List SideIssue)) : List SideIssue :=
  (steps.filter (· ≠ [])).getLast?.getD []

theorem lastNotes_append_singleton (steps : List (List SideIssue)) (issues : List SideIssue) :
    lastNotes (steps ++ [issues]) = if issues = [] then lastNotes steps else issues := by
  by_cases hissues : issues = [] <;> simp [lastNotes, List.filter_append, hissues]

theorem lastNotes_eq_nil_iff {steps : List (List SideIssue)} :
    lastNotes steps = [] ↔ ∀ issues ∈ steps, issues = [] := by
  induction steps using List.reverseRecOn with
  | nil => simp [lastNotes]
  | append_singleton steps issues ih =>
    rw [lastNotes_append_singleton]
    split
    · rename_i hissues
      simp [ih, hissues, or_imp]
    · rename_i hissues
      simp [hissues, or_imp, forall_and]

theorem lastNotes_eq_of_ne {steps : List (List SideIssue)} (hlast : steps.getLast?.getD [] ≠ []) :
    lastNotes steps = steps.getLast?.getD [] := by
  induction steps using List.reverseRecOn with
  | nil => exact absurd rfl hlast
  | append_singleton steps issues _ =>
    rw [List.getLast?_concat, Option.getD_some] at hlast ⊢
    rw [lastNotes_append_singleton, if_neg hlast]

/-- What a report on some records has become after some lists of notes. -/
structure IsAfter (filename : String) (records : List Record) (duration : Double)
    (steps : List (List SideIssue)) (report : Report) : Prop where
  filename_eq : report.filename = filename
  records_eq : report.records = records
  summary_eq : report.summary = Summary.ofRecords records
  duration_eq : report.duration = duration
  issues_eq : report.issues = steps.getLast?.getD []
  summaryText_eq : report.summaryText = report.summary.text ++ noteText (lastNotes steps).length

namespace IsAfter

variable {filename : String} {records : List Record} {duration : Double}
  {steps : List (List SideIssue)} {report : Report}

theorem ofRecords (filename : String) (records : List Record) (duration : Double) :
    IsAfter filename records duration [] (.ofRecords filename records duration) :=
  ⟨rfl, rfl, rfl, rfl, rfl, (String.append_empty ..).symm⟩

/-- One more list of notes takes the place of the earlier one, and changes nothing else but the
text. -/
theorem withIssues (hafter : IsAfter filename records duration steps report)
    (issues : List SideIssue) :
    IsAfter filename records duration (steps ++ [issues]) (report.withIssues issues) where
  filename_eq := hafter.filename_eq
  records_eq := hafter.records_eq
  summary_eq := hafter.summary_eq
  duration_eq := hafter.duration_eq
  issues_eq := by rw [List.getLast?_concat]; rfl
  summaryText_eq := by
    rw [summaryText_withIssues, lastNotes_append_singleton]
    split
    · exact hafter.summaryText_eq
    · rfl

theorem attachAll (filename : String) (records : List Record) (duration : Double)
    (steps : List (List SideIssue)) :
    IsAfter filename records duration steps
      ((Report.ofRecords filename records duration).attachAll steps) := by
  induction steps using List.reverseRecOn with
  | nil => exact ofRecords filename records duration
  | append_singleton steps issues ih =>
    rw [Report.attachAll, List.foldl_concat]
    exact ih.withIssues issues

/-- The text mentions the notes that the report holds, unless it holds none and earlier ones were
taken away. -/
theorem summaryText_eq_iff (hafter : IsAfter filename records duration steps report) :
    report.summaryText = report.summary.text ++ noteText report.issues.length ↔
      report.issues ≠ [] ∨ ∀ issues ∈ steps, issues = [] := by
  have hlast := hafter.issues_eq
  rw [hafter.summaryText_eq, String.append_right_inj, ← lastNotes_eq_nil_iff]
  by_cases hissues : report.issues = []
  · rw [hissues, List.length_nil, noteText_zero, noteText_eq_empty_iff, List.length_eq_zero_iff]
    simp
  · rw [lastNotes_eq_of_ne (hlast ▸ hissues), ← hlast]
    exact iff_of_true rfl (Or.inl hissues)

theorem count_openParen_le_one (hafter : IsAfter filename records duration steps report) :
    report.summaryText.toList.count '(' ≤ 1 := by
  have hsummary := List.count_eq_zero.mpr report.summary.openParen_notMem_text
  rw [hafter.summaryText_eq, String.toList_append, List.count_append, hsummary, Nat.zero_add]
  exact count_openParen_noteText_le_one _

end IsAfter

/-- A report keeps its name, records, counts and duration whatever notes are attached, and holds the
notes of the last list.  Its text mentions, in one note at most, those of the last list that is not
empty.  These are the notes it holds exactly when it holds any or no list had any. -/
theorem isAfter_attachAll (filename : String) (records : List Record) (duration : Double)
    (steps : List (List SideIssue)) :
    ∃ report, (ofRecords filename records duration).attachAll steps = report ∧
      IsAfter filename records duration steps report ∧
      report.summaryText.toList.count '(' ≤ 1 ∧
      (report.summaryText = report.summary.text ++ noteText report.issues.length ↔
        report.issues ≠ [] ∨ ∀ issues ∈ steps, issues = []) := by
  have hafter := IsAfter.attachAll filename records duration steps
  exact ⟨_, rfl, hafter, hafter.count_openParen_le_one, hafter.summaryText_eq_iff⟩

/-- A report whose notes were taken away still mentions them. -/
theorem summaryText_ne_of_withdrawn_notes :
    ¬ ∀ (filename : String) (records : List Record) (duration : Double)
      (steps : List (List SideIssue)), ∀ report,
      (ofRecords filename records duration).attachAll steps = report →
      report.summaryText = report.summary.text ++ noteText report.issues.length := by
  intro hmatches
  have htext := hmatches "A.java" [] .zero
    [[⟨.base, 1, "class 'A' has no closing brace"⟩], []] _ rfl
  exact absurd htext (by decide)

end Report

end JavaDiff
