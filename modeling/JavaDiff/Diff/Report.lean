import JavaDiff.Diff.Summary
import JavaDiff.Error
import JavaDiff.Outline.Basic

/-!
# Reports

A report joins the records of a comparison with their summary and with the notes about declarations
that could not be kept on either side.  The summary text mentions how many notes there are.
-/

namespace JavaDiff

/-- A note about a declaration on one side of a comparison. -/
structure SideIssue where
  /-- The side of the declaration. -/
  side : Side
  /-- The line of the declaration. -/
  line : UInt32
  /-- What happened to it. -/
  message : String
deriving DecidableEq

/-- The note of an outline about one side of a comparison. -/
def Issue.onSide (side : Side) (issue : Issue) : SideIssue := ⟨side, issue.line, issue.message⟩

/-- The result of comparing two revisions of a file. -/
structure Report where
  /-- The name of the file. -/
  filename : String
  /-- The records of the comparison. -/
  records : List Record
  /-- The counts of the records. -/
  summary : Summary
  /-- The counts in words. -/
  summaryText : String
  /-- The notes about both sides. -/
  issues : List SideIssue
  /-- The time that the comparison took, in milliseconds. -/
  duration : Double
deriving DecidableEq

namespace Report

/-- The report of some records without notes. -/
def ofRecords (filename : String) (records : List Record) (duration : Double) : Report :=
  let summary := Summary.ofRecords records
  ⟨filename, records, summary, summary.text, [], duration⟩

/-- The note that a number of issues adds to a summary text. -/
def issueNote (count : Nat) : String :=
  let noun := if count = 1 then "issue" else "issues"
  s!" ({count} structural {noun})"

/-- The report with other notes.  Without any, the summary text stays as it is. -/
def withIssues (report : Report) (issues : List SideIssue) : Report :=
  { report with
    issues
    summaryText :=
      if issues = [] then report.summaryText
      else report.summary.text ++ issueNote issues.length }

/-- Whether there are notes. -/
def hasIssues (report : Report) : Bool := !report.issues.isEmpty

/-- Whether there are records. -/
def hasChanges (report : Report) : Bool := !report.records.isEmpty

/-- The changes of types, in order. -/
def types (report : Report) : List TypeChange := report.records.filterMap Record.type?

/-- The changes of methods, in order. -/
def methods (report : Report) : List MethodChange := report.records.filterMap Record.method?

end Report

end JavaDiff
