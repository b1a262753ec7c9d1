import JavaDiff.Diff.Compare
import JavaDiff.Diff.Report
import JavaDiff.Language

/-!
# Comparing revisions

Two revisions of a file are compared by their outlines.  If either cannot be outlined the comparison
fails with an error that names the file and the side, the older revision first.
-/

namespace JavaDiff

namespace Language

/-- The outlines of a pair of revisions. -/
def outlinePair (language : Language) (base head : Revision) :
    Except Error (Outline × Outline) := do
  let older ← (language.outlineOf base).mapError (.onSide .base)
  let newer ← (language.outlineOf head).mapError (.onSide .head)
  return (older, newer)

/-- The records of the changes between two revisions. -/
def diff (language : Language) (settings : Settings) (base head : Revision) :
    Except Error (List Record) := do
  let (older, newer) ← language.outlinePair base head
  compareOutlines settings older newer

/-- The report on two revisions, with the time that it took.  It is filed under the name of the newer
file, or of the older one when the newer has none. -/
def report (language : Language) (settings : Settings) (base head : Revision) (duration : Double) :
    Except Error Report := do
  let (older, newer) ← language.outlinePair base head
  let records ← compareOutlines settings older newer
  let filename := if head.filename = "" then base.filename else head.filename
  return (Report.ofRecords filename records duration).withIssues
    (older.issues.map (·.onSide .base) ++ newer.issues.map (·.onSide .head))

end Language

/-- The records of the changes between two revisions under the default settings, in the language of
their filenames. -/
def diff (base head : Revision) : Except Error (List Record) := do
  (← Language.ofPair base head).diff .default base head

/-- The report on two revisions in the language of their filenames. -/
def report (settings : Settings) (base head : Revision) (duration : Double) :
    Except Error Report := do
  (← Language.ofPair base head).report settings base head duration

/-- The reports on the consecutive pairs of a history of one file, each pair on its own. -/
def history (settings : Settings) (filename : String) (sources : List String) (duration : Double) :
    List (Except Error Report) :=
  (sources.zip (sources.drop 1)).map fun (older, newer) =>
    report settings ⟨filename, older⟩ ⟨filename, newer⟩ duration

end JavaDiff
