import JavaDiff.Diff.Record

/-!
# Summaries

A summary counts the records of a comparison by what they are about and what happened to it, and says
so in a line of text that leaves out every count of zero.
-/

namespace JavaDiff

/-- Counts by change, in words of 32 bits. -/
structure Tally where
  /-- The number of additions. -/
  added : UInt32
  /-- The number of removals. -/
  removed : UInt32
  /-- The number of modifications. -/
  modified : UInt32
deriving DecidableEq, Repr

namespace Tally

/-- The tally of nothing. -/
def zero : Tally := ⟨0, 0, 0⟩

/-- The tally after one more change. -/
def record (tally : Tally) : Change → Tally
  | .added => { tally with added := tally.added + 1 }
  | .removed => { tally with removed := tally.removed + 1 }
  | .modified => { tally with modified := tally.modified + 1 }

/-- The count of a change. -/
def count (tally : Tally) : Change → UInt32
  | .added => tally.added
  | .removed => tally.removed
  | .modified => tally.modified

/-- The counts of a tally that are not zero, behind a label.  There is no text without them. -/
def text? (tally : Tally) (label : String) : Option String :=
  match Change.all.filter (tally.count · ≠ 0) with
  | [] => none
  | changes =>
    let counts := changes.map fun change => s!"{tally.count change} {change.name}"
    some (label ++ ": " ++ ", ".intercalate counts)

end Tally

/-- The counts of a comparison. -/
structure Summary where
  /-- The records of types. -/
  types : Tally
  /-- The records of methods. -/
  methods : Tally
deriving DecidableEq, Repr

namespace Summary

/-- The summary of no records. -/
def zero : Summary := ⟨.zero, .zero⟩

/-- The summary after one more record. -/
def record (summary : Summary) : Record → Summary
  | .ofType type => { summary with types := summary.types.record type.change }
  | .ofMethod method => { summary with methods := summary.methods.record method.change }

/-- The summary of some records. -/
def ofRecords (records : List Record) : Summary := records.foldl record zero

/-- The text of a summary. -/
def text (summary : Summary) : String :=
  match [summary.types.text? "classes", summary.methods.text? "methods"].filterMap id with
  | [] => "No changes"
  | parts => "; ".intercalate parts

end Summary

end JavaDiff
