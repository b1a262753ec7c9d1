import JavaDiff.Diff.Report
import JavaDiff.Json.Fields
import JavaDiff.Json.Printer
import JavaDiff.Json.Reader

/-!
# Reports as JSON

The written form of reports.  A record is the object of its type or method change with a member in
front that says which of the two it is; when a record is read, that member may stand anywhere.  The
names and the similarity in a change may be null or left out, and so may the notes of a report be left
out.  Where a change stands for its name, the empty object counts as null.
-/

namespace JavaDiff

namespace MethodChange

/-- The fields of the change of a method. -/
def fieldNames : List String := ["class_name", "method_a", "method_b", "change", "similarity"]

/-- The members of the written form of the change of a method. -/
def toMembers (change : MethodChange) : List (String × Json) := [
  ("class_name", .ofString change.owner),
  ("method_a", .ofString? change.before?),
  ("method_b", .ofString? change.after?),
  ("change", .ofString change.change.name),
  ("similarity", (change.similarity?.map Json.ofSingle).getD .null)]

/-- The written form of the change of a method. -/
def toJson (change : MethodChange) : Json := .ofMembers change.toMembers

/-- The change of a method with a written form. -/
def ofJson? (value : Json) : Option MethodChange := do
  let fields ← value.fields? fieldNames
  return {
    owner := ← (← Json.field? fields "class_name").toString?
    before? := ← Json.optionalField? Json.toOptionalString? fields "method_a"
    after? := ← Json.optionalField? Json.toOptionalString? fields "method_b"
    change := ← (← Json.field? fields "change").toChoice? Json.isVoid Change.ofName?
    similarity? := ← Json.optionalField? Json.toOptionalBinary? fields "similarity" }

end MethodChange

namespace TypeChange

/-- The fields of the change of a type. -/
def fieldNames : List String := ["class_a", "class_b", "change", "methods"]

/-- The members of the written form of the change of a type. -/
def toMembers (change : TypeChange) : List (String × Json) := [
  ("class_a", .ofString? change.before?),
  ("class_b", .ofString? change.after?),
  ("change", .ofString change.change.name),
  ("methods", .array (change.methods.map MethodChange.toJson))]

/-- The change of a type with a written form. -/
def ofJson? (value : Json) : Option TypeChange := do
  let fields ← value.fields? fieldNames
  return {
    before? := ← Json.optionalField? Json.toOptionalString? fields "class_a"
    after? := ← Json.optionalField? Json.toOptionalString? fields "class_b"
    change := ← (← Json.field? fields "change").toChoice? Json.isVoid Change.ofName?
    methods := ← (← Json.field? fields "methods").toList? MethodChange.ofJson? }

end TypeChange

namespace Record

/-- The member that tells the kinds of record apart. -/
def kindField : String := "kind"

/-- The written name of the records of types. -/
def typeKind : String := "class"

/-- The written name of the records of methods. -/
def methodKind : String := "method"

/-- The written form of a record. -/
def toJson : Record → Json
  | ofType type => .ofMembers ((kindField, .ofString typeKind) :: type.toMembers)
  | ofMethod method => .ofMembers ((kindField, .ofString methodKind) :: method.toMembers)

/-- The greatest number of arrays and objects inside one another in a document that holds a record,
the record included. -/
def depthLimit : Nat := 127

/-- The kind of record that a value says it is, and the value that holds the change. -/
def kindAndChange? : Json → Option (String × Json)
  | .array (kind :: change) => do return (← kind.toString?, .array change)
  | value => do return (← (← Json.field? (← value.fields? [kindField]) kindField).toString?, value)

/-- The record with a written form, which lies inside `outer` arrays and objects.  All of it has to be
readable, even what belongs to no field, and it may not go too deep. -/
def ofJson? (outer : Nat) (value : Json) : Option Record := do
  if ¬ value.isReadable ∨ depthLimit < outer + value.depth then none
  else
    let (kind, change) ← kindAndChange? value
    if kind = typeKind then (TypeChange.ofJson? change).map ofType
    else if kind = methodKind then (MethodChange.ofJson? change).map ofMethod
    else none

end Record

namespace Summary

/-- The fields of a summary. -/
def fieldNames : List String :=
  ["classes_added", "classes_removed", "classes_modified",
    "methods_added", "methods_removed", "methods_modified"]

/-- The written form of a summary. -/
def toJson (summary : Summary) : Json := .ofMembers [
  ("classes_added", .ofWord32 summary.types.added),
  ("classes_removed", .ofWord32 summary.types.removed),
  ("classes_modified", .ofWord32 summary.types.modified),
  ("methods_added", .ofWord32 summary.methods.added),
  ("methods_removed", .ofWord32 summary.methods.removed),
  ("methods_modified", .ofWord32 summary.methods.modified)]

/-- The summary with a written form. -/
def ofJson? (value : Json) : Option Summary := do
  let fields ← value.fields? fieldNames
  let count (name : String) : Option UInt32 := do (← Json.field? fields name).toWord32?
  return {
    types := ⟨← count "classes_added", ← count "classes_removed", ← count "classes_modified"⟩
    methods :=
      ⟨← count "methods_added", ← count "methods_removed", ← count "methods_modified"⟩ }

end Summary

namespace SideIssue

/-- The fields of a note about one side. -/
def fieldNames : List String := ["side", "line", "message"]

/-- The written form of a note about one side. -/
def toJson (issue : SideIssue) : Json := .ofMembers [
  ("side", .ofString issue.side.name),
  ("line", .ofWord32 issue.line),
  ("message", .ofString issue.message)]

/-- The note about one side with a written form. -/
def ofJson? (value : Json) : Option SideIssue := do
  let fields ← value.fields? fieldNames
  return {
    side := ← (← Json.field? fields "side").toChoice? Json.isNull Side.ofName?
    line := ← (← Json.field? fields "line").toWord32?
    message := ← (← Json.field? fields "message").toString? }

end SideIssue

namespace Report

/-- The fields of a report. -/
def fieldNames : List String :=
  ["filename", "records", "summary", "summary_text", "issues", "duration_ms"]

/-- The written form of a report. -/
def toJson (report : Report) : Json := .ofMembers [
  ("filename", .ofString report.filename),
  ("records", .array (report.records.map Record.toJson)),
  ("summary", report.summary.toJson),
  ("summary_text", .ofString report.summaryText),
  ("issues", .array (report.issues.map SideIssue.toJson)),
  ("duration_ms", .ofDouble report.duration)]

/-- The report with a written form. -/
def ofJson? (value : Json) : Option Report := do
  let fields ← value.fields? fieldNames
  return {
    filename := ← (← Json.field? fields "filename").toString?
    records := ← (← Json.field? fields "records").toList? (Record.ofJson? 2)
    summary := ← Summary.ofJson? (← Json.field? fields "summary")
    summaryText := ← (← Json.field? fields "summary_text").toString?
    issues := ← ((Json.field? fields "issues").getD (.array [])).toList? SideIssue.ofJson?
    duration := ← (← Json.field? fields "duration_ms").toBinary? }

/-- The JSON text of a report. -/
def exportText (report : Report) (spacing : Json.Spacing) : String := report.toJson.text spacing

/-- The report that a JSON text holds. -/
def importText (text : String) : Except Error Report :=
  match (Json.ofText? text).bind ofJson? with
  | some report => .ok report
  | none => .error .invalidJson

end Report

end JavaDiff
