import JavaDiff.Error
import JavaDiff.Json.Fields
import JavaDiff.Json.Printer
import JavaDiff.Json.Reader
import JavaDiff.Outline.Basic

/-!
# Outlines as JSON

The written form of outlines.  Every field is written and has to be there when an outline is read.
Types and methods are members of objects under their names; of several with one name, the last
counts.
-/

namespace JavaDiff

/-- The map read from the members of an object. -/
def NameMap.ofJson? {α : Type} (read? : Json → Option α) (value : Json) : Option (NameMap α) :=
  (value.toEntries? read?).map NameMap.ofList

/-- The object with an entry of a map in each member. -/
def NameMap.toJson {α : Type} (write : α → Json) (map : NameMap α) : Json :=
  .ofMembers (map.entries.map fun entry => (entry.1, write entry.2))

namespace Method

/-- The fields of a method. -/
def fieldNames : List String := ["name", "class_name", "text", "start_line", "end_line", "start_byte"]

/-- The written form of a method. -/
def toJson (method : Method) : Json := .ofMembers [
  ("name", .ofString method.name),
  ("class_name", .ofString method.owner),
  ("text", .ofString method.text),
  ("start_line", .ofWord32 method.startLine),
  ("end_line", .ofWord32 method.endLine),
  ("start_byte", .ofNat method.startByte)]

/-- The method with a written form. -/
def ofJson? (value : Json) : Option Method := do
  let fields ← value.fields? fieldNames
  return {
    name := ← (← Json.field? fields "name").toString?
    owner := ← (← Json.field? fields "class_name").toString?
    text := ← (← Json.field? fields "text").toString?
    startLine := ← (← Json.field? fields "start_line").toWord32?
    endLine := ← (← Json.field? fields "end_line").toWord32?
    startByte := ← (← Json.field? fields "start_byte").toWord64? }

end Method

namespace DeclaredType

/-- The fields of a type. -/
def fieldNames : List String :=
  ["name", "filename", "kind", "text", "start_line", "end_line", "start_byte", "methods"]

/-- The written form of a type. -/
def toJson (type : DeclaredType) : Json := .ofMembers [
  ("name", .ofString type.name),
  ("filename", .ofString type.filename),
  ("kind", .ofString type.kind.keyword),
  ("text", .ofString type.text),
  ("start_line", .ofWord32 type.startLine),
  ("end_line", .ofWord32 type.endLine),
  ("start_byte", .ofNat type.startByte),
  ("methods", type.methods.toJson Method.toJson)]

/-- The type with a written form. -/
def ofJson? (value : Json) : Option DeclaredType := do
  let fields ← value.fields? fieldNames
  return {
    name := ← (← Json.field? fields "name").toString?
    filename := ← (← Json.field? fields "filename").toString?
    kind := ← (← Json.field? fields "kind").toChoice? Json.isNull TypeKind.ofKeyword?
    text := ← (← Json.field? fields "text").toString?
    startLine := ← (← Json.field? fields "start_line").toWord32?
    endLine := ← (← Json.field? fields "end_line").toWord32?
    startByte := ← (← Json.field? fields "start_byte").toWord64?
    methods := ← NameMap.ofJson? Method.ofJson? (← Json.field? fields "methods") }

end DeclaredType

namespace Issue

/-- The fields of a note. -/
def fieldNames : List String := ["line", "message"]

/-- The written form of a note. -/
def toJson (issue : Issue) : Json := .ofMembers [
  ("line", .ofWord32 issue.line),
  ("message", .ofString issue.message)]

/-- The note with a written form. -/
def ofJson? (value : Json) : Option Issue := do
  let fields ← value.fields? fieldNames
  return {
    line := ← (← Json.field? fields "line").toWord32?
    message := ← (← Json.field? fields "message").toString? }

end Issue

namespace Outline

/-- The fields of an outline. -/
def fieldNames : List String := ["filename", "classes", "issues"]

/-- The written form of an outline. -/
def toJson (outline : Outline) : Json := .ofMembers [
  ("filename", .ofString outline.filename),
  ("classes", outline.types.toJson DeclaredType.toJson),
  ("issues", .array (outline.issues.map Issue.toJson))]

/-- The outline with a written form. -/
def ofJson? (value : Json) : Option Outline := do
  let fields ← value.fields? fieldNames
  return {
    filename := ← (← Json.field? fields "filename").toString?
    types := ← NameMap.ofJson? DeclaredType.ofJson? (← Json.field? fields "classes")
    issues := ← (← Json.field? fields "issues").toList? Issue.ofJson? }

/-- The JSON text of an outline. -/
def exportText (outline : Outline) (spacing : Json.Spacing) : String := outline.toJson.text spacing

/-- The outline that a JSON text holds. -/
def importText (text : String) : Except Error Outline :=
  match (Json.ofText? text).bind ofJson? with
  | some outline => .ok outline
  | none => .error .invalidJson

end Outline

end JavaDiff
