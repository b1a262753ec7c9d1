import JavaDiff.Error
import JavaDiff.Settings
import JavaDiff.Toml.Reader

/-!
# Settings in TOML

Settings stand in the table `diff` of a document, under the names of the fields.  Fields that are
missing keep their defaults and other entries are passed over.  In place of a table, an array may give
the fields in order.
-/

namespace JavaDiff

namespace Toml

/-- The number nearest to a whole number. -/
def singleOfInt (value : Int) : Single := .ofQuotient (value < 0) value.natAbs 1

/-- The single that a number stands for. -/
def toSingle? : Toml → Option Single
  | integer value => some (singleOfInt value)
  | float value => some (value.convert .single)
  | _ => none

/-- The truth value. -/
def toBool? : Toml → Option Bool
  | boolean value => some value
  | _ => none

end Toml

namespace Settings

/-- The settings with the given values, of which each may be missing. -/
def ofToml? (threshold? detectMemberChanges? expandMembers? : Option Toml) : Option Settings := do
  let read {α : Type} (read? : Toml → Option α) (default : α) : Option Toml → Option α
    | none => some default
    | some value => read? value
  return {
    threshold := ← read Toml.toSingle? default.threshold threshold?
    detectMemberChanges := ← read Toml.toBool? default.detectMemberChanges detectMemberChanges?
    expandMembers := ← read Toml.toBool? default.expandMembers expandMembers? }

/-- The settings that a value gives.  A date has none of the fields. -/
def ofValue? : Toml → Option Settings
  | .table _ entries =>
    ofToml? (entries.lookup "similarity_threshold") (entries.lookup "detect_member_changes")
      (entries.lookup "expand_class_members")
  | .array elements => ofToml? elements[0]? elements[1]? elements[2]?
  | .dateTime => some default
  | _ => none

/-- The settings of a TOML document, with their effective threshold. -/
def ofToml (text : String) : Except Error Settings :=
  let settings? := do
    let document ← Toml.ofText? text
    match document.lookup "diff" with
    | none => return default
    | some value => ofValue? value
  match settings? with
  | some settings => .ok settings.normalized
  | none => .error .invalidSettings

end Settings

end JavaDiff
