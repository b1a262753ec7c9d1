import JavaDiff.Diff.Record
import JavaDiff.Diff.Similarity
import JavaDiff.Outline.Skeleton
import JavaDiff.Settings

/-!
# Comparing outlines

Types are paired by name, and so are the methods of a pair of types.  A pair of types is reported when
a method of it is, or when it is asked for and the text outside methods differs.
-/

namespace JavaDiff

/-- The changes of the methods of a pair of types: the added ones, the removed ones and the modified
ones, each in ascending order of names. -/
def methodChanges (threshold : Single) (owner : String) (base head : NameMap Method) :
    List MethodChange :=
  ((head.names.filter fun name => !base.contains name).map (.added owner)) ++
    ((base.names.filter fun name => !head.contains name).map (.removed owner)) ++
    base.entries.filterMap fun (name, older) => do
      let newer ← head.get? name
      let (modified, score) := isModified threshold older.text newer.text
      if modified then some (.modified owner name score) else none

/-- Whether the text of a type outside its methods differs between two revisions. -/
def membersDiffer (base head : DeclaredType) : Except Error Bool := do
  let older ← base.skeleton
  let newer ← head.skeleton
  return older != newer

/-- The change of a pair of types with one name, if it is to be reported. -/
def pairChange? (settings : Settings) (name : String) (base head : DeclaredType) :
    Except Error (Option TypeChange) := do
  let methods := methodChanges settings.effectiveThreshold name base.methods head.methods
  if methods ≠ [] then return some (.modified name methods)
  else if settings.detectMemberChanges then
    return if ← membersDiffer base head then some (.modified name []) else none
  else return none

/-- The change of the type with a name, if it is to be reported. -/
def typeChange? (settings : Settings) (name : String) (base? head? : Option DeclaredType) :
    Except Error (Option TypeChange) :=
  let members (type : DeclaredType) := if settings.expandMembers then type.methods.names else []
  match base?, head? with
  | none, some head => .ok (some (.added name ((members head).map (.added name))))
  | some base, none => .ok (some (.removed name ((members base).map (.removed name))))
  | some base, some head => pairChange? settings name base head
  | none, none => .ok none

/-- The records of the changes from one outline to another, in ascending order of types. -/
def compareOutlines (settings : Settings) (base head : Outline) : Except Error (List Record) := do
  let changes ← (base.types.unionNames head.types).mapM fun name =>
    typeChange? settings name (base.types.get? name) (head.types.get? name)
  return (changes.filterMap id).flatMap TypeChange.records

end JavaDiff
