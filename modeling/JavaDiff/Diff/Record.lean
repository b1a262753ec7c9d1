import JavaDiff.Number.Binary

/-!
# Records

A comparison results in a list of records.  The record of a type holds the changes of its methods and
is followed by one record for each of them.
-/

namespace JavaDiff

/-- What happened to a type or method between two revisions. -/
inductive Change where
  /-- Only the newer revision has it. -/
  | added
  /-- Only the older revision has it. -/
  | removed
  /-- Both revisions have it, with a difference. -/
  | modified
deriving DecidableEq, Repr

namespace Change

/-- Every change. -/
def all : List Change := [added, removed, modified]

/-- The written name of a change. -/
def name : Change → String
  | added => "added"
  | removed => "removed"
  | modified => "modified"

/-- The change with a written name. -/
def ofName? (name : String) : Option Change := all.find? (·.name == name)

end Change

/-- The change of a method. -/
structure MethodChange where
  /-- The type the method belongs to. -/
  owner : String
  /-- The name in the older revision. -/
  before? : Option String
  /-- The name in the newer revision. -/
  after? : Option String
  /-- What happened to the method. -/
  change : Change
  /-- The similarity of its two texts. -/
  similarity? : Option Single
deriving DecidableEq

namespace MethodChange

/-- The change of a method that only the newer revision has. -/
def added (owner name : String) : MethodChange := ⟨owner, none, some name, .added, none⟩

/-- The change of a method that only the older revision has. -/
def removed (owner name : String) : MethodChange := ⟨owner, some name, none, .removed, none⟩

/-- The change of a method whose texts differ. -/
def modified (owner name : String) (similarity : Single) : MethodChange :=
  ⟨owner, some name, some name, .modified, some similarity⟩

/-- The name of the method, in the newer revision if it is there. -/
def name (change : MethodChange) : String := (change.after?.or change.before?).getD ""

end MethodChange

/-- The change of a type. -/
structure TypeChange where
  /-- The name in the older revision. -/
  before? : Option String
  /-- The name in the newer revision. -/
  after? : Option String
  /-- What happened to the type. -/
  change : Change
  /-- The changes of its methods. -/
  methods : List MethodChange
deriving DecidableEq

namespace TypeChange

/-- The change of a type that only the newer revision has. -/
def added (name : String) (methods : List MethodChange) : TypeChange :=
  ⟨none, some name, .added, methods⟩

/-- The change of a type that only the older revision has. -/
def removed (name : String) (methods : List MethodChange) : TypeChange :=
  ⟨some name, none, .removed, methods⟩

/-- The change of a type that both revisions have. -/
def modified (name : String) (methods : List MethodChange) : TypeChange :=
  ⟨some name, some name, .modified, methods⟩

/-- The name of the type, in the newer revision if it is there. -/
def name (change : TypeChange) : String := (change.after?.or change.before?).getD ""

end TypeChange

/-- An entry in the result of a comparison. -/
inductive Record where
  /-- The change of a type. -/
  | ofType (change : TypeChange)
  /-- The change of a method. -/
  | ofMethod (change : MethodChange)
deriving DecidableEq

namespace Record

/-- What happened to the type or method. -/
def change : Record → Change
  | ofType type => type.change
  | ofMethod method => method.change

/-- The change of a type in a record. -/
def type? : Record → Option TypeChange
  | ofType type => some type
  | ofMethod _ => none

/-- The change of a method in a record. -/
def method? : Record → Option MethodChange
  | ofType _ => none
  | ofMethod method => some method

end Record

/-- The record of a type, followed by those of its methods. -/
def TypeChange.records (change : TypeChange) : List Record :=
  .ofType change :: change.methods.map .ofMethod

end JavaDiff
