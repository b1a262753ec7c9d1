import JavaDiff.NameMap

/-!
# Outlines

The outline of a source lists the types it declares and, for each type, the methods that have a
body.  Every entry keeps its text as written together with its place: the numbers of its first and
last line, in words of 32 bits, and the offset of its first byte.
-/

namespace JavaDiff

/-- A revision of a file. -/
structure Revision where
  /-- The name of the file. -/
  filename : String
  /-- The text of the file. -/
  source : String
deriving DecidableEq, Repr

/-- The kinds of type that a keyword declares. -/
inductive TypeKind where
  /-- A class. -/
  | classType
  /-- An interface. -/
  | interfaceType
  /-- An enumeration. -/
  | enumType
  /-- A record. -/
  | recordType
deriving DecidableEq, Repr

namespace TypeKind

/-- Every kind of type. -/
def all : List TypeKind := [classType, interfaceType, enumType, recordType]

/-- The keyword that declares a kind of type. -/
def keyword : TypeKind → String
  | classType => "class"
  | interfaceType => "interface"
  | enumType => "enum"
  | recordType => "record"

/-- The kind of type that a word declares. -/
def ofKeyword? (word : String) : Option TypeKind := all.find? (·.keyword == word)

end TypeKind

/-- A method or constructor that has a body. -/
structure Method where
  /-- The name of the method. -/
  name : String
  /-- The name of the type it belongs to. -/
  owner : String
  /-- The text from the name to the closing brace of the body. -/
  text : String
  /-- The line of the first byte of the text. -/
  startLine : UInt32
  /-- The line of the last byte of the text. -/
  endLine : UInt32
  /-- The offset of the text in the source. -/
  startByte : Nat
deriving DecidableEq

/-- A declared type with its methods.  Of several methods with one name the last is kept. -/
structure DeclaredType where
  /-- The name of the type. -/
  name : String
  /-- The file that declares it. -/
  filename : String
  /-- The kind of type. -/
  kind : TypeKind
  /-- The text from the keyword to the closing brace of the body. -/
  text : String
  /-- The line of the first byte of the text. -/
  startLine : UInt32
  /-- The line of the last byte of the text. -/
  endLine : UInt32
  /-- The offset of the text in the source. -/
  startByte : Nat
  /-- The methods of the type by name. -/
  methods : NameMap Method
deriving DecidableEq

/-- A note about a declaration that could not be kept. -/
structure Issue where
  /-- The line of the declaration. -/
  line : UInt32
  /-- What happened to it. -/
  message : String
deriving DecidableEq

/-- The types recovered from a source, nested ones included. -/
structure Outline where
  /-- The file the source belongs to. -/
  filename : String
  /-- The types by name. -/
  types : NameMap DeclaredType
  /-- The declarations that could not be kept. -/
  issues : List Issue
deriving DecidableEq

namespace Outline

/-- The outline without types. -/
def empty (filename : String) : Outline := ⟨filename, .empty, []⟩

/-- Whether the outline has no type. -/
def isEmpty (outline : Outline) : Bool := outline.types.size == 0

/-- The number of methods of all types together. -/
def methodCount (outline : Outline) : Nat :=
  outline.types.values.foldr (fun type count => type.methods.size + count) 0

/-- A method of a type, both looked up by name. -/
def method? (outline : Outline) (type method : String) : Option Method := do
  (← outline.types.get? type).methods.get? method

/-- The outline with a filename for itself and each of its types. -/
def withFilename (outline : Outline) (filename : String) : Outline :=
  { outline with
    filename
    types := outline.types.mapValues fun type => { type with filename } }

end Outline

end JavaDiff
