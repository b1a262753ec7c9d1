/-!
# Errors

The reasons why an outline, a comparison or a conversion fails.  An error in a source starts out
without an owner; `withFilename` and `onSide` attribute it to a file and to one side of a
comparison, and leave every other error as it is.
-/

namespace JavaDiff

/-- The two revisions of a comparison. -/
inductive Side where
  /-- The older revision. -/
  | base
  /-- The newer revision. -/
  | head
deriving DecidableEq, Repr

namespace Side

/-- Both sides. -/
def all : List Side := [base, head]

/-- The written name of a side. -/
def name : Side → String
  | base => "base"
  | head => "head"

/-- The side with a written name. -/
def ofName? (name : String) : Option Side := all.find? (·.name == name)

end Side

/-- The filename of a source that was given without one. -/
def unnamedSource : String := "<source>"

/-- The reasons for a failure. -/
inductive Error where
  /-- A source cannot be divided into types and methods. -/
  | parse (filename : String) (side : Option Side) (line : Option UInt32) (detail : String)
  /-- An outline declares no type of this name. -/
  | typeNotFound (type : String)
  /-- A type declares no method of this name. -/
  | methodNotFound (type method : String)
  /-- No registered language has this name or handles this file. -/
  | unsupportedLanguage (name : String)
  /-- A settings document is not valid. -/
  | invalidSettings
  /-- A JSON text does not hold the expected value. -/
  | invalidJson
  /-- A span does not start and end between characters of its text. -/
  | splitCharacter
deriving DecidableEq, Repr

namespace Error

/-- An error in a source that has no owner yet. -/
def inSource (line : Option UInt32) (detail : String) : Error :=
  parse unnamedSource none line detail

/-- Names the file in which a source failed. -/
def withFilename (filename : String) : Error → Error
  | parse _ side line detail => parse filename side line detail
  | error => error

/-- Names the side of the comparison on which a source failed. -/
def onSide (side : Side) : Error → Error
  | parse filename _ line detail => parse filename (some side) line detail
  | error => error

/-- Whether a looked-up type or method is missing. -/
def isNotFound : Error → Bool
  | typeNotFound _ => true
  | methodNotFound .. => true
  | _ => false

/-- The text of an error. -/
def message : Error → String
  | parse filename side line detail =>
    let revision := match side with
      | some side => s!" ({side.name} revision)"
      | none => ""
    let place := match line with
      | some line => s!" at line {line}"
      | none => ""
    s!"Parse error in {filename}{revision}{place}: {detail}"
  | typeNotFound type => s!"Class not found: {type}"
  | methodNotFound type method => s!"Method not found: {type}.{method}"
  | unsupportedLanguage name => s!"Unsupported language: {name}"
  | invalidSettings => "Invalid configuration"
  | invalidJson => "JSON error"
  | splitCharacter => "A span does not start and end between characters"

end Error

end JavaDiff
