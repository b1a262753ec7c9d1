import JavaDiff.Java.Outline
import JavaDiff.Text.FileName
import JavaDiff.Text.Lowercase

/-!
# Languages

A language has a name, the extensions of its files and a function that outlines a source.  Comparisons
depend on nothing else.  A language is looked up by its name or by the extension of a file, and case
does not matter.
-/

namespace JavaDiff

/-- A language whose sources can be outlined. -/
structure Language where
  /-- The name of the language in lower case. -/
  name : String
  /-- The extensions of its files in lower case, without the point. -/
  extensions : List String
  /-- The outline of a source. -/
  outline : String → Except Error Outline

namespace Language

/-- The Java language. -/
def java : Language := ⟨"java", ["java"], Java.outline⟩

/-- Every language. -/
def all : List Language := [java]

/-- The outline of a revision.  The outline and any error carry its filename. -/
def outlineOf (language : Language) (revision : Revision) : Except Error Outline :=
  match language.outline revision.source with
  | .ok outline => .ok (outline.withFilename revision.filename)
  | .error error => .error (error.withFilename revision.filename)

/-- The language with a name, or that handles an extension. -/
def ofName (name : String) : Except Error Language :=
  let small := lowercase name
  match all.find? fun language => language.name == small || language.extensions.contains small with
  | some language => .ok language
  | none => .error (.unsupportedLanguage small)

/-- The language of a file. -/
def ofFilename (filename : String) : Except Error Language :=
  let language? := do
    let extension := lowercase (← FileName.extension? filename)
    all.find? (·.extensions.contains extension)
  match language? with
  | some language => .ok language
  | none => .error (.unsupportedLanguage filename)

/-- The language of a pair of revisions: that of the newer file, otherwise that of the older one. -/
def ofPair (base head : Revision) : Except Error Language :=
  match ofFilename head.filename with
  | .ok language => .ok language
  | .error _ => ofFilename base.filename

/-- The text of a method of a type in a source. -/
def methodText (language : Language) (type method source : String) : Except Error String := do
  let outline ← language.outline source
  match outline.types.get? type with
  | none => throw (.typeNotFound type)
  | some declared =>
    match declared.methods.get? method with
    | none => throw (.methodNotFound type method)
    | some found => return found.text

end Language

/-- The outline of a revision in the language of its filename. -/
def outlineRevision (revision : Revision) : Except Error Outline := do
  (← Language.ofFilename revision.filename).outlineOf revision

end JavaDiff
