import JavaDiff.Error
import JavaDiff.Java.Declaration
import JavaDiff.Java.Mask
import JavaDiff.Java.Member
import JavaDiff.Text.Line

/-!
# The outline of a Java source

Places are found in the masked source, and texts are cut from the source itself, so every type and
method is kept exactly as written.  A declaration without a closing brace is left out with a note, and
of several declarations with one name the last is kept with a note.  A source that holds more than
blanks but yields no type is an error.
-/

namespace JavaDiff

namespace Java

/-- The text of a source between two offsets. -/
def cut (source : List Char) (start stop : Nat) : Except Error String :=
  match Utf8.cut? source start stop with
  | some text => .ok (String.ofList text)
  | none => .error .splitCharacter

/-- The method at a span of a source. -/
def methodOf (source : List Char) (lines : LineIndex) (owner : String) (span : MethodSpan) :
    Except Error Method := do
  let name ← cut source span.start span.nameStop
  let text ← cut source span.start (span.close + 1)
  return {
    name, owner, text
    startLine := lines.lineOf span.start
    endLine := lines.lineOf span.close
    startByte := span.start }

/-- The offset at which the members of a body start.  The constants of an enumeration come first, up
to a `;`, and an enumeration without one has no members. -/
def membersStart? (kind : TypeKind) (bytes : List UInt8) (opening close : Nat) : Option Nat :=
  match kind with
  | .enumType =>
    (membersDistance? 0 ((bytes.take close).drop (opening + 1))).map (opening + 1 + ·)
  | _ => some (opening + 1)

/-- The spans of the methods in the body between two braces. -/
def bodyMethodSpans (kind : TypeKind) (bytes : List UInt8) (opening close : Nat) :
    List MethodSpan :=
  match membersStart? kind bytes opening close with
  | some start => methodSpans bytes start close
  | none => []

/-- The type that a head declares with the body between two braces of the masked bytes. -/
def typeOf (source : List Char) (bytes : List UInt8) (lines : LineIndex) (head : Head)
    (opening close : Nat) : Except Error DeclaredType := do
  let text ← cut source head.start (close + 1)
  let methods ← (bodyMethodSpans head.kind bytes opening close).mapM
    (methodOf source lines head.name)
  return {
    name := head.name
    filename := unnamedSource
    kind := head.kind
    text
    startLine := lines.lineOf head.start
    endLine := lines.lineOf close
    startByte := head.start
    methods := .ofList (methods.map fun method => (method.name, method)) }

/-- The note about a declaration whose body does not end. -/
def unclosedIssue (lines : LineIndex) (head : Head) : Issue :=
  ⟨lines.lineOf head.start, s!"{head.kind.keyword} '{head.name}' has no closing brace"⟩

/-- The note about a declaration that takes the place of an earlier one. -/
def duplicateIssue (earlier later : DeclaredType) : Issue :=
  ⟨later.startLine, s!"class name '{earlier.name}' declared more than once; " ++
    s!"keeping the declaration at line {later.startLine} over line {earlier.startLine}"⟩

/-- The outline after one more type. -/
def addType (outline : Outline) (type : DeclaredType) : Outline :=
  { outline with
    types := outline.types.insert type.name type
    issues := match outline.types.get? type.name with
      | some earlier => outline.issues ++ [duplicateIssue earlier type]
      | none => outline.issues }

/-- The error for a source without a complete declaration. -/
def noTypeError (issues : List Issue) : Error :=
  match issues with
  | [] => .inSource none "no class declarations found"
  | issue :: _ => .inSource (some issue.line) s!"no class could be recovered: {issue.message}"

/-- The outline of the declarations of a source. -/
def outlineOf (source : List Char) (bytes : List UInt8) (declarations : List Declaration) :
    Except Error Outline := do
  let lines := LineIndex.ofBytes (Utf8.encode source)
  let unclosed := declarations.filter (·.closing?.isNone)
  let closed := declarations.filterMap fun declaration =>
    declaration.closing?.map (declaration.head, declaration.opening, ·)
  let types ← closed.mapM fun (head, opening, close) =>
    typeOf source bytes lines head opening close
  let start : Outline :=
    { Outline.empty unnamedSource with
      issues := unclosed.map fun declaration => unclosedIssue lines declaration.head }
  let outline := types.foldl addType start
  if outline.isEmpty then throw (noTypeError outline.issues) else return outline

/-- The outline of a Java source. -/
def outline (source : String) : Except Error Outline :=
  if source.toList.all Blank.isBlank then .ok (.empty unnamedSource)
  else
    let masked := (mask source).toList
    outlineOf source.toList (Utf8.encode masked) (declarations masked)

end Java

end JavaDiff
