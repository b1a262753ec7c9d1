import JavaDiff.Java.Delimiter
import JavaDiff.Java.Head

/-!
# Declarations

A head declares a type when it is no class literal and no annotation type and when the opening brace
of a body follows it.  Only a `{` may follow directly: a `;`, `}` or `(` in front of it shows that
the keyword meant something else.  A record has a component list in between, and its body opens after
that.  A declaration is complete when its body ends.
-/

namespace JavaDiff

namespace Java

open Ascii

/-- The bytes that end the search for the opening brace of a body. -/
def endsHead (byte : UInt8) : Bool :=
  byte == openBrace || byte == semicolon || byte == closeBrace || byte == openParen

/-- The offset of the first byte that ends a head, when that byte is `expected`. -/
def headEnd? (expected : UInt8) (bytes : List UInt8) (start : Nat) : Option Nat := do
  let offset ← nextOffset endsHead bytes start
  if bytes[offset]? = some expected then some offset else none

/-- The offset of the brace that opens the body of a record whose name ends at `start`.  A component
list or type parameters have to follow the name. -/
def recordOpening? (bytes : List UInt8) (start : Nat) : Option Nat := do
  let follower ← (bytes.drop start).find? (!isBlank ·)
  if follower = openParen ∨ follower = openAngle then
    let list ← headEnd? openParen bytes start
    let listEnd ← closingParen bytes list
    headEnd? openBrace bytes (listEnd + 1)
  else none

namespace Head

/-- Whether the last byte before the keyword that is no blank marks a class literal or an annotation
type. -/
def isQualified (head : Head) (bytes : List UInt8) : Bool :=
  match (bytes.take head.start).reverse.dropWhile isBlank with
  | [] => false
  | byte :: _ => byte == dot || byte == atSign

/-- The offset of the brace that opens the body of the declared type. -/
def opening? (head : Head) (bytes : List UInt8) : Option Nat :=
  if head.isQualified bytes then none
  else match head.kind with
    | .recordType => recordOpening? bytes head.stop
    | _ => headEnd? openBrace bytes head.stop

end Head

/-- A head with the body that it opens. -/
structure Declaration where
  /-- The head of the declaration. -/
  head : Head
  /-- The offset of the brace that opens the body. -/
  opening : Nat
  /-- The offset of the brace that closes the body, if the body ends. -/
  closing? : Option Nat
deriving DecidableEq

/-- The declarations in a masked source, in the order of their keywords. -/
def declarations (masked : List Char) : List Declaration :=
  let bytes := Utf8.encode masked
  (heads masked).filterMap fun head =>
    (head.opening? bytes).map fun opening => ⟨head, opening, closingBrace bytes opening⟩

end Java

end JavaDiff
