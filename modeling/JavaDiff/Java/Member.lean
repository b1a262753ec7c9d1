import JavaDiff.Java.Delimiter
import JavaDiff.Text.Utf8

/-!
# Method spans

A method is recognised at the parenthesis that opens its parameters, at the nesting depth of the type
body itself.  In front of the parenthesis stands the name, in front of the name the end of a modifier,
a type, an annotation or the previous member.  After the parameters comes the body, possibly behind a
`throws` clause.  The search works on masked bytes with the bytes already passed kept in reverse, and
goes on after the body of each method found.
-/

namespace JavaDiff

namespace Java

open Ascii

/-- The words that stand in front of a parenthesis without naming a method. -/
def reservedWords : List (List UInt8) :=
  ["if", "for", "while", "switch", "catch", "synchronized", "return", "new", "throw", "else", "do",
    "try", "super", "this", "assert", "case"].map (Utf8.encode ·.toList)

/-- The words that make a name and its parentheses an instance creation or a record. -/
def introducingWords : List (List UInt8) := ["new", "record"].map (Utf8.encode ·.toList)

/-- The word that starts the list of exceptions of a method. -/
def throwsWord : List UInt8 := Utf8.encode "throws".toList

/-- The bytes that may stand in front of a method name, blanks aside. -/
def mayPrecedeName (byte : UInt8) : Bool :=
  isIdentifier byte || byte == closeAngle || byte == closeBracket || byte == closeParen ||
    byte == semicolon || byte == openBrace || byte == closeBrace

/-- An identifier at the end of some bytes, with what surrounds it. -/
structure LastIdentifier where
  /-- The bytes of the identifier. -/
  word : List UInt8
  /-- The bytes in front of it, in reverse. -/
  before : List UInt8
  /-- The number of blanks after it. -/
  blanks : Nat
deriving DecidableEq

/-- The identifier that ends some bytes, given in reverse, up to blanks.  A run that starts with a
digit is no identifier. -/
def lastIdentifier? (before : List UInt8) : Option LastIdentifier :=
  let trimmed := before.dropWhile isBlank
  let word := (trimmed.takeWhile isIdentifier).reverse
  match word with
  | [] => none
  | first :: _ =>
    if isDigit first then none
    else some ⟨word, trimmed.dropWhile isIdentifier, (before.takeWhile isBlank).length⟩

/-- Whether the bytes in front of a name, given in reverse, allow it to name a method. -/
def allowsName (before : List UInt8) : Bool :=
  match before.dropWhile isBlank with
  | [] => true
  | byte :: _ =>
    mayPrecedeName byte &&
      match lastIdentifier? before with
      | some identifier => !introducingWords.contains identifier.word
      | none => true

/-- The bytes that end a `throws` clause. -/
def endsThrows (byte : UInt8) : Bool :=
  byte == openBrace || byte == semicolon || byte == closeBrace || byte == openParen ||
    byte == equals

/-- The number of bytes between a parameter list and the brace that opens the body after it. -/
def bodyDistance? (bytes : List UInt8) : Option Nat :=
  let blanks := (bytes.takeWhile isBlank).length
  let trimmed := bytes.dropWhile isBlank
  match trimmed with
  | [] => none
  | first :: _ =>
    if isIdentifier first && !isDigit first then
      let clause := trimmed.dropWhile isIdentifier
      if trimmed.takeWhile isIdentifier = throwsWord then do
        let distance ← clause.findIdx? endsThrows
        if clause[distance]? = some openBrace then some (blanks + throwsWord.length + distance)
        else none
      else none
    else if first = openBrace then some blanks
    else none

/-- The offsets of a method in a source. -/
structure MethodSpan where
  /-- The offset of the name. -/
  start : Nat
  /-- The offset after the name. -/
  nameStop : Nat
  /-- The offset of the parenthesis that opens the parameters. -/
  paren : Nat
  /-- The offset of the brace that closes the body. -/
  close : Nat
deriving DecidableEq

/-- The method whose parameters open with the parenthesis at `offset`, between the bytes `before`, in
reverse, and `rest`. -/
def methodAt? (before : List UInt8) (offset : Nat) (rest : List UInt8) : Option MethodSpan := do
  let name ← lastIdentifier? before
  if reservedWords.contains name.word || !allowsName name.before then none
  else
    let listEnd ← closingFrom openParen closeParen 0 (offset + 1) rest
    let distance ← bodyDistance? (rest.drop (listEnd - offset))
    let opening := listEnd + 1 + distance
    let close ← closingFrom openBrace closeBrace 0 (opening + 1) (rest.drop (opening - offset))
    let nameStop := offset - name.blanks
    return ⟨nameStop - name.word.length, nameStop, offset, close⟩

/-- The methods at depth zero in the bytes from `offset` on, inside `depth` blocks.  The bytes before
are given in reverse, and the next `skip` bytes belong to the last method found. -/
def methodSpansFrom (skip depth : Nat) (before : List UInt8) (offset : Nat) :
    List UInt8 → List MethodSpan
  | [] => []
  | byte :: rest =>
    match skip with
    | skip + 1 => methodSpansFrom skip depth (byte :: before) (offset + 1) rest
    | 0 =>
      if byte = openBrace then methodSpansFrom 0 (depth + 1) (byte :: before) (offset + 1) rest
      else if byte = closeBrace then
        methodSpansFrom 0 (depth - 1) (byte :: before) (offset + 1) rest
      else if byte = openParen ∧ depth = 0 then
        match methodAt? before offset rest with
        | some method =>
          method :: methodSpansFrom (method.close - offset) 0 (byte :: before) (offset + 1) rest
        | none => methodSpansFrom 0 0 (byte :: before) (offset + 1) rest
      else methodSpansFrom 0 depth (byte :: before) (offset + 1) rest

/-- The number of bytes up to and including the first `;` outside all brackets, inside `depth` of
them. -/
def membersDistance? (depth : Nat) : List UInt8 → Option Nat
  | [] => none
  | byte :: rest =>
    if byte = openBrace ∨ byte = openParen then
      (membersDistance? (depth + 1) rest).map (· + 1)
    else if byte = closeBrace ∨ byte = closeParen then
      (membersDistance? (depth - 1) rest).map (· + 1)
    else if byte = semicolon ∧ depth = 0 then some 1
    else (membersDistance? depth rest).map (· + 1)

/-- The methods between the offset `start` and the closing brace at `close`. -/
def methodSpans (bytes : List UInt8) (start close : Nat) : List MethodSpan :=
  methodSpansFrom 0 0 (bytes.take start).reverse start ((bytes.take close).drop start)

end Java

end JavaDiff
