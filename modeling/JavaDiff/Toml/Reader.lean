import JavaDiff.Toml.Quoted
import JavaDiff.Toml.Scalar

/-!
# Reading TOML

A document is a sequence of lines.  A line is empty, holds a pair of a key and a value, or is the
header of a section; a comment may end it.  An array may span lines and end with a comma, an inline
table may not.  Values nest at most `nestingLimit` deep and keys have at most that many parts.
-/

namespace JavaDiff

namespace Toml

/-- The greatest number of arrays and inline tables inside one another, and of parts of a key. -/
def nestingLimit : Nat := 79

/-- The text without the blanks in front. -/
def dropBlanks (text : List Char) : List Char := text.dropWhile isBlank

/-- The text without the comment in front. -/
def dropComment : List Char → List Char
  | '#' :: rest => rest.dropWhile isPrintable
  | text => text

/-- The text of the lines after this one, when nothing but a comment is left on it. -/
def nextLine? (text : List Char) : Option (List Char) :=
  match dropComment (dropBlanks text) with
  | [] => some []
  | rest => behindNewline? rest

/-- The characters of keys without quotes. -/
def isBare (character : Char) : Bool :=
  character.isAlphanum || character == '_' || character == '-'

/-- The part of a key in front of a text, and the text after it. -/
def keyPart? (text : List Char) : Option (String × List Char) :=
  match text with
  | '"' :: rest => (basic? rest).map fun parts => (String.ofList parts.1, parts.2)
  | '\'' :: rest => (literal? rest).map fun parts => (String.ofList parts.1, parts.2)
  | text =>
    let bare := text.takeWhile isBare
    if bare = [] then none else some (String.ofList bare, text.dropWhile isBare)

/-- The parts of a key in front of a text, at most `fuel` of them, and the text after it. -/
def keyParts? : Nat → List Char → Option (List String × List Char)
  | 0, _ => none
  | fuel + 1, text => do
    let (part, rest) ← keyPart? (dropBlanks text)
    match dropBlanks rest with
    | '.' :: rest => do
      let (parts, rest) ← keyParts? fuel rest
      return (part :: parts, rest)
    | rest => return ([part], rest)

/-- The key in front of a text and an equals sign, divided into its path and its last part, and the
text after the sign. -/
def splitKey? (text : List Char) : Option ((List String × String) × List Char) := do
  let (parts, rest) ← keyParts? nestingLimit text
  match parts.reverse, rest with
  | key :: path, '=' :: rest => return ((path.reverse, key), dropBlanks rest)
  | _, _ => none

/-- The text behind blanks, line ends and comments, of which there are at most `fuel`. -/
def dropLines : Nat → List Char → List Char
  | 0, text => text
  | fuel + 1, text =>
    match dropBlanks text with
    | '#' :: rest => dropLines fuel (dropComment ('#' :: rest))
    | rest => match behindNewline? rest with
      | some rest => dropLines fuel rest
      | none => rest

mutual

/-- The value in front of a text inside `depth` arrays and inline tables, and the text after it.  The
fuel bounds the number of steps. -/
def value? (fuel depth : Nat) (text : List Char) : Option (Toml × List Char) :=
  match fuel with
  | 0 => none
  | fuel + 1 =>
    match text with
    | '[' :: rest =>
      if depth < nestingLimit then do
        let (elements, rest) ← elements? fuel (depth + 1) rest
        return (array elements, rest)
      else none
    | '\x7b' :: rest =>
      if depth < nestingLimit then
        match dropBlanks rest with
        | '\x7d' :: rest => some (table .inline [], rest)
        | rest => do
          let (pairs, rest) ← pairs? fuel (depth + 1) rest
          let entries ← insertPairs? [] pairs
          return (table .inline entries, rest)
      else none
    | '"' :: _ => (splitString? text).map fun parts => (string (String.ofList parts.1), parts.2)
    | '\'' :: _ => (splitString? text).map fun parts => (string (String.ofList parts.1), parts.2)
    | _ => splitScalar? text

/-- The elements of an array up to its closing bracket, and the text after it. -/
def elements? (fuel depth : Nat) (text : List Char) : Option (List Toml × List Char) :=
  match fuel with
  | 0 => none
  | fuel + 1 =>
    match dropLines text.length text with
    | ']' :: rest => some ([], rest)
    | start => do
      let (element, rest) ← value? fuel depth start
      match dropLines rest.length rest with
      | ']' :: rest => return ([element], rest)
      | ',' :: rest => do
        let (elements, rest) ← elements? fuel depth rest
        return (element :: elements, rest)
      | _ => none

/-- The pairs of an inline table up to its closing brace, and the text after it. -/
def pairs? (fuel depth : Nat) (text : List Char) : Option (List Pair × List Char) :=
  match fuel with
  | 0 => none
  | fuel + 1 => do
    let ((path, key), rest) ← splitKey? text
    let (value, rest) ← value? fuel depth rest
    match dropBlanks rest with
    | '\x7d' :: rest => return ([⟨path, key, value⟩], rest)
    | ',' :: rest => do
      let (pairs, rest) ← pairs? fuel depth rest
      return (⟨path, key, value⟩ :: pairs, rest)
    | _ => none

end

/-- The header in front of a text, behind its first bracket, and the text after it. -/
def splitHeader? (text : List Char) : Option (Header × List Char) :=
  match text with
  | '[' :: text => do
    let (parts, rest) ← keyParts? nestingLimit text
    match rest with
    | ']' :: ']' :: rest => return (.element parts, rest)
    | _ => none
  | text => do
    let (parts, rest) ← keyParts? nestingLimit text
    match rest with
    | ']' :: rest => return (.table parts, rest)
    | _ => none

/-- A line that is not empty. -/
inductive Line where
  /-- A pair of a key and a value. -/
  | pair (pair : Pair)
  /-- The header of a section. -/
  | header (header : Header)

/-- The line in front of a text, and the text after it. -/
def splitLine? (text : List Char) : Option (Line × List Char) :=
  match text with
  | '[' :: rest => do
    let (header, rest) ← splitHeader? rest
    return (.header header, ← nextLine? rest)
  | text => do
    let ((path, key), rest) ← splitKey? text
    let (value, rest) ← value? (2 * rest.length + 1) 0 rest
    return (.pair ⟨path, key, value⟩, ← nextLine? rest)

/-- The lines of a text that are not empty.  There are at most `fuel` of them. -/
def lines? : Nat → List Char → Option (List Line)
  | fuel, text =>
    match dropLines text.length text with
    | [] => some []
    | rest =>
      match fuel with
      | 0 => none
      | fuel + 1 => do
        let (line, rest) ← splitLine? rest
        return line :: (← lines? fuel rest)

/-- The pairs above the first header, and the sections below. -/
def sections : List Line → List Pair × List (Header × List Pair)
  | [] => ([], [])
  | .pair pair :: rest => (pair :: (sections rest).1, (sections rest).2)
  | .header header :: rest => ([], (header, (sections rest).1) :: (sections rest).2)

/-- The entries of the root table of a document. -/
def ofText? (text : String) : Option Entries := do
  let characters := match text.toList with
    | '\uFEFF' :: rest => rest
    | characters => characters
  let (pairs, sections) := sections (← lines? characters.length characters)
  sections.foldlM (fun document part => addSection? document part.1 part.2)
    (← insertPairs? [] pairs)

end Toml

end JavaDiff
