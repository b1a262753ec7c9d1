import JavaDiff.Json.Basic

/-!
# Writing JSON

A value is written on one line without blanks, or with each element and member on a line of its own,
indented by two spaces for each array and object around it.  Empty arrays and objects stay on one
line.  In strings, quotes, backslashes and control characters are escaped.
-/

namespace JavaDiff

namespace Json

/-- Whether a value is written on one line or on several. -/
inductive Spacing where
  /-- Everything on one line without blanks. -/
  | compact
  /-- Each element and member on a line of its own. -/
  | indented
deriving DecidableEq, Repr

namespace Spacing

/-- What separates neighbouring elements at a depth. -/
def lineBreak (depth : Nat) : Spacing → List Char
  | compact => []
  | indented => '\n' :: List.replicate (2 * depth) ' '

/-- What stands between a key and its value. -/
def colon : Spacing → List Char
  | compact => [':']
  | indented => [':', ' ']

end Spacing

/-- The lower-case hexadecimal digit of a number below sixteen. -/
def hexDigit (number : Nat) : Char :=
  if number < 10 then Char.ofNat (48 + number) else Char.ofNat (87 + number)

/-- A character as it is written in a string. -/
def escape (character : Char) : List Char :=
  if character = '"' then ['\\', '"']
  else if character = '\\' then ['\\', '\\']
  else if character = '\x08' then ['\\', 'b']
  else if character = '\x0c' then ['\\', 'f']
  else if character = '\n' then ['\\', 'n']
  else if character = '\r' then ['\\', 'r']
  else if character = '\t' then ['\\', 't']
  else if character < ' ' then
    ['\\', 'u', '0', '0', hexDigit (character.toNat / 16), hexDigit (character.toNat % 16)]
  else [character]

/-- A string literal. -/
def quoted (text : String) : List Char := '"' :: text.toList.flatMap escape ++ ['"']

/-- A string literal, which is empty when it has no text. -/
def quoted? (text? : Option String) : List Char := quoted (text?.getD "")

mutual

/-- The characters of a value at a depth. -/
def write (spacing : Spacing) (depth : Nat) : Json → List Char
  | null => "null".toList
  | bool true => "true".toList
  | bool false => "false".toList
  | number numeral => numeral.text
  | string text? => quoted? text?
  | array [] => ['[', ']']
  | array (element :: rest) =>
    '[' :: spacing.lineBreak (depth + 1) ++ write spacing (depth + 1) element ++
      writeElements spacing (depth + 1) rest ++ spacing.lineBreak depth ++ [']']
  | object [] => ['\x7b', '\x7d']
  | object ((key?, value) :: rest) =>
    '\x7b' :: spacing.lineBreak (depth + 1) ++ quoted? key? ++ spacing.colon ++
      write spacing (depth + 1) value ++ writeMembers spacing (depth + 1) rest ++
      spacing.lineBreak depth ++ ['\x7d']

/-- The characters of the elements after the first. -/
def writeElements (spacing : Spacing) (depth : Nat) : List Json → List Char
  | [] => []
  | element :: rest =>
    ',' :: spacing.lineBreak depth ++ write spacing depth element ++
      writeElements spacing depth rest

/-- The characters of the members after the first. -/
def writeMembers (spacing : Spacing) (depth : Nat) : List (Option String × Json) → List Char
  | [] => []
  | (key?, value) :: rest =>
    ',' :: spacing.lineBreak depth ++ quoted? key? ++ spacing.colon ++
      write spacing depth value ++ writeMembers spacing depth rest

end

/-- The text of a value. -/
def text (value : Json) (spacing : Spacing) : String := String.ofList (value.write spacing 0)

end Json

end JavaDiff
