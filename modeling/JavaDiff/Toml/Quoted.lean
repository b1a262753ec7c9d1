/-!
# TOML strings

A basic string stands between double quotes and has escapes, a literal string stands between single
quotes and has none.  Either may span lines when its quotes are tripled; up to two further quotes in
front of the closing ones still belong to the text.  Control characters other than the tab are
refused.
-/

namespace JavaDiff

namespace Toml

/-- The blanks inside a line. -/
def isBlank (character : Char) : Bool := character == ' ' || character == '\t'

/-- The characters that may stand in strings and comments as they are. -/
def isPrintable (character : Char) : Bool :=
  character == '\t' || (' ' ≤ character && character ≠ '\x7f')

/-- The text after a line feed, with or without a carriage return in front. -/
def behindNewline? : List Char → Option (List Char)
  | '\n' :: rest => some rest
  | '\r' :: '\n' :: rest => some rest
  | _ => none

/-- The value of a hexadecimal digit. -/
def hexDigit? (character : Char) : Option Nat :=
  if '0' ≤ character ∧ character ≤ '9' then some (character.toNat - '0'.toNat)
  else if 'a' ≤ character ∧ character ≤ 'f' then some (character.toNat - 'a'.toNat + 10)
  else if 'A' ≤ character ∧ character ≤ 'F' then some (character.toNat - 'A'.toNat + 10)
  else none

/-- The character with a code point written in hexadecimal. -/
def codePoint? (digits : List Char) : Option Char := do
  let code ← digits.foldlM (fun code digit => (hexDigit? digit).map (16 * code + ·)) 0
  if code < 0xD800 ∨ (0xDFFF < code ∧ code < 0x110000) then some (Char.ofNat code) else none

/-- The character that a letter behind a backslash stands for. -/
def shortEscape? : Char → Option Char
  | 'b' => some '\x08'
  | 't' => some '\t'
  | 'n' => some '\n'
  | 'f' => some '\x0c'
  | 'r' => some '\r'
  | '"' => some '"'
  | '\\' => some '\\'
  | _ => none

/-- A text with the text after it. -/
abbrev Split := Option (List Char × List Char)

/-- A split with one more character in front. -/
def Split.push (character : Char) (split : Split) : Split :=
  split.map fun parts => (character :: parts.1, parts.2)

/-- The text of a basic string behind its opening quote. -/
def basic? : List Char → Split
  | [] => none
  | '"' :: rest => some ([], rest)
  | '\\' :: 'u' :: a :: b :: c :: d :: rest => do
    let character ← codePoint? [a, b, c, d]
    (basic? rest).push character
  | '\\' :: 'U' :: a :: b :: c :: d :: e :: f :: g :: h :: rest => do
    let character ← codePoint? [a, b, c, d, e, f, g, h]
    (basic? rest).push character
  | '\\' :: letter :: rest => do
    let character ← shortEscape? letter
    (basic? rest).push character
  | character :: rest =>
    if character = '\\' ∨ ¬ isPrintable character then none else (basic? rest).push character

/-- The text of a literal string behind its opening quote. -/
def literal? : List Char → Split
  | [] => none
  | '\'' :: rest => some ([], rest)
  | character :: rest => if isPrintable character then (literal? rest).push character else none

/-- Whether only blanks stand in front of the end of the line. -/
def endsLine (text : List Char) : Bool := (behindNewline? (text.dropWhile isBlank)).isSome

/-- The text of a basic string over several lines, behind its opening quotes.  While `skipping`,
blanks and line ends are dropped, as they are behind a backslash that ends its line. -/
def multilineBasic? (skipping : Bool) : List Char → Split
  | [] => none
  | '"' :: '"' :: '"' :: '"' :: '"' :: rest => some (['"', '"'], rest)
  | '"' :: '"' :: '"' :: '"' :: rest => some (['"'], rest)
  | '"' :: '"' :: '"' :: rest => some ([], rest)
  | '\\' :: 'u' :: a :: b :: c :: d :: rest => do
    let character ← codePoint? [a, b, c, d]
    (multilineBasic? false rest).push character
  | '\\' :: 'U' :: a :: b :: c :: d :: e :: f :: g :: h :: rest => do
    let character ← codePoint? [a, b, c, d, e, f, g, h]
    (multilineBasic? false rest).push character
  | '\r' :: '\n' :: rest =>
    if skipping then multilineBasic? true rest else (multilineBasic? false rest).push '\n'
  | '\\' :: rest =>
    if endsLine rest then multilineBasic? true rest
    else match rest with
      | [] => none
      | letter :: rest => do
        let character ← shortEscape? letter
        (multilineBasic? false rest).push character
  | character :: rest =>
    if skipping ∧ (isBlank character ∨ character = '\n') then multilineBasic? true rest
    else if isPrintable character ∨ character = '\n' then
      (multilineBasic? false rest).push character
    else none

/-- The text of a literal string over several lines, behind its opening quotes. -/
def multilineLiteral? : List Char → Split
  | [] => none
  | '\'' :: '\'' :: '\'' :: '\'' :: '\'' :: rest => some (['\'', '\''], rest)
  | '\'' :: '\'' :: '\'' :: '\'' :: rest => some (['\''], rest)
  | '\'' :: '\'' :: '\'' :: rest => some ([], rest)
  | '\r' :: '\n' :: rest => (multilineLiteral? rest).push '\n'
  | character :: rest =>
    if isPrintable character ∨ character = '\n' then (multilineLiteral? rest).push character
    else none

/-- The text without a line end in front. -/
def dropNewline (text : List Char) : List Char := (behindNewline? text).getD text

/-- The text of a string of any form in front of a text, and the text after it. -/
def splitString? : List Char → Split
  | '"' :: '"' :: '"' :: rest => multilineBasic? false (dropNewline rest)
  | '"' :: rest => basic? rest
  | '\'' :: '\'' :: '\'' :: rest => multilineLiteral? (dropNewline rest)
  | '\'' :: rest => literal? rest
  | _ => none

end Toml

end JavaDiff
