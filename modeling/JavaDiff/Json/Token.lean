import JavaDiff.Number.Numeral

/-!
# JSON tokens

The text of a JSON value is a sequence of punctuation marks, words, numbers and strings with blanks
between them.  `JsonToken.ofText?` divides a text into tokens; it fails at the first place where none
starts.
-/

namespace JavaDiff

/-- A token of a JSON text. -/
inductive JsonToken where
  /-- The mark `[`. -/
  | openArray
  /-- The mark `]`. -/
  | closeArray
  /-- The mark `{`. -/
  | openObject
  /-- The mark `}`. -/
  | closeObject
  /-- The mark `,`. -/
  | comma
  /-- The mark `:`. -/
  | colon
  /-- The word `null`. -/
  | null
  /-- The words `true` and `false`. -/
  | bool (value : Bool)
  /-- A number. -/
  | number (numeral : Numeral)
  /-- A string, which has no text when an escaped surrogate stands alone. -/
  | string (text? : Option String)
deriving DecidableEq

/-- A piece of a string literal. -/
inductive StringPiece where
  /-- A character, written as itself or by a short escape. -/
  | character (value : Char)
  /-- A UTF-16 code unit written in hexadecimal. -/
  | unit (value : Nat)
deriving DecidableEq

namespace StringPiece

/-- Whether a code unit is the first of a surrogate pair. -/
def isHigh (unit : Nat) : Bool := 0xD800 ≤ unit && unit < 0xDC00

/-- Whether a code unit is the second of a surrogate pair. -/
def isLow (unit : Nat) : Bool := 0xDC00 ≤ unit && unit < 0xE000

/-- The character of a surrogate pair. -/
def ofPair (high low : Nat) : Char :=
  Char.ofNat (0x10000 + (high - 0xD800) * 0x400 + (low - 0xDC00))

/-- The characters that some pieces stand for.  There are none when a surrogate has no partner. -/
def join? : List StringPiece → Option (List Char)
  | [] => some []
  | character value :: rest => (join? rest).map (value :: ·)
  | unit high :: unit low :: rest =>
    if isHigh high then
      if isLow low then (join? rest).map (ofPair high low :: ·) else none
    else if isLow high then none
    else (join? (unit low :: rest)).map (Char.ofNat high :: ·)
  | unit value :: rest =>
    if isHigh value || isLow value then none else (join? rest).map (Char.ofNat value :: ·)

/-- The value of a hexadecimal digit. -/
def hexDigit? (character : Char) : Option Nat :=
  if '0' ≤ character ∧ character ≤ '9' then some (character.toNat - '0'.toNat)
  else if 'a' ≤ character ∧ character ≤ 'f' then some (character.toNat - 'a'.toNat + 10)
  else if 'A' ≤ character ∧ character ≤ 'F' then some (character.toNat - 'A'.toNat + 10)
  else none

/-- The number written by some hexadecimal digits. -/
def hexValue? (digits : List Char) : Option Nat :=
  digits.foldlM (fun number digit => (hexDigit? digit).map (16 * number + ·)) 0

/-- The character that a letter behind a backslash stands for. -/
def shortEscape? : Char → Option Char
  | '"' => some '"'
  | '\\' => some '\\'
  | '/' => some '/'
  | 'b' => some '\x08'
  | 'f' => some '\x0c'
  | 'n' => some '\n'
  | 'r' => some '\r'
  | 't' => some '\t'
  | _ => none

/-- The pieces of a string literal behind its opening quote, and the text after its closing quote.
A control character has to be escaped. -/
def split? : List Char → Option (List StringPiece × List Char)
  | [] => none
  | '"' :: rest => some ([], rest)
  | '\\' :: 'u' :: a :: b :: c :: d :: rest => do
    let value ← hexValue? [a, b, c, d]
    let (pieces, rest) ← split? rest
    return (unit value :: pieces, rest)
  | '\\' :: letter :: rest => do
    let value ← shortEscape? letter
    let (pieces, rest) ← split? rest
    return (character value :: pieces, rest)
  | value :: rest =>
    if value = '\\' ∨ value < ' ' then none
    else (split? rest).map fun parts => (character value :: parts.1, parts.2)

theorem length_split? {text : List Char} {pieces : List StringPiece} {rest : List Char}
    (hsplit : split? text = some (pieces, rest)) : rest.length < text.length := by
  induction text using split?.induct generalizing pieces with
  | case1 => simp [split?] at hsplit
  | case2 text =>
    obtain ⟨-, rfl⟩ : [] = pieces ∧ text = rest := by simpa [split?] using hsplit
    simp
  | case3 a b c d text ih =>
    simp only [split?, Option.bind_eq_bind, Option.bind_eq_some_iff, Option.pure_def,
      Option.some.injEq, Prod.mk.injEq] at hsplit
    obtain ⟨value, -, ⟨tail, others⟩, htail, -, rfl⟩ := hsplit
    have hless : others.length < text.length := ih htail
    simp only [List.length_cons]
    omega
  | case4 letter text hunit ih =>
    rw [split?.eq_4 _ _ hunit] at hsplit
    simp only [Option.bind_eq_bind, Option.bind_eq_some_iff, Option.pure_def,
      Option.some.injEq, Prod.mk.injEq] at hsplit
    obtain ⟨value, -, ⟨tail, others⟩, htail, -, rfl⟩ := hsplit
    have hless : others.length < text.length := ih htail
    simp only [List.length_cons]
    omega
  | case5 value text hquote hunit hescape hbad =>
    rw [split?.eq_5 _ _ hquote hunit hescape] at hsplit
    simp [hbad] at hsplit
  | case6 value text hquote hunit hescape hgood ih =>
    rw [split?.eq_5 _ _ hquote hunit hescape, if_neg hgood] at hsplit
    obtain ⟨⟨tail, others⟩, htail, hparts⟩ := Option.map_eq_some_iff.mp hsplit
    obtain ⟨-, rfl⟩ := Prod.mk.inj hparts
    have hless : others.length < text.length := ih htail
    simp only [List.length_cons]
    omega

end StringPiece

namespace JsonToken

/-- The blanks between tokens. -/
def isBlank (character : Char) : Bool :=
  character == ' ' || character == '\n' || character == '\t' || character == '\r'

/-- The characters of numbers. -/
def isNumeric (character : Char) : Bool :=
  character.isDigit || character == '-' || character == '+' || character == '.' ||
    character == 'e' || character == 'E'

/-- The token that a punctuation mark is. -/
def ofMark? : Char → Option JsonToken
  | '[' => some openArray
  | ']' => some closeArray
  | '{' => some openObject
  | '}' => some closeObject
  | ',' => some comma
  | ':' => some colon
  | _ => none

/-- The token that a word is. -/
def ofWord? (word : List Char) : Option JsonToken :=
  if word = "null".toList then some null
  else if word = "true".toList then some (bool true)
  else if word = "false".toList then some (bool false)
  else none

theorem length_dropWhile_lt {property : Char → Bool} {first : Char} (rest : List Char)
    (hfirst : property first = true) :
    ((first :: rest).dropWhile property).length < (first :: rest).length := by
  rw [List.dropWhile_cons_of_pos hfirst]
  have hle := (List.dropWhile_suffix property (l := rest)).length_le
  simp only [List.length_cons]
  omega

/-- The tokens of a text. -/
def ofText? : List Char → Option (List JsonToken)
  | [] => some []
  | first :: rest =>
    if isBlank first then ofText? rest
    else if first = '"' then
      match hsplit : StringPiece.split? rest with
      | none => none
      | some (pieces, after) =>
        have hless := StringPiece.length_split? hsplit
        (ofText? after).map (string ((StringPiece.join? pieces).map String.ofList) :: ·)
    else if hnumber : first.isDigit ∨ first = '-' then do
      have hnumeric : isNumeric first = true := by
        rcases hnumber with hdigit | rfl
        · simp [isNumeric, hdigit]
        · rfl
      have hless := length_dropWhile_lt rest hnumeric
      let numeral ← Numeral.ofText? ((first :: rest).takeWhile isNumeric)
      let tokens ← ofText? ((first :: rest).dropWhile isNumeric)
      return number numeral :: tokens
    else if hletter : first.isAlpha then do
      have hless := length_dropWhile_lt rest hletter
      let word ← ofWord? ((first :: rest).takeWhile Char.isAlpha)
      let tokens ← ofText? ((first :: rest).dropWhile Char.isAlpha)
      return word :: tokens
    else do
      let mark ← ofMark? first
      let tokens ← ofText? rest
      return mark :: tokens
termination_by text => text.length
decreasing_by all_goals (simp_all <;> omega)

end JsonToken

end JavaDiff
