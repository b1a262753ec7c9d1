import JavaDiff.Number.Decimal
import JavaDiff.Toml.Basic

/-!
# TOML numbers, truth values and dates

These values are written without quotes and consist of ASCII letters, digits and a few marks, so each
is read from the whole run of such characters.  Underscores may stand between digits.
-/

namespace JavaDiff

namespace Toml

/-- The characters of the values without quotes. -/
def isScalar (character : Char) : Bool :=
  character.isAlphanum || character == '+' || character == '-' || character == '.' ||
    character == '_' || character == ':'

/-- The digit below a base that a character stands for. -/
def digitBelow? (base : Nat) (character : Char) : Option Nat :=
  let value? :=
    if character.isDigit then some (character.toNat - '0'.toNat)
    else if 'a' ≤ character ∧ character ≤ 'f' then some (character.toNat - 'a'.toNat + 10)
    else if 'A' ≤ character ∧ character ≤ 'F' then some (character.toNat - 'A'.toNat + 10)
    else none
  value?.filter (· < base)

/-- The digits that fill a text.  An underscore has to stand between two digits, which `afterDigit`
says of the place in front of the text. -/
def digits? (base : Nat) (afterDigit : Bool) : List Char → Option (List Nat)
  | [] => if afterDigit then some [] else none
  | '_' :: rest => if afterDigit then digits? base false rest else none
  | character :: rest => do
    let digit ← digitBelow? base character
    return digit :: (← digits? base true rest)

/-- The number with some digits. -/
def numberOf (base : Nat) (digits : List Nat) : Nat :=
  digits.foldl (fun number digit => base * number + digit) 0

/-- Whether a number is in the range of integers. -/
def isInteger (value : Int) : Bool :=
  -(Nat.pow 2 63 : Int) ≤ value && value < (Nat.pow 2 63 : Int)

/-- The sign in front of a text, and the text after it. -/
def splitSign : List Char → Bool × List Char
  | '-' :: rest => (true, rest)
  | '+' :: rest => (false, rest)
  | text => (false, text)

/-- The decimal digits that fill a text without a needless leading zero. -/
def wholeDigits? (text : List Char) : Option (List Nat) := do
  let digits ← digits? 10 false text
  if digits.head? = some 0 ∧ text.length ≠ 1 then none else some digits

/-- The integer that fills a text. -/
def integer? (text : List Char) : Option Int := do
  let value ← match text with
    | '0' :: 'x' :: rest => (digits? 16 false rest).map fun digits => (numberOf 16 digits : Int)
    | '0' :: 'o' :: rest => (digits? 8 false rest).map fun digits => (numberOf 8 digits : Int)
    | '0' :: 'b' :: rest => (digits? 2 false rest).map fun digits => (numberOf 2 digits : Int)
    | text =>
      let (negative, rest) := splitSign text
      (wholeDigits? rest).map fun digits =>
        if negative then -(numberOf 10 digits : Int) else numberOf 10 digits
  if isInteger value then some value else none

/-- The exponent that fills a text. -/
def exponent? (text : List Char) : Option Int :=
  let (negative, rest) := splitSign text
  (digits? 10 false rest).map fun digits =>
    if negative then -(numberOf 10 digits : Int) else numberOf 10 digits

/-- Whether a character starts an exponent. -/
def isExponentMark (character : Char) : Bool := character == 'e' || character == 'E'

/-- The floating-point number that fills a text.  A fraction or an exponent has to be there, and a
positive number may not be too large. -/
def float? (text : List Char) : Option Double :=
  let (negative, rest) := splitSign text
  if rest = "inf".toList then some (.infinite negative)
  else if rest = "nan".toList then some .nan
  else do
    let mantissa := rest.takeWhile (!isExponentMark ·)
    let exponentText := rest.dropWhile (!isExponentMark ·)
    let exponent ← if exponentText = [] then some 0 else exponent? (exponentText.drop 1)
    let fractionText := mantissa.dropWhile (· ≠ '.')
    let whole ← wholeDigits? (mantissa.takeWhile (· ≠ '.'))
    let fraction ← if fractionText = [] then some [] else digits? 10 false (fractionText.drop 1)
    if exponentText = [] ∧ fractionText = [] then none
    else
      let value := Binary.ofDecimal negative
        ⟨numberOf 10 (whole ++ fraction), exponent - fraction.length⟩
      if value = .infinite false then none else some value

/-- The number written with exactly the given count of digits in front of a text, and the text after
them. -/
def fixedNumber? (count : Nat) (text : List Char) : Option (Nat × List Char) :=
  let digits := text.take count
  if digits.length = count ∧ digits.all Char.isDigit then
    some (digits.foldl (fun number digit => 10 * number + (digit.toNat - '0'.toNat)) 0,
      text.drop count)
  else none

/-- The text behind a mark. -/
def behind? (mark : Char) : List Char → Option (List Char)
  | character :: rest => if character = mark then some rest else none
  | [] => none

/-- The number of days of a month. -/
def daysOfMonth (year month : Nat) : Nat :=
  if month = 2 then
    if year % 4 = 0 ∧ (year % 100 ≠ 0 ∨ year % 400 = 0) then 29 else 28
  else if month = 4 ∨ month = 6 ∨ month = 9 ∨ month = 11 then 30
  else 31

/-- The text after a date. -/
def afterDate? (text : List Char) : Option (List Char) := do
  let (year, text) ← fixedNumber? 4 text
  let (month, text) ← fixedNumber? 2 (← behind? '-' text)
  let (day, text) ← fixedNumber? 2 (← behind? '-' text)
  if 1 ≤ month ∧ month ≤ 12 ∧ 1 ≤ day ∧ day ≤ daysOfMonth year month then some text else none

/-- The text after an hour and a minute. -/
def afterHourMinute? (text : List Char) : Option (List Char) := do
  let (hour, text) ← fixedNumber? 2 text
  let (minute, text) ← fixedNumber? 2 (← behind? ':' text)
  if hour ≤ 23 ∧ minute ≤ 59 then some text else none

/-- The text after a time of day. -/
def afterTime? (text : List Char) : Option (List Char) := do
  let (second, text) ← fixedNumber? 2 (← behind? ':' (← afterHourMinute? text))
  if 60 < second then none
  else match text with
    | '.' :: rest =>
      if rest.takeWhile Char.isDigit = [] then none else some (rest.dropWhile Char.isDigit)
    | text => some text

/-- Whether a text is a distance from universal time, or empty. -/
def isOffset : List Char → Bool
  | [] => true
  | ['Z'] => true
  | ['z'] => true
  | '+' :: rest => afterHourMinute? rest == some []
  | '-' :: rest => afterHourMinute? rest == some []
  | _ => false

/-- Whether a text is a time of day behind a date. -/
def isDayTime (text : List Char) : Bool := (afterTime? text).any isOffset

/-- Whether a text is a date, a time of day or both, joined by a letter. -/
def isDateTime (text : List Char) : Bool :=
  match afterDate? text with
  | some [] => true
  | some (mark :: rest) => (mark == 'T' || mark == 't') && isDayTime rest
  | none => afterTime? text == some []

/-- The value that a run of characters without quotes stands for. -/
def scalar? (text : List Char) : Option Toml :=
  if text = "true".toList then some (boolean true)
  else if text = "false".toList then some (boolean false)
  else if isDateTime text then some dateTime
  else match float? text with
    | some value => some (float value)
    | none => (integer? text).map integer

/-- The value in front of a text, and the text after it.  A date may be joined to a time of day by
one space. -/
def splitScalar? (text : List Char) : Option (Toml × List Char) :=
  let run := text.takeWhile isScalar
  let rest := text.dropWhile isScalar
  match afterDate? run, rest with
  | some [], ' ' :: next =>
    if isDayTime (next.takeWhile isScalar) then some (dateTime, next.dropWhile isScalar)
    else some (dateTime, rest)
  | _, _ => (scalar? run).map (·, rest)

end Toml

end JavaDiff
