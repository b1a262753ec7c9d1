import JavaDiff.Number.Decimal

/-!
# Numerals

A numeral is a decimal number as it is written: an optional sign, whole digits, digits behind a point
and an exponent.

`Numeral.toBinary?` reads it in two steps.  It keeps as many leading digits as fit into 64 bits and
rounds them, and then multiplies or divides by a rounded power of ten.  With few digits and a small
power both steps are exact but for one rounding; otherwise the result may miss the nearest number by
one place in the last bit.  It fails when the result is out of range.
-/

namespace JavaDiff

/-- The written form of a decimal number. -/
structure Numeral where
  /-- Whether a minus sign comes first. -/
  negative : Bool
  /-- The number in front of the point. -/
  whole : Nat
  /-- The digits behind the point, if there is one. -/
  fraction : List Digit
  /-- The exponent, if there is one. -/
  exponent? : Option Int
deriving DecidableEq, Repr

namespace Numeral

/-- The numeral of a natural number. -/
def ofNat (number : Nat) : Numeral := ⟨false, number, [], none⟩

/-- Whether the numeral has neither fraction nor exponent. -/
def isInteger (numeral : Numeral) : Bool := numeral.fraction.isEmpty && numeral.exponent?.isNone

/-- The natural number that an integer numeral without a sign stands for. -/
def toNat? (numeral : Numeral) : Option Nat :=
  if numeral.isInteger ∧ ¬ numeral.negative then some numeral.whole else none

/-- The digits of an exponent with the sign it needs. -/
def exponentText (exponent : Int) : List Char :=
  (if exponent < 0 then ['-'] else []) ++ (Digit.ofNat exponent.natAbs).map Digit.toChar

/-- The characters of a numeral. -/
def text (numeral : Numeral) : List Char :=
  (if numeral.negative then ['-'] else []) ++
    (Digit.ofNat numeral.whole).map Digit.toChar ++
    (if numeral.fraction = [] then [] else '.' :: numeral.fraction.map Digit.toChar) ++
    match numeral.exponent? with
    | none => []
    | some exponent => 'e' :: exponentText exponent

/-- The digits at the start of a text, and the text after them. -/
def splitDigits : List Char → List Digit × List Char
  | [] => ([], [])
  | character :: rest =>
    match Digit.ofChar? character with
    | some digit => (digit :: (splitDigits rest).1, (splitDigits rest).2)
    | none => ([], character :: rest)

/-- The digits after the point at the start of a text, and the text after them. -/
def splitFraction? : List Char → Option (List Digit × List Char)
  | '.' :: rest =>
    match splitDigits rest with
    | ([], _) => none
    | (digits, rest) => some (digits, rest)
  | text => some ([], text)

/-- The value of an exponent that fills a text, an optional sign and at least one digit. -/
def exponentValue? (text : List Char) : Option Int :=
  let negative := text.head? == some '-'
  let digits := if negative || text.head? == some '+' then text.drop 1 else text
  match splitDigits digits with
  | ([], _) => none
  | (digits, []) =>
    some (if negative then -(Digit.toNat digits : Int) else Digit.toNat digits)
  | _ => none

/-- The numeral that fills a text.  The whole part has at least one digit and no needless leading
zero, and digits follow the point and the exponent mark. -/
def ofText? (text : List Char) : Option Numeral := do
  let negative := text.head? == some '-'
  let (whole, rest) := splitDigits (if negative then text.drop 1 else text)
  if whole = [] ∨ (whole.head? = some .zero ∧ whole ≠ [.zero]) then none
  else
    let (fraction, rest) ← splitFraction? rest
    match rest with
    | [] => return ⟨negative, Digit.toNat whole, fraction, none⟩
    | mark :: rest =>
      if mark = 'e' ∨ mark = 'E' then
        let exponent ← exponentValue? rest
        return ⟨negative, Digit.toNat whole, fraction, some exponent⟩
      else none

/-- The least whole number that is too large for a significand. -/
def significandLimit : Nat := Nat.pow 2 64

/-- A significand extended by leading digits, while it stays in range, and the digits left over. -/
def extend (significand : Nat) : List Digit → Nat × List Digit
  | [] => (significand, [])
  | digit :: rest =>
    if 10 * significand + digit.val < significandLimit then
      extend (10 * significand + digit.val) rest
    else (significand, digit :: rest)

/-- The decimal that remains of a numeral when the significand is kept in range.  Digits of the whole
part that are left over still count as zeros, those of the fraction do not count. -/
def kept (numeral : Numeral) : Decimal :=
  let (whole, leftWhole) := extend 0 (Digit.ofNat numeral.whole)
  let (significand, leftFraction) := extend whole numeral.fraction
  ⟨significand, leftWhole.length - (numeral.fraction.length - leftFraction.length : Nat) +
    numeral.exponent?.getD 0⟩

/-- The greatest power of ten that a double can hold. -/
def greatestPower : Nat := 308

/-- A finite magnitude divided by a power of ten, at most `greatestPower` at a time. -/
def divideByPower (format : BinaryFormat) (magnitude power : Nat) : Nat :=
  if magnitude = 0 then 0
  else if _hlarge : greatestPower < power then
    divideByPower format (format.divide magnitude (format.ofNat (Nat.pow 10 greatestPower)))
      (power - greatestPower)
  else format.divide magnitude (format.ofNat (Nat.pow 10 power))
termination_by power
decreasing_by exact Nat.sub_lt (Nat.lt_trans (by decide) _hlarge) (by decide)

/-- The magnitude of a decimal, rounded once for the significand and once more for the power of ten.
There is none when the power or the result is out of range. -/
def scaled? (decimal : Decimal) : Option Nat :=
  let start := BinaryFormat.double.ofNat decimal.significand
  if decimal.exponent < 0 then
    some (divideByPower .double start decimal.exponent.natAbs)
  else if start = 0 then some 0
  else if greatestPower < decimal.exponent.natAbs then none
  else
    let product :=
      BinaryFormat.double.multiply start
        (BinaryFormat.double.ofNat (Nat.pow 10 decimal.exponent.natAbs))
    if product < BinaryFormat.double.infinity then some product else none

/-- Whether a numeral is an integer of at most 64 bits with its sign. -/
def isWord (numeral : Numeral) : Bool :=
  numeral.isInteger &&
    if numeral.negative then 0 < numeral.whole && numeral.whole ≤ Nat.pow 2 63
    else numeral.whole < Nat.pow 2 64

/-- The number that a numeral stands for.  An integer of at most 64 bits is rounded once.  Any other
numeral is read as a double first.  There is none when the double is out of range. -/
def toBinary? {format : BinaryFormat} (numeral : Numeral) : Option (Binary format) :=
  if numeral.isWord then some (.ofQuotient numeral.negative numeral.whole 1)
  else (scaled? numeral.kept).map fun magnitude =>
    let double : Double :=
      .number numeral.negative (min magnitude BinaryFormat.double.infinity) (Nat.min_le_right ..)
    double.convert format

end Numeral

end JavaDiff
