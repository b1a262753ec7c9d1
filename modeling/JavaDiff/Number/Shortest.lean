import JavaDiff.Number.Numeral

/-!
# Shortest decimal text

A finite number is written with the fewest digits that read back as the same number of its format,
and of several such digit sequences with the one nearest to its value.  Where the point stands and
when an exponent is written is up to a layout, which is a decision of the output format.
-/

namespace JavaDiff

namespace BinaryFormat

/-- The number of digits in front of the point of a positive quotient.  It is negative when zeros
follow the point. -/
def decimalPoint (numerator denominator : Nat) : Int :=
  let guess : Int := (Digit.ofNat numerator).length - (Digit.ofNat denominator).length
  let bound : Decimal := ⟨1, guess⟩
  if numerator * bound.denominator < denominator * bound.numerator then guess else guess + 1

/-- The decimal with `count` digits that is nearest to a positive magnitude, if one reads back as it.
Of the two neighbours on the grid with that many digits, the even one wins a tie. -/
def decimalOfLength? (format : BinaryFormat) (magnitude count : Nat) : Option Decimal :=
  let numerator := format.units magnitude
  let denominator := Nat.pow 2 format.unitShift
  let exponent := decimalPoint numerator denominator - count
  let grid : Decimal := ⟨1, exponent⟩
  let scaled := numerator * grid.denominator
  let step := denominator * grid.numerator
  let nearest := nearestWhole scaled step
  let other := if nearest = scaled / step then nearest + 1 else scaled / step
  [nearest, other].findSome? fun significand =>
    if format.roundDecimal ⟨significand, exponent⟩ = magnitude then some ⟨significand, exponent⟩
    else none

/-- The decimal that has exactly the value of a finite magnitude. -/
def exactDecimal (format : BinaryFormat) (magnitude : Nat) : Decimal :=
  ⟨format.units magnitude * Nat.pow 5 format.unitShift, -format.unitShift⟩

/-- The greatest number of digits that a double needs. -/
def greatestLength : Nat := 17

/-- The decimal with the fewest digits that reads back as a positive magnitude. -/
def shortestDecimal (format : BinaryFormat) (magnitude : Nat) : Decimal :=
  ((List.range greatestLength).findSome? fun count =>
    format.decimalOfLength? magnitude (count + 1)).getD (format.exactDecimal magnitude)

end BinaryFormat

/-- When a number is written without an exponent. -/
structure FloatLayout where
  /-- The point has to lie after this position, counted from the first digit. -/
  afterPoint : Int
  /-- The point has to lie at this position or before it. -/
  lastPoint : Int
deriving DecidableEq, Repr

namespace FloatLayout

/-- Singles are written without an exponent from `0.00000` up to thirteen whole digits. -/
def single : FloatLayout := ⟨-6, 13⟩

/-- Doubles are written without an exponent from `0.0000` up to sixteen whole digits. -/
def double : FloatLayout := ⟨-5, 16⟩

/-- The numeral of a positive decimal without needless zeros.  It keeps a point and a digit behind it
unless it has an exponent. -/
def numeral (layout : FloatLayout) (negative : Bool) (decimal : Decimal) : Numeral :=
  let digits := ((Digit.ofNat decimal.significand).reverse.dropWhile (· = .zero)).reverse
  let point := decimal.point
  if layout.afterPoint < point ∧ point ≤ layout.lastPoint then
    if 0 < point then
      let padded := digits ++ List.replicate (point.toNat - digits.length) Digit.zero
      let fraction := padded.drop point.toNat
      ⟨negative, Digit.toNat (padded.take point.toNat), if fraction = [] then [.zero] else fraction,
        none⟩
    else ⟨negative, 0, List.replicate (-point).toNat Digit.zero ++ digits, none⟩
  else ⟨negative, Digit.toNat (digits.take 1), digits.drop 1, some (point - 1)⟩

end FloatLayout

namespace Binary

variable {format : BinaryFormat}

/-- The shortest numeral of a finite number. -/
def numeral? (layout : FloatLayout) : Binary format → Option Numeral
  | nan => none
  | number negative magnitude _ =>
    if magnitude = 0 then some ⟨negative, 0, [.zero], none⟩
    else if magnitude < format.infinity then
      let decimal := format.shortestDecimal magnitude
      some (layout.numeral negative decimal)
    else none

end Binary

end JavaDiff
