import JavaDiff.Number.Binary
import JavaDiff.Number.Digit

/-!
# Decimals

A decimal is a whole number times a power of ten.  It is read as a binary number by rounding its value
to the nearest number of the format.
-/

namespace JavaDiff

/-- A significand times a power of ten. -/
structure Decimal where
  /-- The digits of the number as a whole number. -/
  significand : Nat
  /-- The power of ten. -/
  exponent : Int
deriving DecidableEq, Repr

namespace Decimal

/-- The numerator of the value of a decimal. -/
def numerator (decimal : Decimal) : Nat := decimal.significand * Nat.pow 10 decimal.exponent.toNat

/-- The denominator of the value of a decimal. -/
def denominator (decimal : Decimal) : Nat := Nat.pow 10 (-decimal.exponent).toNat

/-- The position of the decimal point, counted from the first digit. -/
def point (decimal : Decimal) : Int :=
  (Digit.ofNat decimal.significand).length + decimal.exponent

end Decimal

namespace BinaryFormat

/-- A power of ten beyond which every value is infinite in both formats, and below whose inverse
every value is zero. -/
def decimalRange : Int := 400

/-- The magnitude of a format of at most double size that is nearest to a decimal. -/
def roundDecimal (format : BinaryFormat) (decimal : Decimal) : Nat :=
  if decimal.significand = 0 ∨ decimal.point < -decimalRange then 0
  else if decimalRange < decimal.point then format.infinity
  else format.roundQuotient decimal.numerator decimal.denominator

theorem roundDecimal_le (format : BinaryFormat) (decimal : Decimal) :
    format.roundDecimal decimal ≤ format.infinity := by
  unfold roundDecimal
  split
  · exact Nat.zero_le _
  · split
    · exact Nat.le_refl _
    · exact roundQuotient_le ..

end BinaryFormat

/-- The number nearest to a decimal. -/
def Binary.ofDecimal {format : BinaryFormat} (negative : Bool) (decimal : Decimal) : Binary format :=
  .number negative (format.roundDecimal decimal) (format.roundDecimal_le decimal)

end JavaDiff
