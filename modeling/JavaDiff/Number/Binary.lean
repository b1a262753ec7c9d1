/-!
# Binary floating point

A binary format has a fixed number of fraction and exponent bits.  A magnitude is the bit pattern of
a number without its sign, read as a natural number: its low bits are the fraction, the bits above
them the exponent, and the pattern with every exponent bit set and no fraction is infinity.  In this
form the order of magnitudes is the order of their values.

Every finite value is a whole number of units, where the unit is the least positive value of the
format.  `roundQuotient` rounds a quotient of natural numbers to the nearest magnitude, and to the
even one where two are equally near; the arithmetic of the format is exact arithmetic followed by
that rounding.
-/

namespace JavaDiff

/-- A binary interchange format. -/
structure BinaryFormat where
  /-- The number of fraction bits. -/
  fractionBits : Nat
  /-- The number of exponent bits. -/
  exponentBits : Nat
deriving DecidableEq, Repr

namespace BinaryFormat

/-- The format with 24 significant bits. -/
def single : BinaryFormat := ⟨23, 8⟩

/-- The format with 53 significant bits. -/
def double : BinaryFormat := ⟨52, 11⟩

/-- The unit of a format is two to the power of minus this number. -/
def unitShift (format : BinaryFormat) : Nat :=
  Nat.pow 2 (format.exponentBits - 1) - 2 + format.fractionBits

/-- The magnitude of infinity. -/
def infinity (format : BinaryFormat) : Nat :=
  (Nat.pow 2 format.exponentBits - 1) * Nat.pow 2 format.fractionBits

/-- The value of a finite magnitude in units. -/
def units (format : BinaryFormat) (magnitude : Nat) : Nat :=
  let one := Nat.pow 2 format.fractionBits
  if magnitude < one then magnitude
  else (one + magnitude % one) * Nat.pow 2 (magnitude / one - 1)

/-- The whole number nearest to a quotient, and the even one of two that are equally near. -/
def nearestWhole (numerator denominator : Nat) : Nat :=
  let quotient := numerator / denominator
  let remainder := numerator % denominator
  if 2 * remainder < denominator then quotient
  else if denominator < 2 * remainder then quotient + 1
  else quotient + quotient % 2

/-- The magnitude nearest to a quotient, and the even one of two that are equally near.  A quotient
beyond the finite values rounds to infinity. -/
def roundQuotient (format : BinaryFormat) (numerator denominator : Nat) : Nat :=
  let scaled := numerator * Nat.pow 2 format.unitShift
  let whole := scaled / denominator
  let width := if whole = 0 then 0 else whole.log2 + 1
  let shift := width - (format.fractionBits + 1)
  min
    (shift * Nat.pow 2 format.fractionBits +
      nearestWhole scaled (denominator * Nat.pow 2 shift))
    format.infinity

/-- The magnitude nearest to a whole number. -/
def ofNat (format : BinaryFormat) (number : Nat) : Nat := format.roundQuotient number 1

/-- The rounded product of two finite magnitudes. -/
def multiply (format : BinaryFormat) (left right : Nat) : Nat :=
  format.roundQuotient (format.units left * format.units right)
    (Nat.pow 2 format.unitShift * Nat.pow 2 format.unitShift)

/-- The rounded quotient of two finite magnitudes, the second of which is not zero. -/
def divide (format : BinaryFormat) (left right : Nat) : Nat :=
  format.roundQuotient (format.units left) (format.units right)

/-- A magnitude of one format rounded to another. -/
def convert (source target : BinaryFormat) (magnitude : Nat) : Nat :=
  if magnitude < source.infinity then
    target.roundQuotient (source.units magnitude) (Nat.pow 2 source.unitShift)
  else target.infinity

theorem roundQuotient_le (format : BinaryFormat) (numerator denominator : Nat) :
    format.roundQuotient numerator denominator ≤ format.infinity :=
  Nat.min_le_right ..

theorem convert_le (source target : BinaryFormat) (magnitude : Nat) :
    source.convert target magnitude ≤ target.infinity := by
  unfold convert
  split
  · exact roundQuotient_le ..
  · exact Nat.le_refl _

end BinaryFormat

/-- A number of a binary format, infinite ones included, or no number at all. -/
inductive Binary (format : BinaryFormat) where
  /-- The result of an operation without a value. -/
  | nan
  /-- A number given by its sign and magnitude. -/
  | number (negative : Bool) (magnitude : Nat) (bounded : magnitude ≤ format.infinity)
deriving DecidableEq

namespace Binary

variable {format : BinaryFormat}

/-- The number with a sign whose magnitude is nearest to a quotient. -/
def ofQuotient (negative : Bool) (numerator denominator : Nat) : Binary format :=
  number negative (format.roundQuotient numerator denominator)
    (format.roundQuotient_le numerator denominator)

/-- The positive zero. -/
def zero : Binary format := number false 0 (Nat.zero_le _)

/-- The number one. -/
def one : Binary format := ofQuotient false 1 1

/-- The infinity with a sign. -/
def infinite (negative : Bool) : Binary format := number negative format.infinity (Nat.le_refl _)

/-- Whether a value is a number other than the infinities. -/
def isFinite : Binary format → Bool
  | nan => false
  | number _ magnitude _ => magnitude < format.infinity

/-- The place of a number in the order of numbers, where both zeros have the same place. -/
def rank? : Binary format → Option Int
  | nan => none
  | number true magnitude _ => some (-(magnitude : Int))
  | number false magnitude _ => some magnitude

/-- Whether the first of two numbers is less than the second.  A value that is no number is less
than none and greater than none. -/
def isLess (left right : Binary format) : Bool :=
  match left.rank?, right.rank? with
  | some left, some right => left < right
  | _, _ => false

/-- Whether the first of two numbers is at least the second. -/
def isAtLeast (left right : Binary format) : Bool :=
  match left.rank?, right.rank? with
  | some left, some right => right ≤ left
  | _, _ => false

/-- A value rounded to another format. -/
def convert (target : BinaryFormat) : Binary format → Binary target
  | nan => nan
  | number negative magnitude _ =>
    number negative (format.convert target magnitude) (format.convert_le target magnitude)

end Binary

/-- A number with 24 significant bits. -/
abbrev Single := Binary .single

/-- A number with 53 significant bits. -/
abbrev Double := Binary .double

end JavaDiff
