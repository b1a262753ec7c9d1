/-!
# Decimal digits

The digits of a natural number, and the characters that stand for digits.
-/

namespace JavaDiff

/-- A decimal digit. -/
abbrev Digit := Fin 10

namespace Digit

/-- The digit zero. -/
def zero : Digit := ⟨0, by decide⟩

/-- The digits of a number in front of further digits. -/
def ofNatAppend (number : Nat) (rest : List Digit) : List Digit :=
  let last : Digit := ⟨number % 10, Nat.mod_lt _ (by decide)⟩
  if number < 10 then last :: rest else ofNatAppend (number / 10) (last :: rest)
termination_by number
decreasing_by omega

/-- The digits of a number, the most significant first. -/
def ofNat (number : Nat) : List Digit := ofNatAppend number []

/-- The number with the given digits, the most significant first. -/
def toNat (digits : List Digit) : Nat := digits.foldl (fun number digit => 10 * number + digit.val) 0

/-- The character of a digit. -/
def toChar (digit : Digit) : Char := Char.ofNat (48 + digit.val)

/-- The digit that a character stands for. -/
def ofChar? (character : Char) : Option Digit :=
  if character.isDigit then some ⟨(character.toNat - 48) % 10, Nat.mod_lt _ (by decide)⟩ else none

end Digit

end JavaDiff
