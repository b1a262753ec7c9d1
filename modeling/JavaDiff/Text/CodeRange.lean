/-!
# Ranges of code points

A character class of the Unicode standard is a list of inclusive code point ranges in ascending
order.
-/

namespace JavaDiff

/-- A class of characters as inclusive ranges of code points. -/
abbrev CodeRanges := List (Nat × Nat)

namespace CodeRanges

/-- Whether a character belongs to one of the ranges. -/
def contains (ranges : CodeRanges) (character : Char) : Bool :=
  ranges.any fun range => range.1 ≤ character.toNat && character.toNat ≤ range.2

end CodeRanges

end JavaDiff
