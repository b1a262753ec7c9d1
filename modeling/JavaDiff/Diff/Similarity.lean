import JavaDiff.Number.Binary

/-!
# Similarity of texts

The similarity of two texts is twice the number of characters that a matching of the two pairs up over
the number of characters of both.  The matching is that of a difference of the texts.  It is taken to
be optimal, as the difference without a time limit is, so what counts is the length of a longest common
subsequence.  The length is found row by row: the row of a text against `other` holds the lengths
against every suffix of `other`, the longest suffix first.
-/

namespace JavaDiff

namespace Similarity

/-- The row of a text with one more character in front, from the row of the text. -/
def extendRow (character : Char) : List Char → List Nat → List Nat
  | [], _ => [0]
  | first :: others, row =>
    let rest := extendRow character others row.tail
    let length :=
      if character = first then row.tail.headD 0 + 1 else max (row.headD 0) (rest.headD 0)
    length :: rest

/-- The lengths of the longest common subsequences of a text with every suffix of another. -/
def row (text other : List Char) : List Nat :=
  text.foldr (fun character row => extendRow character other row)
    (List.replicate (other.length + 1) 0)

/-- The length of a longest common subsequence of two texts. -/
def commonLength (text other : List Char) : Nat := (row text other).headD 0

end Similarity

open BinaryFormat in
/-- The similarity of two texts, which is one for equal texts.  The difference of the texts is taken to
match as many characters as any common subsequence has.  Every operation is rounded. -/
def similarity (base head : String) : Single :=
  if base = head then .one
  else
    let common := Similarity.commonLength base.toList head.toList
    let total := base.toList.length + head.toList.length
    let matched := single.multiply (single.ofNat 2) (single.ofNat common)
    .number false (single.divide matched (single.ofNat total)) (single.roundQuotient_le _ _)

/-- Whether two texts differ enough to count as modified, and their similarity.  Equal texts never
do, and different ones always do at a threshold of one. -/
def isModified (threshold : Single) (base head : String) : Bool × Single :=
  if base = head then (false, .one)
  else
    let score := similarity base head
    (threshold.isAtLeast .one || score.isLess threshold, score)

end JavaDiff
