import JavaDiff.Text.Ascii

/-!
# Delimiters

The end of a bracketed block is found by counting: each opener raises the depth, each closer lowers
it, and the block ends where the depth returns to zero.  The opener is tested first, so a block whose
opener and closer are the same byte never ends.
-/

namespace JavaDiff

namespace Java

/-- The offset of the closer of a block.  Inside the block, `depth` further blocks are open in front
of `bytes`, whose first byte lies at `offset`. -/
def closingFrom (opener closer : UInt8) (depth offset : Nat) : List UInt8 → Option Nat
  | [] => none
  | byte :: rest =>
    if byte = opener then closingFrom opener closer (depth + 1) (offset + 1) rest
    else if byte = closer then
      match depth with
      | 0 => some offset
      | depth + 1 => closingFrom opener closer depth (offset + 1) rest
    else closingFrom opener closer depth (offset + 1) rest

/-- The offset of the closer that matches the opener at offset `start`.  There is none when that
byte is no opener or the block never ends. -/
def closingDelimiter (opener closer : UInt8) (bytes : List UInt8) (start : Nat) : Option Nat :=
  match bytes.drop start with
  | [] => none
  | byte :: rest => if byte = opener then closingFrom opener closer 0 (start + 1) rest else none

/-- The offset of the brace that closes the one at `start`. -/
def closingBrace (bytes : List UInt8) (start : Nat) : Option Nat :=
  closingDelimiter Ascii.openBrace Ascii.closeBrace bytes start

/-- The offset of the parenthesis that closes the one at `start`. -/
def closingParen (bytes : List UInt8) (start : Nat) : Option Nat :=
  closingDelimiter Ascii.openParen Ascii.closeParen bytes start

/-- The offset of the first byte with a property at or after `start`. -/
def nextOffset (property : UInt8 → Bool) (bytes : List UInt8) (start : Nat) : Option Nat :=
  ((bytes.drop start).findIdx? property).map (start + ·)

end Java

end JavaDiff
