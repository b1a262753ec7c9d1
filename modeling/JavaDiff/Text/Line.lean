import JavaDiff.Text.Ascii

/-!
# Line numbers

A line index holds the offset at which each line of a text starts, in ascending order.  The line of
an offset is found by binary search among them: an offset that starts a line has that line's number,
any other has the number of the line before the place where it would be inserted.
-/

namespace JavaDiff

/-- The offsets at which the lines of a text start. -/
structure LineIndex where
  /-- The starts in ascending order, the first of them zero. -/
  starts : Array Nat
deriving DecidableEq, Repr

namespace LineIndex

/-- The offsets right after the line feeds of `bytes`, the first of which lies at `offset`. -/
def startsFrom (offset : Nat) : List UInt8 → List Nat
  | [] => []
  | byte :: rest =>
    if byte = Ascii.newline then (offset + 1) :: startsFrom (offset + 1) rest
    else startsFrom (offset + 1) rest

/-- The line index of a text given by its bytes. -/
def ofBytes (bytes : List UInt8) : LineIndex := ⟨(0 :: startsFrom 0 bytes).toArray⟩

/-- The outcome of a search for an offset among the line starts. -/
inductive Place where
  /-- The offset is the start with this index. -/
  | found (index : Nat)
  /-- The offset is no start, and would be inserted at this index. -/
  | missing (index : Nat)
deriving DecidableEq, Repr

/-- The place of `offset` among the starts with indices from `low` up to `high`. -/
def search (starts : Array Nat) (offset low high : Nat) : Place :=
  if hrange : low < high ∧ high ≤ starts.size then
    let middle := (low + high) / 2
    have hmiddle : middle < starts.size := by omega
    if starts[middle] = offset then .found middle
    else if starts[middle] < offset then search starts offset (middle + 1) high
    else search starts offset low middle
  else .missing low
termination_by high - low
decreasing_by all_goals omega

/-- The one-based number of the line at a place, in words of 32 bits: an index keeps its lowest bits,
and behind the largest word comes zero. -/
def Place.lineWord : Place → UInt32
  | found index => index.toUInt32 + 1
  | missing index => index.toUInt32

/-- The one-based number of the line that holds the byte at `offset`, as a word of 32 bits. -/
def lineOf (index : LineIndex) (offset : Nat) : UInt32 :=
  (search index.starts offset 0 index.starts.size).lineWord

end LineIndex

end JavaDiff
