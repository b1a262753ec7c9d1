import JavaDiff.Text.CodeRange

/-!
# Blank characters

The characters with the property White_Space.  Between a keyword and a declared name any of them
may stand, and a source that holds nothing else is empty.
-/

namespace JavaDiff

namespace Blank

/-- The ranges of White_Space. -/
def ranges : CodeRanges := [
  (0x9, 0xD), (0x20, 0x20), (0x85, 0x85), (0xA0, 0xA0), (0x1680, 0x1680), (0x2000, 0x200A),
  (0x2028, 0x2029), (0x202F, 0x202F), (0x205F, 0x205F), (0x3000, 0x3000)]

/-- Whether a character is white space. -/
def isBlank (character : Char) : Bool := ranges.contains character

end Blank

end JavaDiff
