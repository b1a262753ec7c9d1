/-!
# File names

The extension of a path is what follows the last point of its last component.  Components are divided
by slashes; an empty component and the component `.` do not count.  There is no extension when the
last component is `..`, has no point, or has a point only at its start.
-/

namespace JavaDiff

namespace FileName

/-- The parts of a path between slashes. -/
def parts : List Char → List (List Char)
  | [] => [[]]
  | character :: rest =>
    if character = '/' then [] :: parts rest
    else match parts rest with
      | [] => [[character]]
      | first :: others => (character :: first) :: others

/-- The last component of a path. -/
def last? (path : List Char) : Option (List Char) :=
  ((parts path).filter fun part => part ≠ [] ∧ part ≠ ['.']).getLast?

/-- The extension of a path. -/
def extension? (path : String) : Option String := do
  let name ← last? path.toList
  if name = ['.', '.'] then none
  else
    let reversed := name.reverse
    match reversed.dropWhile (· ≠ '.') with
    | _ :: _ :: _ => some (String.ofList (reversed.takeWhile (· ≠ '.')).reverse)
    | _ => none

end FileName

end JavaDiff
