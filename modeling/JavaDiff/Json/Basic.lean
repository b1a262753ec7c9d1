import JavaDiff.Number.Numeral

/-!
# JSON values

A JSON value is kept as it was written: numbers as numerals, the members of an object in order and
with repetitions.  A string literal may be well formed and yet stand for no text, when an escaped
surrogate has no partner.  Such a literal can be passed over, but not read.
-/

namespace JavaDiff

/-- A JSON value. -/
inductive Json where
  /-- The null value. -/
  | null
  /-- A truth value. -/
  | bool (value : Bool)
  /-- A number. -/
  | number (numeral : Numeral)
  /-- A string, which has no text when an escaped surrogate stands alone. -/
  | string (text? : Option String)
  /-- A sequence of values. -/
  | array (elements : List Json)
  /-- A sequence of members, each with a key and a value. -/
  | object (members : List (Option String × Json))

namespace Json

instance : Inhabited Json := ⟨null⟩

/-- The string with a text. -/
def ofString (text : String) : Json := string (some text)

/-- The integer of a natural number. -/
def ofNat (value : Nat) : Json := number (.ofNat value)

/-- The string with a text, or null. -/
def ofString? (text? : Option String) : Json := (text?.map ofString).getD null

/-- The object with the given members. -/
def ofMembers (members : List (String × Json)) : Json :=
  object (members.map fun member => (some member.1, member.2))

mutual

/-- The number of arrays and objects around the innermost value. -/
def depth : Json → Nat
  | array elements => depthOfElements elements + 1
  | object members => depthOfMembers members + 1
  | _ => 0

/-- The greatest depth of some elements. -/
def depthOfElements : List Json → Nat
  | [] => 0
  | element :: rest => max (depth element) (depthOfElements rest)

/-- The greatest depth of some members. -/
def depthOfMembers : List (Option String × Json) → Nat
  | [] => 0
  | (_, value) :: rest => max (depth value) (depthOfMembers rest)

end

mutual

/-- Whether every string of a value has a text and every number is in the range of doubles. -/
def isReadable : Json → Bool
  | null => true
  | bool _ => true
  | number numeral => (numeral.toBinary? : Option Double).isSome
  | string text? => text?.isSome
  | array elements => elementsAreReadable elements
  | object members => membersAreReadable members

/-- Whether all elements are readable. -/
def elementsAreReadable : List Json → Bool
  | [] => true
  | element :: rest => isReadable element && elementsAreReadable rest

/-- Whether all members are readable. -/
def membersAreReadable : List (Option String × Json) → Bool
  | [] => true
  | (key?, value) :: rest => key?.isSome && isReadable value && membersAreReadable rest

end

end Json

end JavaDiff
