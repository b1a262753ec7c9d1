import JavaDiff.Json.Basic
import JavaDiff.Number.Shortest

/-!
# Reading the fields of a JSON object

A record is written as an object with one member for each field.  Members with other keys are passed
over whatever their values are, but every key has to be readable and no field may come twice.  In
place of the object, an array of the values of all fields in their order may stand.
-/

namespace JavaDiff

namespace Json

/-- The known fields of a record with their values.  There are none when a key of the object has no
text, a field comes twice or an array has not one value for each field. -/
def fields? (known : List String) : Json → Option (List (String × Json))
  | object members => do
    let named ← members.mapM fun member => member.1.map (·, member.2)
    let fields := named.filter (known.contains ·.1)
    if (fields.map Prod.fst).Nodup then some fields else none
  | array elements => if elements.length = known.length then some (known.zip elements) else none
  | _ => none

/-- The value of a field. -/
def field? (fields : List (String × Json)) (name : String) : Option Json := fields.lookup name

/-- The value of a field that may be left out. -/
def optionalField? {α : Type} (read? : Json → Option (Option α)) (fields : List (String × Json))
    (name : String) : Option (Option α) :=
  match field? fields name with
  | none => some none
  | some value => read? value

/-- The text of a string. -/
def toString? : Json → Option String
  | string text? => text?
  | _ => none

/-- The text of a string, where null means that there is none. -/
def toOptionalString? : Json → Option (Option String)
  | null => some none
  | value => value.toString?.map some

/-- The truth value. -/
def toBool? : Json → Option Bool
  | bool value => some value
  | _ => none

/-- The natural number below a limit. -/
def toNatBelow? (limit : Nat) : Json → Option Nat
  | number numeral => numeral.toNat?.filter (· < limit)
  | _ => none

/-- The word of 32 bits with the value of a natural number. -/
def toWord32? (value : Json) : Option UInt32 :=
  (value.toNatBelow? (Nat.pow 2 32)).map UInt32.ofNat

/-- The natural number that fits into 64 bits. -/
def toWord64? : Json → Option Nat := toNatBelow? (Nat.pow 2 64)

/-- The binary number that a number stands for. -/
def toBinary? {format : BinaryFormat} : Json → Option (Binary format)
  | number numeral => numeral.toBinary?
  | _ => none

/-- The binary number that a number stands for, where null means that there is none. -/
def toOptionalBinary? {format : BinaryFormat} : Json → Option (Option (Binary format))
  | null => some none
  | value => value.toBinary?.map some

/-- The elements of an array, each read by the same function. -/
def toList? {α : Type} (read? : Json → Option α) : Json → Option (List α)
  | array elements => elements.mapM read?
  | _ => none

/-- The members of an object, the values of which are read by the same function. -/
def toEntries? {α : Type} (read? : Json → Option α) : Json → Option (List (String × α))
  | object members => members.mapM fun member => do
    let key ← member.1
    let value ← read? member.2
    return (key, value)
  | _ => none

/-- Whether a value is null. -/
def isNull : Json → Bool
  | null => true
  | _ => false

/-- Whether a value is null or the object without members. -/
def isVoid : Json → Bool
  | null => true
  | object [] => true
  | _ => false

/-- The alternative with a written name.  In place of the name alone, an object may stand whose only
member has the name as its key and a value without content, as `isBlank` decides. -/
def toChoice? {α : Type} (isBlank : Json → Bool) (ofName? : String → Option α) : Json → Option α
  | string (some name) => ofName? name
  | object [(some name, value)] => if isBlank value then ofName? name else none
  | _ => none

/-- The number of a word of 32 bits. -/
def ofWord32 (value : UInt32) : Json := ofNat value.toNat

/-- A number, or null in place of what is no finite number. -/
def ofBinary {format : BinaryFormat} (layout : FloatLayout) (value : Binary format) : Json :=
  match value.numeral? layout with
  | some numeral => number numeral
  | none => null

/-- A single, or null in place of what is no finite number. -/
def ofSingle (value : Single) : Json := ofBinary .single value

/-- A double, or null in place of what is no finite number. -/
def ofDouble (value : Double) : Json := ofBinary .double value

end Json

end JavaDiff
