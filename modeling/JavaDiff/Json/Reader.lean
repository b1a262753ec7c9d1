import JavaDiff.Json.Basic
import JavaDiff.Json.Token

/-!
# Reading JSON

A value is read token by token.  The reader keeps the arrays and objects that are still open, the
innermost first, and what may come next.  Each token leads to one next state or to none, so the
language it accepts can be read off `step?`.
-/

namespace JavaDiff

namespace Json

/-- The finished members of an object, the last one first. -/
abbrev Members := List (Option String × Json)

/-- An array or object whose next value has not been read. -/
inductive Frame where
  /-- An array with its finished elements, the last one first. -/
  | array (done : List Json)
  /-- An object with its finished members and the key of the next one. -/
  | object (done : Members) (key? : Option String)

/-- What may come next. -/
inductive Expectation where
  /-- A value. -/
  | value
  /-- The first element of an array, or its end. -/
  | firstElement
  /-- The first key of an object, or its end. -/
  | firstKey
  /-- The next key of an object with its finished members. -/
  | key (done : Members)
  /-- The colon behind a key. -/
  | colon (done : Members) (key? : Option String)
  /-- What follows a finished value. -/
  | after (value : Json)

/-- The state of the reader. -/
structure Reading where
  /-- What may come next. -/
  expectation : Expectation
  /-- The open arrays and objects, the innermost first. -/
  frames : List Frame

namespace Reading

/-- The state before the first token. -/
def start : Reading := ⟨.value, []⟩

/-- The state after a token that starts a value. -/
def startValue? (frames : List Frame) : JsonToken → Option Reading
  | .null => some ⟨.after .null, frames⟩
  | .bool value => some ⟨.after (.bool value), frames⟩
  | .number numeral => some ⟨.after (.number numeral), frames⟩
  | .string text? => some ⟨.after (.string text?), frames⟩
  | .openArray => some ⟨.firstElement, frames⟩
  | .openObject => some ⟨.firstKey, frames⟩
  | _ => none

/-- The state after a token that follows a finished value. -/
def finishValue? (value : Json) : List Frame → JsonToken → Option Reading
  | .array done :: frames, .comma => some ⟨.value, .array (value :: done) :: frames⟩
  | .array done :: frames, .closeArray => some ⟨.after (.array (value :: done).reverse), frames⟩
  | .object done key? :: frames, .comma => some ⟨.key ((key?, value) :: done), frames⟩
  | .object done key? :: frames, .closeObject =>
    some ⟨.after (.object ((key?, value) :: done).reverse), frames⟩
  | _, _ => none

/-- The state after one more token. -/
def step? (reading : Reading) (token : JsonToken) : Option Reading :=
  match reading.expectation, token with
  | .value, token => startValue? reading.frames token
  | .firstElement, .closeArray => some ⟨.after (.array []), reading.frames⟩
  | .firstElement, token => startValue? (.array [] :: reading.frames) token
  | .firstKey, .closeObject => some ⟨.after (.object []), reading.frames⟩
  | .firstKey, .string key? => some ⟨.colon [] key?, reading.frames⟩
  | .key done, .string key? => some ⟨.colon done key?, reading.frames⟩
  | .colon done key?, .colon => some ⟨.value, .object done key? :: reading.frames⟩
  | .after value, token => finishValue? value reading.frames token
  | _, _ => none

/-- The value that has been read, when nothing is open. -/
def result? : Reading → Option Json
  | ⟨.after value, []⟩ => some value
  | _ => none

end Reading
/-- The value that some tokens make up. -/
def ofTokens? (tokens : List JsonToken) : Option Json := do
  (← tokens.foldlM Reading.step? Reading.start).result?

/-- The value that a text holds. -/
def ofText? (text : String) : Option Json := do
  ofTokens? (← JsonToken.ofText? text.toList)

end Json

end JavaDiff
