import JavaDiff.Error
import JavaDiff.Outline.Basic
import JavaDiff.Text.Utf8

/-!
# Skeletons

The skeleton of a type is its text without its methods.  Two revisions of a type whose skeletons
differ have changed outside their methods: in a field, the header or an initializer.

The methods of a type need not come from its text, so their spans may overlap or leave the text.
Spans that end behind the text are passed over.  The others are removed in ascending order, and one
that starts before the end of the last removed span stays.

Offsets are words of 64 bits, so the end of a span that starts near the greatest offset wraps around.
When it falls into the text, the span seems to end there, but it starts behind the text and cannot be
removed.
-/

namespace JavaDiff

/-- A range of offsets in a text. -/
structure Span where
  /-- The offset of the first byte. -/
  start : Nat
  /-- The offset after the last byte. -/
  stop : Nat
deriving DecidableEq, Repr

namespace Span

/-- The order of spans by their starts, and by their ends where the starts agree. -/
def before (left right : Span) : Bool :=
  left.start < right.start || (left.start == right.start && left.stop ≤ right.stop)

/-- The number of offsets. -/
def offsetCount : Nat := Nat.pow 2 64

/-- Whether a span ends behind a text of the given size, but its end wraps around into the text. -/
def wrapsInto (span : Span) (size : Nat) : Bool :=
  size < span.stop && offsetCount ≤ span.stop && span.stop % offsetCount ≤ size

end Span

namespace DeclaredType

/-- The spans of the methods that do not start before the type, relative to its start. -/
def methodSpans (type : DeclaredType) : List Span :=
  type.methods.values.filterMap fun method =>
    if type.startByte ≤ method.startByte then
      let start := method.startByte - type.startByte
      some ⟨start, start + Utf8.size method.text.toList⟩
    else none

/-- The text from `cursor` on without the spans, which are in ascending order.  There is none when
a removed span does not start and end between characters of the text. -/
def removeSpans? (text : List Char) (cursor : Nat) : List Span → Option (List Char)
  | [] => Utf8.cut? text cursor (Utf8.size text)
  | span :: rest =>
    if span.start < cursor then removeSpans? text cursor rest
    else do
      let kept ← Utf8.cut? text cursor span.start
      return kept ++ (← removeSpans? text span.stop rest)

/-- The text of a type without its methods. -/
def skeleton (type : DeclaredType) : Except Error String :=
  let text := type.text.toList
  let spans := type.methodSpans
  if spans.any (·.wrapsInto (Utf8.size text)) then .error .splitCharacter
  else
    let inside := (spans.filter (·.stop ≤ Utf8.size text)).mergeSort Span.before
    match removeSpans? text 0 inside with
    | some kept => .ok (String.ofList kept)
    | none => .error .splitCharacter

end DeclaredType

/-- The skeletons of the types of an outline, by name. -/
def Outline.skeletons (outline : Outline) : Except Error (List (String × String)) :=
  outline.types.entries.mapM fun (name, type) => do return (name, ← type.skeleton)

end JavaDiff
