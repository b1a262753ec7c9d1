import JavaDiff.Outline.Basic
import JavaDiff.Text.Blank
import JavaDiff.Text.Letter
import JavaDiff.Text.Numeric
import JavaDiff.Text.Utf8
import JavaDiff.Text.Word

/-!
# Declaration heads

A declaration head is a type keyword, blanks and a name.  The keyword has to start a word, which
depends on the character in front of it.  The name starts with a letter, `_` or `$` and also
continues with numeric characters; it ends at the first other character.  Heads do not overlap: the search
goes on after the name.
-/

namespace JavaDiff

namespace Java

/-- Whether a character may start a declared name. -/
def startsName (character : Char) : Bool :=
  character == '_' || character == '$' || Letter.isLetter character

/-- Whether a character may continue a declared name. -/
def continuesName (character : Char) : Bool :=
  startsName character || Numeric.isNumeric character

/-- The parts of a declaration head. -/
structure HeadText where
  /-- The kind of type that the keyword declares. -/
  kind : TypeKind
  /-- The blanks after the keyword. -/
  blanks : List Char
  /-- The declared name. -/
  name : List Char
deriving DecidableEq

namespace HeadText

/-- The characters of a head. -/
def text (head : HeadText) : List Char := head.kind.keyword.toList ++ head.blanks ++ head.name

/-- The head at the start of a text. -/
def ofStart? (text : List Char) : Option HeadText := do
  let kind ← TypeKind.all.find? (·.keyword.toList.isPrefixOf text)
  let afterKeyword := text.drop kind.keyword.toList.length
  let blanks := afterKeyword.takeWhile Blank.isBlank
  let name := match afterKeyword.dropWhile Blank.isBlank with
    | [] => []
    | first :: rest => if startsName first then first :: rest.takeWhile continuesName else []
  if blanks = [] ∨ name = [] then none else some ⟨kind, blanks, name⟩

end HeadText

/-- A declaration head and its place in the source. -/
structure Head where
  /-- The kind of type that the keyword declares. -/
  kind : TypeKind
  /-- The declared name. -/
  name : String
  /-- The offset of the keyword. -/
  start : Nat
  /-- The offset after the name. -/
  stop : Nat
deriving DecidableEq

/-- The heads in a text that starts at `offset`, after the character `previous`.  The first `skip`
characters belong to an earlier head. -/
def headsFrom (skip : Nat) (previous : Option Char) (offset : Nat) : List Char → List Head
  | [] => []
  | character :: rest =>
    let next := offset + character.utf8Size
    match skip with
    | skip + 1 => headsFrom skip (some character) next rest
    | 0 =>
      let head := if previous.any Word.isWord then none else HeadText.ofStart? (character :: rest)
      match head with
      | none => headsFrom 0 (some character) next rest
      | some head =>
        ⟨head.kind, String.ofList head.name, offset, offset + Utf8.size head.text⟩ ::
          headsFrom (head.text.length - 1) (some character) next rest

/-- The heads in a masked source. -/
def heads (masked : List Char) : List Head := headsFrom 0 none 0 masked

end Java

end JavaDiff
