/-!
# ASCII bytes

The bytes that delimit Java source, and the two byte classes that token scanning rests on: blanks
and identifier bytes.  A byte of a multi-byte character is never a blank and always counts as an
identifier byte, so a run of identifier bytes never ends inside a character.
-/

namespace JavaDiff

namespace Ascii

/-- The line feed, which alone ends a line. -/
abbrev newline : UInt8 := 10

/-- The space, which stands in for every blanked byte. -/
abbrev space : UInt8 := 32

/-- The double quote. -/
abbrev quote : UInt8 := 34

/-- The single quote. -/
abbrev apostrophe : UInt8 := 39

/-- The opening parenthesis. -/
abbrev openParen : UInt8 := 40

/-- The closing parenthesis. -/
abbrev closeParen : UInt8 := 41

/-- The asterisk. -/
abbrev star : UInt8 := 42

/-- The full stop. -/
abbrev dot : UInt8 := 46

/-- The slash. -/
abbrev slash : UInt8 := 47

/-- The semicolon. -/
abbrev semicolon : UInt8 := 59

/-- The less-than sign, which opens type parameters. -/
abbrev openAngle : UInt8 := 60

/-- The equals sign. -/
abbrev equals : UInt8 := 61

/-- The greater-than sign, which closes type parameters. -/
abbrev closeAngle : UInt8 := 62

/-- The at sign, which starts an annotation. -/
abbrev atSign : UInt8 := 64

/-- The closing bracket of an array type. -/
abbrev closeBracket : UInt8 := 93

/-- The backslash. -/
abbrev backslash : UInt8 := 92

/-- The opening brace. -/
abbrev openBrace : UInt8 := 123

/-- The closing brace. -/
abbrev closeBrace : UInt8 := 125

/-- The blanks between tokens: space, tab, line feed, form feed and carriage return. -/
def isBlank (byte : UInt8) : Bool :=
  byte == 32 || byte == 9 || byte == 10 || byte == 12 || byte == 13

/-- The decimal digits. -/
def isDigit (byte : UInt8) : Bool := 48 ≤ byte && byte ≤ 57

/-- The ASCII letters. -/
def isLetter (byte : UInt8) : Bool :=
  (65 ≤ byte && byte ≤ 90) || (97 ≤ byte && byte ≤ 122)

/-- The bytes that belong to an identifier: letters, digits, `_`, `$` and every byte of a
multi-byte character. -/
def isIdentifier (byte : UInt8) : Bool :=
  isLetter byte || isDigit byte || byte == 95 || byte == 36 || 128 ≤ byte

end Ascii

end JavaDiff
