import JavaDiff.Java.Mask
import JavaDiff.Proofs.Java.Declaration

/-!
# The borders of a declaration head

A head is found by classes of characters: no word character stands in front of its keyword, a blank
stands behind the keyword, and a character that could not go on with the name stands behind the
name.  The members of a type are found by identifier bytes, among which every byte of a multi-byte
character counts.  The two agree on ASCII characters, but for a dollar sign in front of a keyword.
So an identifier byte borders on a keyword or a name exactly where that dollar sign or a multi-byte
character does.
-/

namespace JavaDiff

namespace Java

open Ascii

/-- Whether an identifier byte stands right in front of an offset. -/
def identifierBefore (bytes : List UInt8) (offset : Nat) : Bool :=
  (bytes.take offset).getLast?.any isIdentifier

/-- Whether an identifier byte stands at an offset. -/
def identifierAt (bytes : List UInt8) (offset : Nat) : Bool := bytes[offset]?.any isIdentifier

/-- Whether the bytes of a character are identifier bytes. -/
def isIdentifierCharacter (character : Char) : Bool :=
  128 ≤ character.toNat || isIdentifier (UInt8.ofNat character.toNat)

theorem isIdentifier_of_mem_encodeChar {character : Char} {byte : UInt8}
    (hbyte : byte ∈ String.utf8EncodeChar character) :
    isIdentifier byte = isIdentifierCharacter character := by
  by_cases hascii : character.toNat < 128
  · have hencode : String.utf8EncodeChar character = [UInt8.ofNat character.toNat] := by
      have hsmall : character.val.toNat ≤ 127 := Nat.le_of_lt_succ hascii
      simp only [String.utf8EncodeChar, hsmall, if_true]
      rfl
    rw [hencode, List.mem_singleton] at hbyte
    rw [hbyte, isIdentifierCharacter, decide_eq_false (Nat.not_le.mpr hascii), Bool.false_or]
  · have hwide : 128 ≤ byte := by
      rcases Utf8.encodeChar_cases character with ⟨ascii, hless, hencode⟩ | ⟨-, hall⟩
      · have hsize : character.utf8Size = 1 := by
          rw [← String.length_utf8EncodeChar, hencode, List.length_singleton]
        have hsmall := UInt32.le_iff_toNat_le.mp (Char.utf8Size_eq_one_iff.mp hsize)
        exact absurd (Nat.lt_succ_of_le hsmall) hascii
      · exact hall byte hbyte
    rw [isIdentifier, isIdentifierCharacter, decide_eq_true hwide, Bool.or_true,
      decide_eq_true (Nat.not_lt.mp hascii), Bool.true_or]

theorem identifierBefore_append (left right : List Char) :
    identifierBefore (Utf8.encode (left ++ right)) (Utf8.size left) =
      left.getLast?.any isIdentifierCharacter := by
  rw [identifierBefore, Utf8.encode_append, ← Utf8.length_encode, List.take_left]
  rcases List.eq_nil_or_concat left with rfl | ⟨front, last, rfl⟩
  · rfl
  · have hne := String.utf8EncodeChar_ne_nil (c := last)
    rw [List.concat_eq_append, List.getLast?_concat, Utf8.encode_append, Utf8.encode_cons,
      Utf8.encode_nil, List.append_nil, List.getLast?_append,
      List.getLast?_eq_some_getLast hne, Option.some_or, Option.any_some, Option.any_some]
    exact isIdentifier_of_mem_encodeChar (List.getLast_mem hne)

theorem identifierAt_append (left right : List Char) :
    identifierAt (Utf8.encode (left ++ right)) (Utf8.size left) =
      right.head?.any isIdentifierCharacter := by
  rw [identifierAt, Utf8.encode_append, ← Utf8.length_encode,
    List.getElem?_append_right (Nat.le_refl _), Nat.sub_self, ← List.head?_eq_getElem?]
  cases right with
  | nil => rfl
  | cons first right =>
    have hne := String.utf8EncodeChar_ne_nil (c := first)
    rw [Utf8.encode_cons, List.head?_append, List.head?_eq_some_head hne, List.head?_cons,
      Option.some_or, Option.any_some, Option.any_some]
    exact isIdentifier_of_mem_encodeChar (List.head_mem hne)

/-- Characters of a class without ASCII identifier characters consist of identifier bytes exactly
when they are no ASCII characters. -/
theorem isIdentifierCharacter_iff {property : Char → Bool}
    (hproperty : ∀ number < 128, isIdentifierCharacter (Char.ofNat number) = true →
      property (Char.ofNat number) = false)
    {character : Char} (hcharacter : property character = true) :
    isIdentifierCharacter character = true ↔ 128 ≤ character.toNat := by
  by_cases hascii : character.toNat < 128
  · have hnone := hproperty character.toNat hascii
    rw [Char.ofNat_toNat, hcharacter] at hnone
    exact iff_of_false (fun hidentifier => Bool.false_ne_true (hnone hidentifier).symm)
      (Nat.not_le.mpr hascii)
  · simp [isIdentifierCharacter, Nat.not_lt.mp hascii]

theorem isIdentifierCharacter_of_isBlank {character : Char}
    (hblank : Blank.isBlank character = true) :
    isIdentifierCharacter character = true ↔ 128 ≤ character.toNat :=
  isIdentifierCharacter_iff (by decide +kernel) hblank

theorem isIdentifierCharacter_of_not_continuesName {character : Char}
    (hname : continuesName character = false) :
    isIdentifierCharacter character = true ↔ 128 ≤ character.toNat :=
  @isIdentifierCharacter_iff (!continuesName ·) (by decide +kernel) character (by simpa)

theorem isIdentifierCharacter_of_not_isWord {character : Char}
    (hword : Word.isWord character = false) :
    isIdentifierCharacter character = true ↔ character = '$' ∨ 128 ≤ character.toNat := by
  by_cases hdollar : character = '$'
  · subst hdollar
    exact iff_of_true (by decide) (Or.inl rfl)
  · rw [or_iff_right hdollar]
    exact @isIdentifierCharacter_iff
      (fun character => !Word.isWord character && character != '$') (by decide +kernel) character
      (by simp [hword, hdollar])

/-- Whether the keyword and the name of a head are whole identifiers among some bytes. -/
def Head.IsWhole (head : Head) (bytes : List UInt8) : Prop :=
  identifierBefore bytes head.start = false ∧
    identifierAt bytes (head.start + Utf8.size head.kind.keyword.toList) = false ∧
    identifierAt bytes head.stop = false

/-- Where the keyword and the name of a head border on identifier bytes: the keyword on a dollar
sign or a multi-byte character in front of it or on a multi-byte blank, and the name on a multi-byte
character. -/
structure Head.Borders (head : Head) (bytes : List UInt8) (left blanks right : List Char) :
    Prop where
  keyword_start : identifierBefore bytes head.start = true ↔
    ∃ character, left.getLast? = some character ∧ (character = '$' ∨ 128 ≤ character.toNat)
  keyword_stop : identifierAt bytes (head.start + Utf8.size head.kind.keyword.toList) = true ↔
    ∃ character, blanks.head? = some character ∧ 128 ≤ character.toNat
  name_stop : identifierAt bytes head.stop = true ↔
    ∃ character, right.head? = some character ∧ 128 ≤ character.toNat

/-- The words of a head are whole identifiers exactly where neither a dollar sign nor a multi-byte
character stands next to them. -/
theorem Head.Borders.isWhole_iff {head : Head} {bytes : List UInt8} {left blanks right : List Char}
    (hborders : head.Borders bytes left blanks right) :
    head.IsWhole bytes ↔
      (∀ character, left.getLast? = some character → character ≠ '$' ∧ character.toNat < 128) ∧
      (∀ character, blanks.head? = some character → character.toNat < 128) ∧
      ∀ character, right.head? = some character → character.toNat < 128 := by
  rw [Head.IsWhole, ← Bool.not_eq_true, ← Bool.not_eq_true, ← Bool.not_eq_true,
    hborders.keyword_start, hborders.keyword_stop, hborders.name_stop]
  simp only [not_exists, not_and, not_or, Nat.not_le, ne_eq]

theorem any_eq_true_iff_exists {option : Option Char} {property : Char → Bool}
    {condition : Char → Prop}
    (hcondition : ∀ character, option = some character →
      (property character = true ↔ condition character)) :
    option.any property = true ↔ ∃ character, option = some character ∧ condition character := by
  cases option with
  | none => simp
  | some character => simp [hcondition character rfl]

/-- A head stands in a text between characters that are not of its words, and its borders are known
by them. -/
theorem exists_borders_of_mem_heads {masked : List Char} {head : Head}
    (hhead : head ∈ heads masked) :
    ∃ left right headText, masked = left ++ HeadText.text headText ++ right ∧
      head = ⟨headText.kind, String.ofList headText.name, Utf8.size left,
        Utf8.size left + Utf8.size headText.text⟩ ∧
      HeadText.IsHead headText right ∧
      (∀ character, left.getLast? = some character → Word.isWord character = false) ∧
      head.Borders (Utf8.encode masked) left headText.blanks right := by
  obtain ⟨left, right, headText, hmasked, hparts, hbefore, hplace⟩ :=
    exists_isHead_of_mem_headsFrom hhead
  simp only [Option.or_none] at hbefore
  simp only [Nat.zero_add] at hplace
  refine ⟨left, right, headText, hmasked, hplace, hparts, hbefore, ?_, ?_, ?_⟩
  · rw [hplace, hmasked, List.append_assoc, identifierBefore_append]
    exact any_eq_true_iff_exists fun character hcharacter =>
      isIdentifierCharacter_of_not_isWord (hbefore character hcharacter)
  · have hsplit : masked = (left ++ headText.kind.keyword.toList) ++
        (headText.blanks ++ (headText.name ++ right)) := by
      rw [hmasked, HeadText.text]
      simp only [List.append_assoc]
    rw [hplace, hsplit, ← Utf8.size_append, identifierAt_append, List.head?_append,
      List.head?_eq_some_head hparts.blanks_ne_nil, Option.some_or]
    exact any_eq_true_iff_exists fun character hcharacter =>
      isIdentifierCharacter_of_isBlank (hparts.isBlank_of_mem character
        (List.mem_of_head? ((List.head?_eq_some_head hparts.blanks_ne_nil).trans hcharacter)))
  · rw [hplace, hmasked, ← Utf8.size_append, identifierAt_append]
    exact any_eq_true_iff_exists fun character hcharacter =>
      isIdentifierCharacter_of_not_continuesName (hparts.not_continuesName character hcharacter)

/-- The keyword and the name of every declaration are whole words of the masked source by
characters. Identifier bytes border on them exactly where a dollar sign or a multi-byte character
does, and without these the words are whole identifiers. -/
theorem exists_borders_of_mem_declarations {source : String} {declaration : Declaration}
    (hdeclaration : declaration ∈ declarations (mask source).toList) :
    ∃ left right headText, (mask source).toList = left ++ HeadText.text headText ++ right ∧
      declaration.head = ⟨headText.kind, String.ofList headText.name, Utf8.size left,
        Utf8.size left + Utf8.size headText.text⟩ ∧
      HeadText.IsHead headText right ∧
      (∀ character, left.getLast? = some character → Word.isWord character = false) ∧
      declaration.head.Borders (Utf8.encode (mask source).toList) left headText.blanks right ∧
      (declaration.head.IsWhole (Utf8.encode (mask source).toList) ↔
        (∀ character, left.getLast? = some character → character ≠ '$' ∧ character.toNat < 128) ∧
        (∀ character, headText.blanks.head? = some character → character.toNat < 128) ∧
        ∀ character, right.head? = some character → character.toNat < 128) := by
  obtain ⟨left, right, headText, hmasked, hplace, hparts, hbefore, hborders⟩ :=
    exists_borders_of_mem_heads (mem_declarations.mp hdeclaration).1
  exact ⟨left, right, headText, hmasked, hplace, hparts, hbefore, hborders, hborders.isWhole_iff⟩

/-- A source with a keyword behind a dollar sign and in front of a blank of two bytes, and a name
that a currency sign follows. -/
def borderSource : String := "class A \x7b x$class\u00a0B\u20ac \x7b \x7d \x7d"

theorem exists_borders_of_borderSource :
    ⟨⟨.classType, "B", 12, 20⟩, 24, some 26⟩ ∈ declarations (mask borderSource).toList ∧
    ∃ left right headText,
      (mask borderSource).toList = left ++ HeadText.text headText ++ right ∧
      (⟨.classType, "B", 12, 20⟩ : Head) = ⟨headText.kind, String.ofList headText.name,
        Utf8.size left, Utf8.size left + Utf8.size headText.text⟩ ∧
      HeadText.IsHead headText right ∧
      (∀ character, left.getLast? = some character → Word.isWord character = false) ∧
      Head.Borders ⟨.classType, "B", 12, 20⟩ (Utf8.encode (mask borderSource).toList) left
        headText.blanks right ∧
      (Head.IsWhole ⟨.classType, "B", 12, 20⟩ (Utf8.encode (mask borderSource).toList) ↔
        (∀ character, left.getLast? = some character → character ≠ '$' ∧ character.toNat < 128) ∧
        (∀ character, headText.blanks.head? = some character → character.toNat < 128) ∧
        ∀ character, right.head? = some character → character.toNat < 128) := by
  have hdeclaration : (⟨⟨.classType, "B", 12, 20⟩, 24, some 26⟩ : Declaration) ∈
      declarations (mask borderSource).toList := by
    decide +kernel
  exact ⟨hdeclaration, exists_borders_of_mem_declarations hdeclaration⟩

/-- The name of a declared type may be only the front of the identifier in the source. -/
theorem not_isWhole_of_currency_sign :
    ∃ declaration ∈ declarations (mask "class A\u20ac \x7b A\u20ac() \x7b \x7d \x7d").toList,
      declaration.closing?.isSome = true ∧ declaration.head.name = "A" ∧
      ¬ declaration.head.IsWhole
        (Utf8.encode (mask "class A\u20ac \x7b A\u20ac() \x7b \x7d \x7d").toList) := by
  refine ⟨⟨⟨.classType, "A", 0, 7⟩, 11, some 24⟩, by decide +kernel, rfl, rfl, ?_⟩
  rintro ⟨-, -, hname⟩
  exact absurd hname (by decide +kernel)

end Java

end JavaDiff
