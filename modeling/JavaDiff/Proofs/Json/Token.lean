import JavaDiff.Json.Printer
import JavaDiff.Json.Token
import JavaDiff.Proofs.Number.Numeral

/-!
# The tokens of a written value

The text of a readable value divides into the tokens that one expects.  Escaped characters are read
as pieces that stand for them, numbers end where no numeric character follows, and the blanks of the
indented form lie between tokens.
-/

namespace JavaDiff

namespace StringPiece

theorem join?_unit {value : Nat} (hhigh : isHigh value = false) (hlow : isLow value = false)
    (rest : List StringPiece) :
    join? (unit value :: rest) = (join? rest).map (Char.ofNat value :: ·) := by
  cases rest with
  | nil => simp [join?, hhigh, hlow]
  | cons next rest => cases next <;> simp [join?, hhigh, hlow]

theorem split?_shortEscape {letter value : Char} (hletter : letter ≠ 'u')
    (hvalue : shortEscape? letter = some value) (rest : List Char) :
    split? ('\\' :: letter :: rest) =
      (split? rest).map fun parts => (character value :: parts.1, parts.2) := by
  rw [split?.eq_4 _ _ (fun _ _ _ _ _ hunit _ => hletter hunit), hvalue]
  cases split? rest <;> rfl

theorem split?_self {value : Char} (hquote : value ≠ '"') (hbackslash : value ≠ '\\')
    (hcontrol : ¬ value < ' ') (rest : List Char) :
    split? (value :: rest) =
      (split? rest).map fun parts => (character value :: parts.1, parts.2) := by
  rw [split?.eq_5 _ _ hquote (fun _ _ _ _ _ hescape _ => hbackslash hescape)
    (fun _ _ hescape _ => hbackslash hescape), if_neg (not_or.mpr ⟨hbackslash, hcontrol⟩)]

theorem split?_unit {value : Nat} (hvalue : value < 32) (rest : List Char) :
    split? ('\\' :: 'u' :: '0' :: '0' :: Json.hexDigit (value / 16) :: Json.hexDigit (value % 16) ::
      rest) = (split? rest).map fun parts => (unit value :: parts.1, parts.2) := by
  have hdigits : hexValue? ['0', '0', Json.hexDigit (value / 16), Json.hexDigit (value % 16)] =
      some value := by
    revert value
    decide
  rw [split?, hdigits]
  cases split? rest <;> rfl

/-- An escaped character is one piece, which stands for the character. -/
theorem exists_piece (value : Char) :
    ∃ piece, (∀ rest, split? (Json.escape value ++ rest) =
        (split? rest).map fun parts => (piece :: parts.1, parts.2)) ∧
      ∀ pieces, join? (piece :: pieces) = (join? pieces).map (value :: ·) := by
  by_cases hshort : value ∈ ['"', '\\', '\x08', '\x0c', '\n', '\r', '\t']
  · refine ⟨character value, fun rest => ?_, fun pieces => rfl⟩
    simp only [List.mem_cons, List.not_mem_nil, or_false] at hshort
    rcases hshort with rfl | rfl | rfl | rfl | rfl | rfl | rfl <;>
      exact split?_shortEscape (by decide) rfl rest
  · simp only [List.mem_cons, List.not_mem_nil, or_false, not_or] at hshort
    obtain ⟨hquote, hbackslash, hbackspace, hfeed, hnewline, hreturn, htab⟩ := hshort
    unfold Json.escape
    rw [if_neg hquote, if_neg hbackslash, if_neg hbackspace, if_neg hfeed, if_neg hnewline,
      if_neg hreturn, if_neg htab]
    by_cases hcontrol : value < ' '
    · have hsmall : value.toNat < 32 := hcontrol
      refine ⟨unit value.toNat, fun rest => ?_, fun pieces => ?_⟩
      · rw [if_pos hcontrol]
        exact split?_unit hsmall rest
      · rw [join?_unit (by simp [isHigh]; omega) (by simp [isLow]; omega), Char.ofNat_toNat]
    · refine ⟨character value, fun rest => ?_, fun pieces => rfl⟩
      rw [if_neg hcontrol]
      exact split?_self hquote hbackslash hcontrol rest

theorem exists_pieces (text : List Char) (rest : List Char) :
    ∃ pieces, split? (text.flatMap Json.escape ++ '"' :: rest) = some (pieces, rest) ∧
      join? pieces = some text := by
  induction text with
  | nil => exact ⟨[], rfl, rfl⟩
  | cons value text ih =>
    obtain ⟨pieces, hsplit, hjoin⟩ := ih
    obtain ⟨piece, hpiece, hvalue⟩ := exists_piece value
    refine ⟨piece :: pieces, ?_, ?_⟩
    · rw [List.flatMap_cons, List.append_assoc, hpiece, hsplit]
      rfl
    · rw [hvalue, hjoin]
      rfl

end StringPiece

namespace JsonToken

variable {rest : List Char} {tokens : List JsonToken}

/-- Whether a number or a word ends in front of a text. -/
def EndsToken (text : List Char) : Prop :=
  ∀ character ∈ text.head?, isNumeric character = false ∧ character.isAlpha = false

theorem endsToken_cons {character : Char} (hnumeric : isNumeric character = false)
    (hletter : character.isAlpha = false) (rest : List Char) : EndsToken (character :: rest) := by
  intro first hfirst
  obtain rfl := Option.some.inj hfirst
  exact ⟨hnumeric, hletter⟩

theorem takeWhile_append_of_head? {property : Char → Bool} {front back : List Char}
    (hfront : ∀ character ∈ front, property character = true)
    (hback : ∀ character ∈ back.head?, property character = false) :
    (front ++ back).takeWhile property = front ∧ (front ++ back).dropWhile property = back := by
  rw [List.takeWhile_append_of_pos hfront, List.dropWhile_append_of_pos hfront]
  cases back with
  | nil => exact ⟨List.append_nil _, rfl⟩
  | cons first back =>
    rw [List.takeWhile_cons_of_neg (by simp [hback first rfl]),
      List.dropWhile_cons_of_neg (by simp [hback first rfl]), List.append_nil]
    exact ⟨rfl, rfl⟩

theorem ofText?_blank {character : Char} (hblank : isBlank character = true)
    (hrest : ofText? rest = some tokens) : ofText? (character :: rest) = some tokens := by
  rw [ofText?, if_pos hblank, hrest]

theorem ofText?_mark {character : Char} {mark : JsonToken} (hmark : ofMark? character = some mark)
    (hrest : ofText? rest = some tokens) : ofText? (character :: rest) = some (mark :: tokens) := by
  obtain ⟨hblank, hquote, hnumber, hletter⟩ : ¬ isBlank character = true ∧ character ≠ '"' ∧
      ¬ (character.isDigit = true ∨ character = '-') ∧ ¬ character.isAlpha = true := by
    unfold ofMark? at hmark
    split at hmark
    all_goals first | decide | cases hmark
  rw [ofText?, if_neg hblank, if_neg hquote, dif_neg hnumber, dif_neg hletter, hmark, hrest]
  rfl

theorem ofText?_word {word : List Char} {token : JsonToken} (hword : ofWord? word = some token)
    (hends : EndsToken rest) (hrest : ofText? rest = some tokens) :
    ofText? (word ++ rest) = some (token :: tokens) := by
  obtain ⟨first, others, rfl, hblank, hquote, hnumber, hletters⟩ : ∃ first others,
      word = first :: others ∧ ¬ isBlank first = true ∧ first ≠ '"' ∧
      ¬ (first.isDigit = true ∨ first = '-') ∧
      (first :: others).all Char.isAlpha = true := by
    unfold ofWord? at hword
    split at hword
    · subst word
      exact ⟨_, _, rfl, by decide⟩
    · split at hword
      · subst word
        exact ⟨_, _, rfl, by decide⟩
      · split at hword
        · subst word
          exact ⟨_, _, rfl, by decide⟩
        · cases hword
  rw [List.all_eq_true] at hletters
  obtain ⟨htake, hdrop⟩ := takeWhile_append_of_head? hletters fun character hcharacter =>
    (hends character hcharacter).2
  rw [List.cons_append] at htake hdrop ⊢
  rw [ofText?, if_neg hblank, if_neg hquote, dif_neg hnumber,
    dif_pos (hletters first List.mem_cons_self)]
  dsimp only
  rw [htake, hdrop, hword, hrest]
  rfl

theorem ofText?_string (text : String) (hrest : ofText? rest = some tokens) :
    ofText? (Json.quoted text ++ rest) = some (string (some text) :: tokens) := by
  obtain ⟨pieces, hpieces, hjoin⟩ := StringPiece.exists_pieces text.toList rest
  rw [Json.quoted, List.append_assoc, List.cons_append, List.singleton_append, ofText?,
    if_neg (by decide), if_pos rfl]
  split
  · rename_i hnone
    cases hnone.symm.trans hpieces
  · rename_i others after hsplit
    obtain ⟨rfl, rfl⟩ := Prod.mk.inj (Option.some.inj (hsplit.symm.trans hpieces))
    rw [hrest, hjoin, Option.map_some, Option.map_some, String.ofList_toList]

/-- How the character of a digit is told from other characters. -/
theorem toChar_spec (digit : Digit) : isNumeric digit.toChar = true ∧
    digit.toChar.isDigit = true ∧ ¬ isBlank digit.toChar = true ∧ digit.toChar ≠ '"' := by
  revert digit
  decide

theorem isNumeric_of_mem_map {digits : List Digit} :
    ∀ character ∈ digits.map Digit.toChar, isNumeric character = true := by
  intro character hcharacter
  obtain ⟨digit, -, rfl⟩ := List.mem_map.mp hcharacter
  exact (toChar_spec digit).1

theorem isNumeric_of_mem_text {numeral : Numeral} :
    ∀ character ∈ numeral.text, isNumeric character = true := by
  have hsign (negative : Bool) :
      ∀ character ∈ (if negative then ['-'] else []), isNumeric character = true := by
    rw [← List.all_eq_true]
    cases negative <;> rfl
  intro character hcharacter
  rw [Numeral.text, List.mem_append, List.mem_append, List.mem_append] at hcharacter
  rcases hcharacter with ((hcharacter | hcharacter) | hcharacter) | hcharacter
  · exact hsign numeral.negative character hcharacter
  · exact isNumeric_of_mem_map character hcharacter
  · split at hcharacter
    · cases hcharacter
    · rcases List.mem_cons.mp hcharacter with rfl | hcharacter
      · rfl
      · exact isNumeric_of_mem_map character hcharacter
  · split at hcharacter
    · cases hcharacter
    · rename_i exponent _
      rcases List.mem_cons.mp hcharacter with rfl | hcharacter
      · rfl
      · rcases List.mem_append.mp hcharacter with hcharacter | hcharacter
        · exact hsign (decide (exponent < 0)) character (by simpa using hcharacter)
        · exact isNumeric_of_mem_map character hcharacter

theorem exists_text_eq_cons (numeral : Numeral) :
    ∃ first others, numeral.text = first :: others ∧ (first.isDigit = true ∨ first = '-') ∧
      ¬ isBlank first = true ∧ first ≠ '"' := by
  rw [Numeral.text]
  cases numeral.negative with
  | true => exact ⟨_, _, rfl, Or.inr rfl, by decide, by decide⟩
  | false =>
    obtain ⟨digit, digits, hdigits⟩ :=
      List.exists_cons_of_ne_nil (Digit.ofNat_ne_nil numeral.whole)
    rw [hdigits]
    exact ⟨_, _, rfl, (toChar_spec digit).2.imp_left Or.inl⟩

theorem ofText?_number (numeral : Numeral) (hends : EndsToken rest)
    (hrest : ofText? rest = some tokens) :
    ofText? (numeral.text ++ rest) = some (number numeral :: tokens) := by
  obtain ⟨first, others, htext, hfirst, hblank, hquote⟩ := exists_text_eq_cons numeral
  have hread := numeral.ofText?_text
  obtain ⟨htake, hdrop⟩ := takeWhile_append_of_head? isNumeric_of_mem_text
    fun character hcharacter => (hends character hcharacter).1
  rw [htext] at htake hdrop hread ⊢
  rw [List.cons_append] at htake hdrop ⊢
  rw [ofText?, if_neg hblank, if_neg hquote, dif_pos hfirst]
  dsimp only
  rw [htake, hdrop, hread, hrest]
  rfl

theorem ofText?_lineBreak (spacing : Json.Spacing) (depth : Nat)
    (hrest : ofText? rest = some tokens) :
    ofText? (spacing.lineBreak depth ++ rest) = some tokens := by
  cases spacing with
  | compact => exact hrest
  | indented =>
    refine ofText?_blank rfl ?_
    induction 2 * depth with
    | zero => exact hrest
    | succ count ih => exact ofText?_blank rfl ih

theorem ofText?_colon (spacing : Json.Spacing) (hrest : ofText? rest = some tokens) :
    ofText? (spacing.colon ++ rest) = some (colon :: tokens) := by
  cases spacing with
  | compact => exact ofText?_mark rfl hrest
  | indented => exact ofText?_mark rfl (ofText?_blank rfl hrest)

end JsonToken

namespace Json

mutual

/-- The tokens of a value. -/
def tokens : Json → List JsonToken
  | null => [.null]
  | bool value => [.bool value]
  | number numeral => [.number numeral]
  | string text? => [.string text?]
  | array [] => [.openArray, .closeArray]
  | array (element :: rest) =>
    .openArray :: (tokens element ++ (elementTokens rest ++ [.closeArray]))
  | object [] => [.openObject, .closeObject]
  | object ((key?, value) :: rest) =>
    .openObject :: .string key? :: .colon ::
      (tokens value ++ (memberTokens rest ++ [.closeObject]))

/-- The tokens of the elements after the first. -/
def elementTokens : List Json → List JsonToken
  | [] => []
  | element :: rest => .comma :: (tokens element ++ elementTokens rest)

/-- The tokens of the members after the first. -/
def memberTokens : List (Option String × Json) → List JsonToken
  | [] => []
  | (key?, value) :: rest =>
    .comma :: .string key? :: .colon :: (tokens value ++ memberTokens rest)

end

section Write

variable {rest : List Char}

open JsonToken

theorem endsToken_lineBreak (spacing : Spacing) (depth : Nat) (hrest : EndsToken rest) :
    EndsToken (spacing.lineBreak depth ++ rest) := by
  cases spacing with
  | compact => exact hrest
  | indented => exact endsToken_cons rfl rfl _

theorem endsToken_writeElements (spacing : Spacing) (depth : Nat) (elements : List Json)
    (hrest : EndsToken rest) : EndsToken (writeElements spacing depth elements ++ rest) := by
  cases elements with
  | nil => exact hrest
  | cons element elements =>
    rw [writeElements]
    exact endsToken_cons rfl rfl _

theorem endsToken_writeMembers (spacing : Spacing) (depth : Nat)
    (members : List (Option String × Json)) (hrest : EndsToken rest) :
    EndsToken (writeMembers spacing depth members ++ rest) := by
  cases members with
  | nil => exact hrest
  | cons member members =>
    rw [writeMembers]
    exact endsToken_cons rfl rfl _

mutual

/-- A readable value in front of other text divides into its tokens. -/
theorem ofText?_write (spacing : Spacing) (depth : Nat) (value : Json)
    (hreadable : value.isReadable = true) {rest : List Char} {others : List JsonToken}
    (hends : EndsToken rest) (hrest : JsonToken.ofText? rest = some others) :
    JsonToken.ofText? (value.write spacing depth ++ rest) = some (value.tokens ++ others) := by
  match value with
  | null => exact ofText?_word rfl hends hrest
  | bool true => exact ofText?_word rfl hends hrest
  | bool false => exact ofText?_word rfl hends hrest
  | number numeral => exact ofText?_number numeral hends hrest
  | string none => cases hreadable
  | string (some text) => exact ofText?_string text hrest
  | array [] => exact ofText?_mark rfl (ofText?_mark rfl hrest)
  | array (element :: elements) =>
    obtain ⟨helement, helements⟩ := Bool.and_eq_true_iff.mp hreadable
    have hclose : JsonToken.ofText? (']' :: rest) = some (.closeArray :: others) :=
      ofText?_mark rfl hrest
    have hclosing : EndsToken (spacing.lineBreak depth ++ ']' :: rest) :=
      endsToken_lineBreak spacing depth (endsToken_cons rfl rfl rest)
    have hlast := ofText?_writeElements spacing (depth + 1) elements helements hclosing
      (ofText?_lineBreak spacing depth hclose)
    have hfirst := ofText?_write spacing (depth + 1) element helement
      (endsToken_writeElements spacing (depth + 1) elements hclosing) hlast
    have hopen : JsonToken.ofText? ('[' :: _) = some (.openArray :: _) :=
      ofText?_mark rfl (ofText?_lineBreak spacing (depth + 1) hfirst)
    simpa only [write, tokens, List.append_assoc, List.cons_append, List.nil_append] using hopen
  | object [] => exact ofText?_mark rfl (ofText?_mark rfl hrest)
  | object ((none, value) :: members) => cases hreadable
  | object ((some key, value) :: members) =>
    obtain ⟨hvalue, hmembers⟩ := Bool.and_eq_true_iff.mp hreadable
    have hclose : JsonToken.ofText? ('\x7d' :: rest) = some (.closeObject :: others) :=
      ofText?_mark rfl hrest
    have hclosing : EndsToken (spacing.lineBreak depth ++ '\x7d' :: rest) :=
      endsToken_lineBreak spacing depth (endsToken_cons rfl rfl rest)
    have hlast := ofText?_writeMembers spacing (depth + 1) members hmembers hclosing
      (ofText?_lineBreak spacing depth hclose)
    have hfirst := ofText?_write spacing (depth + 1) value hvalue
      (endsToken_writeMembers spacing (depth + 1) members hclosing) hlast
    have hkey := ofText?_string key (ofText?_colon spacing hfirst)
    have hopen : JsonToken.ofText? ('\x7b' :: _) = some (.openObject :: _) :=
      ofText?_mark rfl (ofText?_lineBreak spacing (depth + 1) hkey)
    simpa only [write, tokens, quoted?, Option.getD_some, List.append_assoc, List.cons_append,
      List.nil_append] using hopen

theorem ofText?_writeElements (spacing : Spacing) (depth : Nat) (elements : List Json)
    (hreadable : elementsAreReadable elements = true) {rest : List Char}
    {others : List JsonToken} (hends : EndsToken rest)
    (hrest : JsonToken.ofText? rest = some others) :
    JsonToken.ofText? (writeElements spacing depth elements ++ rest) =
      some (elementTokens elements ++ others) := by
  match elements with
  | [] => exact hrest
  | element :: elements =>
    obtain ⟨helement, helements⟩ := Bool.and_eq_true_iff.mp hreadable
    have hlast := ofText?_writeElements spacing depth elements helements hends hrest
    have hfirst := ofText?_write spacing depth element helement
      (endsToken_writeElements spacing depth elements hends) hlast
    have hcomma : JsonToken.ofText? (',' :: _) = some (.comma :: _) :=
      ofText?_mark rfl (ofText?_lineBreak spacing depth hfirst)
    simpa only [writeElements, elementTokens, List.append_assoc, List.cons_append] using hcomma

theorem ofText?_writeMembers (spacing : Spacing) (depth : Nat)
    (members : List (Option String × Json)) (hreadable : membersAreReadable members = true)
    {rest : List Char} {others : List JsonToken} (hends : EndsToken rest)
    (hrest : JsonToken.ofText? rest = some others) :
    JsonToken.ofText? (writeMembers spacing depth members ++ rest) =
      some (memberTokens members ++ others) := by
  match members with
  | [] => exact hrest
  | (none, value) :: members => cases hreadable
  | (some key, value) :: members =>
    obtain ⟨hvalue, hmembers⟩ := Bool.and_eq_true_iff.mp hreadable
    have hlast := ofText?_writeMembers spacing depth members hmembers hends hrest
    have hfirst := ofText?_write spacing depth value hvalue
      (endsToken_writeMembers spacing depth members hends) hlast
    have hkey := ofText?_string key (ofText?_colon spacing hfirst)
    have hcomma : JsonToken.ofText? (',' :: _) = some (.comma :: _) :=
      ofText?_mark rfl (ofText?_lineBreak spacing depth hkey)
    simpa only [writeMembers, memberTokens, quoted?, Option.getD_some, List.append_assoc,
      List.cons_append] using hcomma

end

end Write

end Json

end JavaDiff
