import JavaDiff.Number.Numeral

/-!
# Numerals read back

A numeral is read back from its text: the digits of a number stand for the number and have no
needless leading zero, a run of digits ends at the first character that is no digit, and each part
starts with a mark that the part before it cannot contain.
-/

namespace JavaDiff

namespace Digit

theorem ofNatAppend_eq (number : Nat) (rest : List Digit) :
    ofNatAppend number rest = ofNat number ++ rest := by
  have happend (front back : List Digit) :
      ofNatAppend number (front ++ back) = ofNatAppend number front ++ back := by
    fun_induction ofNatAppend number front with
    | case1 number front last hsmall =>
      rw [ofNatAppend, if_pos hsmall]
      rfl
    | case2 number front last hlarge ih =>
      rw [ofNatAppend, if_neg hlarge, ← List.cons_append, ih]
  exact happend [] rest

theorem ofNat_eq (number : Nat) :
    ofNat number = (if number < 10 then [] else ofNat (number / 10)) ++
      [⟨number % 10, Nat.mod_lt _ (by decide)⟩] := by
  rw [ofNat, ofNatAppend]
  split
  · rfl
  · rw [ofNatAppend_eq]

theorem toNat_append (front back : List Digit) :
    toNat (front ++ back) =
      back.foldl (fun number digit => 10 * number + digit.val) (toNat front) :=
  List.foldl_append

theorem toNat_ofNat (number : Nat) : toNat (ofNat number) = number := by
  induction number using Nat.strongRecOn with
  | ind number ih =>
    rw [ofNat_eq, toNat_append]
    split
    · rename_i hsmall
      exact (Nat.zero_add _).trans (Nat.mod_eq_of_lt hsmall)
    · rw [ih (number / 10) (by omega)]
      exact Nat.div_add_mod number 10

theorem ofNat_ne_nil (number : Nat) : ofNat number ≠ [] := by
  rw [ofNat_eq]
  exact List.append_ne_nil_of_right_ne_nil _ (List.cons_ne_nil _ _)

theorem eq_zero_of_head? {number : Nat} (hhead : (ofNat number).head? = some zero) :
    number = 0 := by
  induction number using Nat.strongRecOn with
  | ind number ih =>
    rw [ofNat_eq] at hhead
    split at hhead
    · rename_i hsmall
      have hlast : number % 10 = 0 := congrArg Fin.val (Option.some.inj hhead)
      omega
    · obtain ⟨first, others, hfirst⟩ := List.exists_cons_of_ne_nil (ofNat_ne_nil (number / 10))
      have hzero := ih (number / 10) (by omega) (by rw [hfirst] at hhead ⊢; exact hhead)
      omega

@[simp]
theorem ofChar?_toChar (digit : Digit) : ofChar? digit.toChar = some digit := by
  revert digit
  decide

end Digit

namespace Numeral

/-- A run of digits ends where no digit follows. -/
theorem splitDigits_append (digits : List Digit) {rest : List Char}
    (hrest : ∀ character ∈ rest.head?, Digit.ofChar? character = none) :
    splitDigits (digits.map Digit.toChar ++ rest) = (digits, rest) := by
  induction digits with
  | nil =>
    cases rest with
    | nil => rfl
    | cons character rest =>
      simp only [List.map_nil, List.nil_append, splitDigits, hrest character rfl]
  | cons digit digits ih =>
    simp only [List.map_cons, List.cons_append, splitDigits, Digit.ofChar?_toChar, ih]

theorem splitDigits_map (digits : List Digit) :
    splitDigits (digits.map Digit.toChar) = (digits, []) := by
  have hsplit : splitDigits (digits.map Digit.toChar ++ []) = (digits, []) :=
    splitDigits_append digits nofun
  rwa [List.append_nil] at hsplit

/-- A sign is told from a digit, which comes in its place when there is none. -/
theorem head?_map_toChar_ne {digits : List Digit} {character : Char}
    (hcharacter : Digit.ofChar? character = none) (rest : List Char) (hdigits : digits ≠ []) :
    (digits.map Digit.toChar ++ rest).head? ≠ some character := by
  cases digits with
  | nil => exact absurd rfl hdigits
  | cons digit digits =>
    intro hhead
    have hsame : digit.toChar = character := Option.some.inj hhead
    rw [← hsame, Digit.ofChar?_toChar] at hcharacter
    cases hcharacter

theorem exponentValue?_exponentText (exponent : Int) :
    exponentValue? (exponentText exponent) = some exponent := by
  obtain ⟨first, others, hdigits⟩ :=
    List.exists_cons_of_ne_nil (Digit.ofNat_ne_nil exponent.natAbs)
  have hvalue := Digit.toNat_ofNat exponent.natAbs
  have hsplit := splitDigits_map (first :: others)
  rw [hdigits] at hvalue
  unfold exponentText exponentValue?
  rw [hdigits]
  by_cases hnegative : exponent < 0
  · simp only [if_pos hnegative, List.cons_append, List.nil_append, List.head?_cons,
      beq_self_eq_true, Bool.true_or, if_true, List.drop_succ_cons, List.drop_zero, hsplit, hvalue]
    exact congrArg some (by omega)
  · have hsign {character : Char} (hcharacter : Digit.ofChar? character = none) :
        (((first :: others).map Digit.toChar).head? == some character) = false := by
      have hhead := head?_map_toChar_ne hcharacter [] (List.cons_ne_nil first others)
      rw [List.append_nil] at hhead
      exact beq_false_of_ne hhead
    simp only [if_neg hnegative, List.nil_append, hsign (show Digit.ofChar? '-' = none by decide),
      hsign (show Digit.ofChar? '+' = none by decide), Bool.or_self, Bool.false_eq_true, if_false,
      hsplit, hvalue]
    exact congrArg some (by omega)

/-- The characters of the exponent of a numeral, with its mark. -/
def exponentPart (exponent? : Option Int) : List Char :=
  match exponent? with
  | none => []
  | some exponent => 'e' :: exponentText exponent

/-- The characters of the fraction of a numeral, with its mark. -/
def fractionPart (fraction : List Digit) : List Char :=
  if fraction = [] then [] else '.' :: fraction.map Digit.toChar

theorem ofChar?_head?_exponentPart (exponent? : Option Int) :
    ∀ character ∈ (exponentPart exponent?).head?, Digit.ofChar? character = none := by
  intro character hcharacter
  cases exponent? with
  | none => cases hcharacter
  | some exponent =>
    obtain rfl : 'e' = character := Option.some.inj hcharacter
    decide

theorem splitFraction?_fractionPart (fraction : List Digit) (exponent? : Option Int) :
    splitFraction? (fractionPart fraction ++ exponentPart exponent?) =
      some (fraction, exponentPart exponent?) := by
  cases fraction with
  | nil => cases exponent? <;> rfl
  | cons digit fraction =>
    have hsplit := splitDigits_append (digit :: fraction) (ofChar?_head?_exponentPart exponent?)
    simp only [fractionPart, reduceCtorEq, if_false, List.cons_append, splitFraction?, hsplit]

theorem ofChar?_head?_fractionPart (fraction : List Digit) (exponent? : Option Int) :
    ∀ character ∈ (fractionPart fraction ++ exponentPart exponent?).head?,
      Digit.ofChar? character = none := by
  intro character hcharacter
  cases fraction with
  | nil => exact ofChar?_head?_exponentPart exponent? character hcharacter
  | cons digit fraction =>
    obtain rfl : '.' = character := Option.some.inj hcharacter
    decide

theorem not_leadingZero (whole : Nat) :
    ¬ (Digit.ofNat whole = [] ∨
      (Digit.ofNat whole).head? = some .zero ∧ Digit.ofNat whole ≠ [.zero]) := by
  rintro (hnil | ⟨hhead, hdigits⟩)
  · exact Digit.ofNat_ne_nil whole hnil
  · obtain rfl := Digit.eq_zero_of_head? hhead
    exact hdigits (by rw [Digit.ofNat_eq]; rfl)

/-- A numeral is read back from its text. -/
theorem ofText?_text (numeral : Numeral) : ofText? numeral.text = some numeral := by
  obtain ⟨negative, whole, fraction, exponent?⟩ := numeral
  obtain ⟨body, hbody⟩ : ∃ body, (Digit.ofNat whole).map Digit.toChar ++
      (fractionPart fraction ++ exponentPart exponent?) = body := ⟨_, rfl⟩
  have htext : text ⟨negative, whole, fraction, exponent?⟩ =
      (if negative then ['-'] else []) ++ body := by
    rw [← hbody, text, List.append_assoc, List.append_assoc]
    rfl
  have hsign : (((if negative then ['-'] else []) ++ body).head? == some '-') = negative := by
    cases negative with
    | true => rfl
    | false =>
      rw [← hbody]
      exact beq_false_of_ne (head?_map_toChar_ne (by decide) _ (Digit.ofNat_ne_nil whole))
  have hrest : (if negative then ((if negative then ['-'] else []) ++ body).drop 1
      else (if negative then ['-'] else []) ++ body) = body := by
    cases negative <;> rfl
  have hsplit := splitDigits_append (Digit.ofNat whole)
    (ofChar?_head?_fractionPart fraction exponent?)
  rw [hbody] at hsplit
  unfold ofText?
  rw [htext]
  simp only [hsign, hrest, hsplit, if_neg (not_leadingZero whole), splitFraction?_fractionPart,
    Option.bind_eq_bind, Option.bind_some, Digit.toNat_ofNat]
  cases exponent? with
  | none => rfl
  | some exponent =>
    simp only [exponentPart, true_or, if_true, exponentValue?_exponentText, Option.bind_some]
    rfl

end Numeral

end JavaDiff
