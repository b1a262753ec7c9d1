import JavaDiff.Diff.Similarity

/-!
# Longest common subsequences

The row computation finds the length of a longest common subsequence: some common subsequence has
that length, and none is longer.  So the length does not depend on the order of the two texts, and
neither does their similarity.
-/

namespace JavaDiff

namespace Similarity

/-- The greatest length of a common subsequence of two texts. -/
structure IsCommonLength (text other : List Char) (length : Nat) : Prop where
  attained : ∃ common : List Char,
    common.Sublist text ∧ common.Sublist other ∧ common.length = length
  bounded : ∀ common : List Char,
    common.Sublist text → common.Sublist other → common.length ≤ length

namespace IsCommonLength

variable {text other : List Char} {length : Nat}

theorem symm (hlength : IsCommonLength text other length) : IsCommonLength other text length where
  attained := by
    obtain ⟨common, htext, hother, hcommon⟩ := hlength.attained
    exact ⟨common, hother, htext, hcommon⟩
  bounded common hother htext := hlength.bounded common htext hother

theorem unique {second : Nat} (hfirst : IsCommonLength text other length)
    (hsecond : IsCommonLength text other second) : length = second := by
  obtain ⟨common, htext, hother, rfl⟩ := hfirst.attained
  obtain ⟨longest, hlongestText, hlongestOther, rfl⟩ := hsecond.attained
  exact Nat.le_antisymm (hsecond.bounded common htext hother)
    (hfirst.bounded longest hlongestText hlongestOther)

theorem nil_left (other : List Char) : IsCommonLength [] other 0 where
  attained := ⟨[], .slnil, List.nil_sublist other, rfl⟩
  bounded common hnil _ := by simp [List.sublist_nil.mp hnil]

/-- A character that starts both texts starts a longest common subsequence. -/
theorem cons_cons (character : Char) (hlength : IsCommonLength text other length) :
    IsCommonLength (character :: text) (character :: other) (length + 1) where
  attained := by
    obtain ⟨common, htext, hother, rfl⟩ := hlength.attained
    exact ⟨character :: common, htext.cons_cons character, hother.cons_cons character, rfl⟩
  bounded common htext hother := by
    cases common with
    | nil => exact Nat.zero_le _
    | cons first common =>
      exact Nat.succ_le_succ (hlength.bounded common htext.of_cons_cons hother.of_cons_cons)

/-- A common subsequence of texts that start with different characters leaves out one of the two. -/
theorem cons_cons_of_ne {character first : Char} {second : Nat} (hdifferent : character ≠ first)
    (hrest : IsCommonLength text (first :: other) length)
    (hother : IsCommonLength (character :: text) other second) :
    IsCommonLength (character :: text) (first :: other) (max length second) where
  attained := by
    rcases Nat.le_total second length with hle | hle
    · obtain ⟨common, htext, hboth, rfl⟩ := hrest.attained
      exact ⟨common, htext.cons character, hboth, (Nat.max_eq_left hle).symm⟩
    · obtain ⟨common, hboth, hshort, rfl⟩ := hother.attained
      exact ⟨common, hboth, hshort.cons first, (Nat.max_eq_right hle).symm⟩
  bounded common htext hboth := by
    cases htext with
    | cons _ hshort => exact Nat.le_trans (hrest.bounded common hshort hboth) (Nat.le_max_left ..)
    | cons_cons _ hshort =>
      cases hboth with
      | cons _ hsecond =>
        exact Nat.le_trans (hother.bounded _ (hshort.cons_cons character) hsecond)
          (Nat.le_max_right ..)
      | cons_cons => exact absurd rfl hdifferent

end IsCommonLength

/-- The lengths of the longest common subsequences of a text with every suffix of another. -/
inductive IsRow (text : List Char) : List Char → List Nat → Prop
  | nil : IsRow text [] [0]
  | cons {first : Char} {others : List Char} {length : Nat} {rest : List Nat} :
      IsCommonLength text (first :: others) length → IsRow text others rest →
      IsRow text (first :: others) (length :: rest)

theorem IsRow.headD {text other : List Char} {lengths : List Nat} (hrow : IsRow text other lengths) :
    IsCommonLength text other (lengths.headD 0) := by
  cases hrow with
  | nil => exact (IsCommonLength.nil_left text).symm
  | cons hlength _ => exact hlength

/-- One step of the computation turns the row of a text into that of a longer one. -/
theorem isRow_extendRow (character : Char) {text other : List Char} {lengths : List Nat}
    (hrow : IsRow text other lengths) :
    IsRow (character :: text) other (extendRow character other lengths) := by
  induction hrow with
  | nil => exact .nil
  | @cons first others length rest hlength hrest ih =>
    refine .cons ?_ ih
    by_cases hequal : character = first
    · subst hequal
      simpa using hrest.headD.cons_cons character
    · simpa [hequal] using hlength.cons_cons_of_ne hequal ih.headD

theorem isRow_row (text other : List Char) : IsRow text other (row text other) := by
  induction text with
  | nil =>
    induction other with
    | nil => exact .nil
    | cons first others ih => exact .cons (.nil_left _) ih
  | cons character text ih => exact isRow_extendRow character ih

theorem isCommonLength_commonLength (text other : List Char) :
    IsCommonLength text other (commonLength text other) :=
  (isRow_row text other).headD

theorem commonLength_comm (text other : List Char) :
    commonLength text other = commonLength other text :=
  (isCommonLength_commonLength text other).unique (isCommonLength_commonLength other text).symm

end Similarity

theorem similarity_comm (base head : String) : similarity base head = similarity head base := by
  unfold similarity
  simp only [eq_comm (a := base), Similarity.commonLength_comm base.toList,
    Nat.add_comm base.toList.length]

end JavaDiff
