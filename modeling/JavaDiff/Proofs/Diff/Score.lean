import JavaDiff.Proofs.Diff.Similarity
import JavaDiff.Proofs.Number.Rounding

/-!
# The similarity as a rounded quotient

The similarity of different texts is twice the length of a longest common subsequence over the
number of characters of both, computed with a rounding after each operation.  Rounding keeps order,
and doubling an exact number doubles its rounding.  So the rounded numerator does not pass the
rounded denominator however long the texts are, and a common character is not rounded away.

The similarity may still round to one where the texts differ.  The exact quotient is then below one,
and a threshold of one reports the difference anyway.
-/

namespace JavaDiff

theorem Binary.number_isAtLeast_number_iff {format : BinaryFormat} {left right : Nat}
    {hleft : left ≤ format.infinity} {hright : right ≤ format.infinity} :
    (Binary.number false left hleft).isAtLeast (.number false right hright) = true ↔
      right ≤ left := by
  simp only [isAtLeast, rank?, decide_eq_true_eq, Int.ofNat_le]

namespace Similarity

section CommonLength

variable {text other : List Char} {length : Nat}

/-- A common subsequence that is as long as both texts is both texts. -/
theorem IsCommonLength.two_mul_lt (hlength : IsCommonLength text other length)
    (hdifferent : text ≠ other) : 2 * length < text.length + other.length := by
  obtain ⟨common, htext, hother, rfl⟩ := hlength.attained
  have htextLength := htext.length_le
  have hotherLength := hother.length_le
  by_contra hlong
  have hequalText : common = text := htext.eq_of_length (by omega)
  have hequalOther : common = other := hother.eq_of_length (by omega)
  exact hdifferent (hequalText.symm.trans hequalOther)

theorem IsCommonLength.eq_zero_iff (hlength : IsCommonLength text other length) :
    length = 0 ↔ ∀ character ∈ text, character ∉ other := by
  constructor
  · rintro rfl character htext hother
    have hone := hlength.bounded [character] (List.singleton_sublist.mpr htext)
      (List.singleton_sublist.mpr hother)
    exact absurd hone (Nat.not_succ_le_zero 0)
  · intro hapart
    obtain ⟨common, htext, hother, rfl⟩ := hlength.attained
    cases common with
    | nil => rfl
    | cons character common =>
      exact absurd (hother.subset List.mem_cons_self)
        (hapart character (htext.subset List.mem_cons_self))

end CommonLength

open BinaryFormat

/-- Twice a number over another one, where the result of every operation is rounded. -/
structure IsRounding (common total matched doubled length quotient : Nat) : Prop where
  matched_isNearest : single.IsNearest common matched
  doubled_isNearest : single.IsNearest (2 * single.value matched) doubled
  length_isNearest : single.IsNearest total length
  quotient_isNearest : single.IsNearest (single.value doubled / single.value length) quotient

theorem value_ofNat_one : single.value (single.ofNat 1) = 1 :=
  (value_eq_two_pow 0 (by decide +kernel)).trans (pow_zero 2)

theorem value_ofNat_two : single.value (single.ofNat 2) = 2 :=
  (value_eq_two_pow 1 (by decide +kernel)).trans (pow_one 2)

theorem value_infinity : single.value single.infinity = 2 ^ 128 :=
  value_eq_two_pow 128 (by decide +kernel)

theorem isRounding_similarity (common : Nat) {total : Nat} (htotal : 0 < total) :
    IsRounding common total (single.ofNat common)
      (single.multiply (single.ofNat 2) (single.ofNat common)) (single.ofNat total)
      (single.divide (single.multiply (single.ofNat 2) (single.ofNat common))
        (single.ofNat total)) := by
  have hlength : 0 < single.ofNat total :=
    Nat.lt_of_lt_of_le (by decide +kernel) ((isNearest_ofNat (by decide) 1).mono
      (isNearest_ofNat (by decide) total) (by exact_mod_cast htotal))
  have hdoubled : single.IsNearest (2 * single.value (single.ofNat common))
      (single.multiply (single.ofNat 2) (single.ofNat common)) := by
    rw [← value_ofNat_two]
    exact isNearest_multiply (by decide) _ _
  exact ⟨isNearest_ofNat (by decide) common, hdoubled, isNearest_ofNat (by decide) total,
    isNearest_divide (by decide) _ hlength⟩

namespace IsRounding

variable {common total matched doubled length quotient : Nat}

theorem matched_le_doubled (hrounding : IsRounding common total matched doubled length quotient) :
    matched ≤ doubled := by
  have hnonneg : 0 ≤ single.value matched := value_nonneg matched
  exact (isNearest_value hrounding.matched_isNearest.le_infinity).mono
    hrounding.doubled_isNearest (by linarith)

theorem ofNat_one_le_matched (hrounding : IsRounding common total matched doubled length quotient)
    (hcommon : 0 < common) : single.ofNat 1 ≤ matched :=
  (isNearest_ofNat (by decide) 1).mono hrounding.matched_isNearest (by exact_mod_cast hcommon)

theorem doubled_eq_zero (hrounding : IsRounding 0 total matched doubled length quotient) :
    doubled = 0 := by
  have hmatched := hrounding.matched_isNearest
  rw [Nat.cast_zero] at hmatched
  have hdoubled := hrounding.doubled_isNearest
  rw [hmatched.eq_zero, value_zero, mul_zero] at hdoubled
  exact hdoubled.eq_zero

theorem doubled_le_length (hrounding : IsRounding common total matched doubled length quotient)
    (hle : 2 * common ≤ total) : doubled ≤ length := by
  rcases Nat.eq_zero_or_pos common with rfl | hpos
  · exact hrounding.doubled_eq_zero.le.trans (Nat.zero_le _)
  · have hone : single.leastNormal ≤ single.ofNat 1 := by decide +kernel
    have hnormal : single.value single.leastNormal ≤ common := by
      refine (value_strictMono.monotone hone).trans ?_
      rw [value_ofNat_one]
      exact_mod_cast hpos
    have hmatched : single.leastNormal ≤ matched :=
      hone.trans (hrounding.ofNat_one_le_matched hpos)
    have hdoubled : doubled ≤ min (matched + single.leastNormal) single.infinity := by
      refine le_min ?_ hrounding.doubled_isNearest.le_infinity
      rcases Nat.le_total (matched + single.leastNormal) single.infinity with hfinite | hinfinite
      · refine hrounding.doubled_isNearest.mono (isNearest_value hfinite) ?_
        rw [value_add_leastNormal hmatched]
      · exact hrounding.doubled_isNearest.le_infinity.trans hinfinite
    refine hdoubled.trans ?_
    exact (hrounding.matched_isNearest.double (by decide) (by decide) hnormal).mono
      hrounding.length_isNearest (by exact_mod_cast hle)

theorem quotient_le_ofNat_one
    (hrounding : IsRounding common total matched doubled length quotient)
    (hle : 2 * common ≤ total) : quotient ≤ single.ofNat 1 := by
  have hvalue : single.value doubled ≤ single.value length :=
    value_strictMono.monotone (hrounding.doubled_le_length hle)
  refine hrounding.quotient_isNearest.mono (isNearest_ofNat (by decide) 1) ?_
  rw [Nat.cast_one]
  exact div_le_one_of_le₀ hvalue (value_nonneg length)

/-- The greatest denominator is too small for a quotient that would round to zero. -/
theorem quotient_eq_zero_iff
    (hrounding : IsRounding common total matched doubled length quotient) (htotal : 0 < total) :
    quotient = 0 ↔ common = 0 := by
  have hquotient := hrounding.quotient_isNearest
  constructor
  · intro hzero
    by_contra hcommon
    have hmatched := hrounding.ofNat_one_le_matched (Nat.pos_of_ne_zero hcommon)
    have hlength : single.ofNat 1 ≤ length :=
      (isNearest_ofNat (by decide) 1).mono hrounding.length_isNearest (by exact_mod_cast htotal)
    have hleast : single.value 1 ≤ single.value doubled / single.value length :=
      calc single.value 1
          = (1 : Nat) / 2 ^ 149 := value_of_le (by decide)
        _ ≤ 1 / 2 ^ 128 := by norm_num
        _ = single.value (single.ofNat 1) / single.value single.infinity := by
          rw [value_ofNat_one, value_infinity]
        _ ≤ single.value doubled / single.value length :=
          div_le_div₀ (value_nonneg doubled)
            (value_strictMono.monotone (hmatched.trans hrounding.matched_le_doubled))
            (value_pos (Nat.lt_of_lt_of_le (by decide +kernel) hlength))
            (value_strictMono.monotone hrounding.length_isNearest.le_infinity)
    have hpos : 1 ≤ quotient := (isNearest_value (by decide)).mono hquotient hleast
    omega
  · rintro rfl
    rw [hrounding.doubled_eq_zero, value_zero, zero_div] at hquotient
    exact hquotient.eq_zero

theorem length_lt_infinity (hrounding : IsRounding common total matched doubled length quotient)
    (htotal : total ≤ 2 ^ 127) : length < single.infinity := by
  have hle : length ≤ single.ofNat (2 ^ 127) :=
    hrounding.length_isNearest.mono (isNearest_ofNat (by decide) _) (by exact_mod_cast htotal)
  exact hle.trans_lt (by decide +kernel)

end IsRounding

/-- Whether a score is twice a number of matched characters over a number of characters, computed
with a rounding after each operation.  For texts of a size that a machine can hold no operand is
infinite. -/
def IsRoundedRatio (common total : Nat) (score : Single) : Prop :=
  ∃ matched doubled length quotient, ∃ hquotient : quotient ≤ single.infinity,
    IsRounding common total matched doubled length quotient ∧
      score = .number false quotient hquotient ∧
      (total ≤ 2 ^ 127 →
        matched < single.infinity ∧ doubled < single.infinity ∧ length < single.infinity)

/-- What a score says about two texts. -/
structure IsScore (base head : String) (score : Single) : Prop where
  eq_one : base = head → score = .one
  exists_ratio : base ≠ head → ∃ common,
    IsCommonLength base.toList head.toList common ∧
      0 < base.toList.length + head.toList.length ∧
      (2 * common : ℚ) / (base.toList.length + head.toList.length : Nat) < 1 ∧
      IsRoundedRatio common (base.toList.length + head.toList.length) score
  ne_nan : score ≠ .nan
  zero_le : score.isAtLeast .zero = true
  le_one : Binary.one.isAtLeast score = true
  eq_zero_iff : base ≠ head →
    (score = .zero ↔ ∀ character ∈ base.toList, character ∉ head.toList)

theorem isScore_one (text : String) : IsScore text text .one where
  eq_one _ := rfl
  exists_ratio hdifferent := absurd rfl hdifferent
  ne_nan := nofun
  zero_le := by decide +kernel
  le_one := by decide +kernel
  eq_zero_iff hdifferent := absurd rfl hdifferent

theorem IsRounding.isScore {base head : String} {common matched doubled length quotient : Nat}
    (hdifferent : base ≠ head) (hcommon : IsCommonLength base.toList head.toList common)
    (hrounding : IsRounding common (base.toList.length + head.toList.length)
      matched doubled length quotient)
    (hquotient : quotient ≤ single.infinity) :
    IsScore base head (.number false quotient hquotient) := by
  have hlt := hcommon.two_mul_lt (mt String.toList_inj.mp hdifferent)
  have htotal : 0 < base.toList.length + head.toList.length := (Nat.zero_le _).trans_lt hlt
  have hone := hrounding.quotient_le_ofNat_one hlt.le
  refine ⟨fun hequal => absurd hequal hdifferent, fun _ => ⟨common, hcommon, htotal, ?_, ?_⟩,
    nofun, ?_, ?_, fun _ => ?_⟩
  · rw [div_lt_one (by exact_mod_cast htotal)]
    exact_mod_cast hlt
  · refine ⟨matched, doubled, length, quotient, hquotient, hrounding, rfl, fun hmachine => ?_⟩
    have hlength := hrounding.length_lt_infinity hmachine
    have hdoubled := (hrounding.doubled_le_length hlt.le).trans_lt hlength
    exact ⟨hrounding.matched_le_doubled.trans_lt hdoubled, hdoubled, hlength⟩
  · exact Binary.number_isAtLeast_number_iff.mpr (Nat.zero_le quotient)
  · exact Binary.number_isAtLeast_number_iff.mpr hone
  · rw [← hcommon.eq_zero_iff, ← hrounding.quotient_eq_zero_iff htotal]
    simp only [Binary.zero, Binary.number.injEq, true_and]

end Similarity

/-- The similarity is the normalised length of a longest common subsequence, and neither it nor the
decision by a threshold depends on the order of the texts. -/
theorem similarity_isScore (base head : String) :
    Similarity.IsScore base head (similarity base head) ∧
      similarity base head = similarity head base ∧
      ∀ threshold, isModified threshold base head = isModified threshold head base := by
  refine ⟨?_, similarity_comm base head, fun threshold => ?_⟩
  · by_cases hequal : base = head
    · rw [similarity, if_pos hequal, hequal]
      exact Similarity.isScore_one head
    · have hcommon := Similarity.isCommonLength_commonLength base.toList head.toList
      have htotal : 0 < base.toList.length + head.toList.length :=
        (Nat.zero_le _).trans_lt (hcommon.two_mul_lt (mt String.toList_inj.mp hequal))
      rw [similarity, if_neg hequal]
      exact (Similarity.isRounding_similarity _ htotal).isScore hequal hcommon _
  · simp only [isModified, eq_comm (a := base), similarity_comm base head]

/-- Three of the four characters of either text match. -/
example : similarity "abcd" "abce" = .ofQuotient false 3 4 := by
  rw [similarity, if_neg (by decide)]
  decide +kernel

open BinaryFormat in
/-- A quotient below one rounds to one where the denominator has more bits than a significand. -/
example : single.divide (single.multiply (single.ofNat 2) (single.ofNat (2 ^ 24)))
    (single.ofNat (2 ^ 25 + 1)) = single.ofNat 1 := by
  decide +kernel

end JavaDiff
