import JavaDiff.Settings

/-!
# The effective threshold

The effective threshold is a number from zero to one whatever the threshold was.  It reaches one
only when it is one, so the comparison with one is a test for equality.
-/

namespace JavaDiff

namespace Binary

variable {format : BinaryFormat}

/-- A place above zero belongs to one number only. -/
theorem eq_of_rank?_eq {left right : Binary format} {rank : Int} (hpositive : 0 < rank)
    (hleft : left.rank? = some rank) (hright : right.rank? = some rank) : left = right := by
  have hnumber {value : Binary format} (hvalue : value.rank? = some rank) :
      ∃ magnitude bounded, value = number false magnitude bounded ∧ rank = magnitude := by
    cases value with
    | nan => cases hvalue
    | number negative magnitude bounded =>
      cases negative with
      | true =>
        have hrank : -(magnitude : Int) = rank := Option.some.inj hvalue
        omega
      | false => exact ⟨magnitude, bounded, rfl, (Option.some.inj hvalue).symm⟩
  obtain ⟨magnitude, bounded, rfl, hrank⟩ := hnumber hleft
  obtain ⟨other, hother, rfl, hsame⟩ := hnumber hright
  obtain rfl : magnitude = other := by omega
  rfl

theorem rank?_one : (one : Single).rank? = some 1065353216 := by decide +kernel

theorem isLess_of_isLess_of_isAtLeast {value lower upper : Binary format}
    (hless : value.isLess lower = true) (hle : upper.isAtLeast lower = true) :
    value.isLess upper = true := by
  rw [isLess] at hless ⊢
  rw [isAtLeast] at hle
  cases hvalue : value.rank? <;> cases hlower : lower.rank? <;> cases hupper : upper.rank? <;>
    simp only [hvalue, hlower, hupper, decide_eq_true_eq, Bool.false_eq_true] at hless hle ⊢
  omega

end Binary

namespace Settings

theorem effectiveThreshold_bounds (settings : Settings) :
    ∃ rank, settings.effectiveThreshold.rank? = some rank ∧ 0 ≤ rank ∧ rank ≤ 1065353216 := by
  rw [effectiveThreshold]
  cases hthreshold : settings.threshold with
  | nan => exact ⟨_, Binary.rank?_one, by decide, by decide⟩
  | number negative magnitude bounded =>
    obtain ⟨rank, hrank⟩ :
        ∃ rank, (Binary.number negative magnitude bounded).rank? = some rank := by
      cases negative <;> exact ⟨_, rfl⟩
    simp only
    split
    · exact ⟨0, rfl, by decide, by decide⟩
    · rename_i hzero
      split
      · exact ⟨_, Binary.rank?_one, by decide, by decide⟩
      · rename_i hone
        have hzeroRank : (Binary.zero : Single).rank? = some 0 := rfl
        simp only [Binary.isLess, hrank, hzeroRank, Binary.rank?_one, decide_eq_true_eq]
          at hzero hone
        exact ⟨rank, hrank, by omega, by omega⟩

/-- The effective threshold reaches one only when it is one. -/
theorem effectiveThreshold_isAtLeast_one_iff (settings : Settings) :
    settings.effectiveThreshold.isAtLeast .one = true ↔ settings.effectiveThreshold = .one := by
  obtain ⟨rank, hrank, -, hle⟩ := settings.effectiveThreshold_bounds
  constructor
  · intro hatLeast
    simp only [Binary.isAtLeast, hrank, Binary.rank?_one, decide_eq_true_eq] at hatLeast
    obtain rfl : rank = 1065353216 := by omega
    exact Binary.eq_of_rank?_eq (by decide) hrank Binary.rank?_one
  · intro hone
    rw [hone, Binary.isAtLeast, Binary.rank?_one]
    rfl

end Settings

end JavaDiff
