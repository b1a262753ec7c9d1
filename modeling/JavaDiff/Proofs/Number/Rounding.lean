import JavaDiff.Number.Binary
import Mathlib.Tactic.FieldSimp
import Mathlib.Tactic.Linarith
import Mathlib.Tactic.Positivity
import Mathlib.Tactic.Ring

/-!
# Nearest magnitudes

The rounded quotient is characterised by values alone: no magnitude is nearer to the exact quotient,
and where another one is equally near the result is even.  Infinity takes part with the value that
would follow the greatest finite one, so a number rounds to infinity from the middle between the
two on.

The values of the magnitudes are strictly increasing.  So rounding keeps the order of numbers, and
doubling a number doubles what it rounds to, unless the number is too small for a full significand.
-/

namespace JavaDiff

namespace BinaryFormat

variable {format : BinaryFormat}

/-- The least magnitude with a full significand. -/
def leastNormal (format : BinaryFormat) : Nat := 2 ^ format.fractionBits

/-- The value of a magnitude, where infinity continues the finite ones. -/
def value (format : BinaryFormat) (magnitude : Nat) : ℚ :=
  format.units magnitude / 2 ^ format.unitShift

theorem leastNormal_pos : 0 < format.leastNormal := Nat.two_pow_pos _

theorem even_leastNormal (hfraction : 0 < format.fractionBits) : Even format.leastNormal :=
  (even_two : Even 2).pow_of_ne_zero hfraction.ne'

/-- A magnitude consists of an exponent and of a significand that counts a power of two. -/
theorem units_add {shift significand : Nat} (hle : significand ≤ 2 * format.leastNormal)
    (hnormal : shift = 0 ∨ format.leastNormal ≤ significand) :
    format.units (shift * format.leastNormal + significand) = significand * 2 ^ shift := by
  have hpos := format.leastNormal_pos
  have hunits (magnitude : Nat) : format.units magnitude =
      if magnitude < format.leastNormal then magnitude
      else (format.leastNormal + magnitude % format.leastNormal) *
        2 ^ (magnitude / format.leastNormal - 1) := rfl
  rcases Nat.lt_or_ge significand format.leastNormal with hlt | hge
  · obtain rfl : shift = 0 := hnormal.resolve_right (by omega)
    rw [hunits, if_pos (by omega)]
    omega
  · obtain ⟨fraction, rfl⟩ := Nat.exists_eq_add_of_le hge
    rw [hunits, if_neg (by omega)]
    rcases Nat.lt_or_ge fraction format.leastNormal with hfraction | hfraction
    · rw [show shift * format.leastNormal + (format.leastNormal + fraction) =
          format.leastNormal * (shift + 1) + fraction by ring,
        Nat.mul_add_mod, Nat.mod_eq_of_lt hfraction, Nat.mul_add_div hpos,
        Nat.div_eq_of_lt hfraction]
      rfl
    -- the significand is a power of two, and the magnitude the first one with the next exponent
    · obtain rfl : fraction = format.leastNormal := by omega
      rw [show shift * format.leastNormal + (format.leastNormal + format.leastNormal) =
          format.leastNormal * (shift + 2) by ring, Nat.mul_mod_right,
        Nat.mul_div_cancel_left _ hpos]
      simp only [Nat.add_succ_sub_one, pow_succ]
      ring

theorem exists_significand (format : BinaryFormat) (magnitude : Nat) :
    ∃ shift significand, magnitude = shift * format.leastNormal + significand ∧
      significand < 2 * format.leastNormal ∧
      (shift = 0 ∨ format.leastNormal ≤ significand) := by
  have hpos := format.leastNormal_pos
  have hmod := Nat.mod_lt magnitude hpos
  have hsum := Nat.div_add_mod' magnitude format.leastNormal
  cases hquotient : magnitude / format.leastNormal with
  | zero =>
    rw [hquotient] at hsum
    exact ⟨0, magnitude, by omega, by omega, .inl rfl⟩
  | succ shift =>
    rw [hquotient, Nat.succ_mul] at hsum
    exact ⟨shift, format.leastNormal + magnitude % format.leastNormal, by omega, by omega,
      .inr (by omega)⟩

theorem units_strictMono : StrictMono format.units := by
  refine strictMono_nat_of_lt_succ fun magnitude => ?_
  obtain ⟨shift, significand, rfl, hlt, hnormal⟩ := format.exists_significand magnitude
  rw [units_add hlt.le hnormal, Nat.add_assoc, units_add hlt (hnormal.imp_right (by omega))]
  exact Nat.mul_lt_mul_of_pos_right (Nat.lt_succ_self _) (Nat.two_pow_pos _)

theorem value_strictMono : StrictMono format.value := by
  intro lower upper hlt
  have hunits : format.units lower < format.units upper := units_strictMono hlt
  unfold value
  gcongr

theorem value_of_le {magnitude : Nat} (hle : magnitude ≤ 2 * format.leastNormal) :
    format.value magnitude = magnitude / 2 ^ format.unitShift := by
  have hunits := units_add hle (.inl rfl)
  rw [Nat.zero_mul, Nat.zero_add, pow_zero, Nat.mul_one] at hunits
  rw [value, hunits]

theorem value_eq_two_pow {magnitude : Nat} (exponent : Nat)
    (hunits : format.units magnitude = 2 ^ (exponent + format.unitShift)) :
    format.value magnitude = 2 ^ exponent := by
  rw [value, hunits, pow_add]
  push_cast
  field_simp

theorem value_zero : format.value 0 = 0 := by
  rw [value_of_le (Nat.zero_le _), Nat.cast_zero, zero_div]

theorem value_nonneg (magnitude : Nat) : 0 ≤ format.value magnitude :=
  value_zero.symm.trans_le (value_strictMono.monotone (Nat.zero_le _))

theorem value_pos {magnitude : Nat} (hpos : 0 < magnitude) : 0 < format.value magnitude :=
  value_zero.symm.trans_lt (value_strictMono hpos)

/-- The next exponent stands for twice the value. -/
theorem value_add_leastNormal {magnitude : Nat} (hnormal : format.leastNormal ≤ magnitude) :
    format.value (magnitude + format.leastNormal) = 2 * format.value magnitude := by
  obtain ⟨shift, significand, rfl, hlt, hshift⟩ := format.exists_significand magnitude
  have hfull : format.leastNormal ≤ significand := by
    rcases hshift with rfl | hfull
    · omega
    · exact hfull
  have hnext : shift * format.leastNormal + significand + format.leastNormal =
      (shift + 1) * format.leastNormal + significand := by ring
  rw [value, value, hnext, units_add hlt.le (.inr hfull), units_add hlt.le (.inr hfull), pow_succ]
  push_cast
  ring

/-- Whether a magnitude is nearest to a number, and the even one where two are equally near. -/
structure IsNearest (format : BinaryFormat) (number : ℚ) (magnitude : Nat) : Prop where
  le_infinity : magnitude ≤ format.infinity
  distance_le : ∀ other ≤ format.infinity,
    |format.value magnitude - number| ≤ |format.value other - number|
  even_of_eq : ∀ other ≤ format.infinity, other ≠ magnitude →
    |format.value other - number| = |format.value magnitude - number| → Even magnitude

section Between

variable {number : ℚ} {magnitude : Nat}

theorem distance_of_le {other : Nat} (hle : other ≤ magnitude)
    (hlower : format.value magnitude ≤ number) :
    |format.value other - number| = number - format.value other := by
  rw [abs_sub_comm, abs_of_nonneg]
  exact sub_nonneg.mpr ((value_strictMono.monotone hle).trans hlower)

theorem distance_of_ge {other : Nat} (hge : magnitude ≤ other)
    (hupper : number ≤ format.value magnitude) :
    |format.value other - number| = format.value other - number :=
  abs_of_nonneg (sub_nonneg.mpr (hupper.trans (value_strictMono.monotone hge)))

theorem isNearest_lower (hlt : magnitude < format.infinity)
    (hlower : format.value magnitude ≤ number) (hupper : number ≤ format.value (magnitude + 1))
    (hnear : number - format.value magnitude ≤ format.value (magnitude + 1) - number)
    (heven : number - format.value magnitude = format.value (magnitude + 1) - number →
      Even magnitude) :
    format.IsNearest number magnitude where
  le_infinity := hlt.le
  distance_le other _ := by
    rw [distance_of_le le_rfl hlower]
    rcases Nat.lt_or_ge magnitude other with hgt | hle
    · rw [distance_of_ge hgt hupper]
      exact hnear.trans (sub_le_sub_right (value_strictMono.monotone hgt) _)
    · rw [distance_of_le hle hlower]
      exact sub_le_sub_left (value_strictMono.monotone hle) _
  even_of_eq other _ hne hequal := by
    rw [distance_of_le le_rfl hlower] at hequal
    rcases Nat.lt_or_ge magnitude other with hgt | hle
    · have hvalue : format.value (magnitude + 1) ≤ format.value other :=
        value_strictMono.monotone hgt
      rw [distance_of_ge hgt hupper] at hequal
      exact heven (hnear.antisymm (by linarith))
    · have hvalue : format.value other < format.value magnitude :=
        value_strictMono (hle.lt_of_ne hne)
      rw [distance_of_le hle hlower] at hequal
      linarith

theorem isNearest_upper (hlt : magnitude < format.infinity)
    (hlower : format.value magnitude ≤ number) (hupper : number ≤ format.value (magnitude + 1))
    (hnear : format.value (magnitude + 1) - number ≤ number - format.value magnitude)
    (heven : format.value (magnitude + 1) - number = number - format.value magnitude →
      Even (magnitude + 1)) :
    format.IsNearest number (magnitude + 1) where
  le_infinity := hlt
  distance_le other _ := by
    rw [distance_of_ge le_rfl hupper]
    rcases Nat.lt_or_ge magnitude other with hgt | hle
    · rw [distance_of_ge hgt hupper]
      exact sub_le_sub_right (value_strictMono.monotone hgt) _
    · rw [distance_of_le hle hlower]
      exact hnear.trans (sub_le_sub_left (value_strictMono.monotone hle) _)
  even_of_eq other _ hne hequal := by
    rw [distance_of_ge le_rfl hupper] at hequal
    rcases Nat.lt_or_ge magnitude other with hgt | hle
    · have hvalue : format.value (magnitude + 1) < format.value other :=
        value_strictMono (lt_of_le_of_ne hgt hne.symm)
      rw [distance_of_ge hgt hupper] at hequal
      linarith
    · have hvalue : format.value other ≤ format.value magnitude :=
        value_strictMono.monotone hle
      rw [distance_of_le hle hlower] at hequal
      exact heven (hnear.antisymm (by linarith))

theorem isNearest_infinity (hle : format.value format.infinity ≤ number) :
    format.IsNearest number format.infinity where
  le_infinity := le_rfl
  distance_le other hother := by
    rw [distance_of_le le_rfl hle, distance_of_le hother hle]
    exact sub_le_sub_left (value_strictMono.monotone hother) _
  even_of_eq other hother hne hequal := by
    have hvalue : format.value other < format.value format.infinity :=
      value_strictMono (hother.lt_of_ne hne)
    rw [distance_of_le le_rfl hle, distance_of_le hother hle] at hequal
    linarith

/-! In the next two lemmas a number lies `remainder` parts above a magnitude, and the magnitude
after it lies `step` parts above it. -/

variable {parts : ℚ} {remainder step : Nat}

theorem isNearest_of_two_mul_le (hlt : magnitude < format.infinity) (hparts : 0 < parts)
    (hlower : number - format.value magnitude = remainder / parts)
    (hupper : format.value (magnitude + 1) - number = (step - remainder) / parts)
    (hnear : 2 * remainder ≤ step) (heven : 2 * remainder = step → Even magnitude) :
    format.IsNearest number magnitude := by
  have hle : (remainder : ℚ) ≤ step - remainder := by
    rw [le_sub_iff_add_le, ← two_mul]
    exact_mod_cast hnear
  have hlowerNonneg : 0 ≤ (remainder : ℚ) / parts := by positivity
  have hcompare : (remainder : ℚ) / parts ≤ (step - remainder) / parts := by gcongr
  refine isNearest_lower hlt (by linarith) (by linarith) (by linarith) fun hequal => heven ?_
  rw [hlower, hupper, div_left_inj' hparts.ne', eq_sub_iff_add_eq, ← two_mul] at hequal
  exact_mod_cast hequal

theorem isNearest_of_le_two_mul (hlt : magnitude < format.infinity) (hparts : 0 < parts)
    (hlower : number - format.value magnitude = remainder / parts)
    (hupper : format.value (magnitude + 1) - number = (step - remainder) / parts)
    (hbelow : remainder ≤ step) (hnear : step ≤ 2 * remainder)
    (heven : 2 * remainder = step → Even (magnitude + 1)) :
    format.IsNearest number (magnitude + 1) := by
  have hle : (step : ℚ) - remainder ≤ remainder := by
    rw [sub_le_iff_le_add, ← two_mul]
    exact_mod_cast hnear
  have hupperNonneg : 0 ≤ ((step : ℚ) - remainder) / parts :=
    div_nonneg (sub_nonneg.mpr (by exact_mod_cast hbelow)) hparts.le
  have hcompare : ((step : ℚ) - remainder) / parts ≤ remainder / parts := by gcongr
  refine isNearest_upper hlt (by linarith) (by linarith) (by linarith) fun hequal => heven ?_
  rw [hlower, hupper, div_left_inj' hparts.ne', sub_eq_iff_eq_add, ← two_mul] at hequal
  exact_mod_cast hequal.symm

end Between

namespace IsNearest

variable {number upper : ℚ} {magnitude nearest : Nat}

/-- A number that rounds to a magnitude is not below the middle between a lower one and it. -/
theorem middle_le {other : Nat} (hnearest : format.IsNearest number magnitude)
    (hlt : other < magnitude) : format.value other + format.value magnitude ≤ 2 * number := by
  have hvalue : format.value other < format.value magnitude := value_strictMono hlt
  have hdistance := hnearest.distance_le other (hlt.le.trans hnearest.le_infinity)
  rcases abs_cases (format.value magnitude - number) with hfirst | hfirst <;>
    rcases abs_cases (format.value other - number) with hsecond | hsecond <;> linarith

theorem le_middle {other : Nat} (hnearest : format.IsNearest number magnitude)
    (hlt : magnitude < other) (hother : other ≤ format.infinity) :
    2 * number ≤ format.value magnitude + format.value other := by
  have hvalue : format.value magnitude < format.value other := value_strictMono hlt
  have hdistance := hnearest.distance_le other hother
  rcases abs_cases (format.value magnitude - number) with hfirst | hfirst <;>
    rcases abs_cases (format.value other - number) with hsecond | hsecond <;> linarith

theorem mono (hmagnitude : format.IsNearest number magnitude)
    (hnearest : format.IsNearest upper nearest) (hle : number ≤ upper) : magnitude ≤ nearest := by
  by_contra hlt
  replace hlt : nearest < magnitude := Nat.lt_of_not_le hlt
  have hlower := hmagnitude.middle_le hlt
  have hupper := hnearest.le_middle hlt hmagnitude.le_infinity
  obtain rfl : number = upper := by linarith
  -- the two magnitudes are equally near and even, so the one after the lower one is nearer
  have hequal : |format.value nearest - number| = |format.value magnitude - number| :=
    (hnearest.distance_le _ hmagnitude.le_infinity).antisymm
      (hmagnitude.distance_le _ hnearest.le_infinity)
  have hevenMagnitude := hmagnitude.even_of_eq _ hnearest.le_infinity hlt.ne hequal
  have hevenNearest := hnearest.even_of_eq _ hmagnitude.le_infinity hlt.ne' hequal.symm
  have hbetween : nearest + 1 < magnitude := by
    obtain ⟨half, rfl⟩ := hevenMagnitude
    obtain ⟨other, rfl⟩ := hevenNearest
    omega
  have hnext := hmagnitude.middle_le hbetween
  have hvalue : format.value nearest < format.value (nearest + 1) :=
    value_strictMono (Nat.lt_succ_self _)
  linarith

theorem unique (hmagnitude : format.IsNearest number magnitude)
    (hnearest : format.IsNearest number nearest) : magnitude = nearest :=
  (hmagnitude.mono hnearest le_rfl).antisymm (hnearest.mono hmagnitude le_rfl)

end IsNearest

theorem isNearest_value {magnitude : Nat} (hle : magnitude ≤ format.infinity) :
    format.IsNearest (format.value magnitude) magnitude where
  le_infinity := hle
  distance_le other _ := by
    rw [sub_self, abs_zero]
    exact abs_nonneg _
  even_of_eq other _ hne hequal := by
    rw [sub_self, abs_zero, abs_eq_zero, sub_eq_zero] at hequal
    exact absurd (value_strictMono.injective hequal) hne

theorem IsNearest.eq_zero {magnitude : Nat} (hnearest : format.IsNearest 0 magnitude) :
    magnitude = 0 := by
  rw [← format.value_zero] at hnearest
  exact hnearest.unique (isNearest_value (Nat.zero_le _))

/-- The bits of a whole number beyond those of a significand leave a significand, which is full if
there are such bits. -/
theorem significand_bounds (format : BinaryFormat) (whole : Nat) :
    let shift := (if whole = 0 then 0 else whole.log2 + 1) - (format.fractionBits + 1)
    whole / 2 ^ shift < 2 * format.leastNormal ∧
      (shift = 0 ∨ format.leastNormal ≤ whole / 2 ^ shift) := by
  intro shift
  have hnormal : 2 * format.leastNormal = 2 ^ (format.fractionBits + 1) := (pow_succ' ..).symm
  rw [hnormal, Nat.div_lt_iff_lt_mul (Nat.two_pow_pos _), ← pow_add]
  by_cases hzero : whole = 0
  · rw [hzero]
    exact ⟨Nat.two_pow_pos _, .inl (by simp only [shift, if_pos hzero, Nat.zero_sub])⟩
  · have hshift : shift = whole.log2 - format.fractionBits := by
      simp only [shift, if_neg hzero, Nat.add_sub_add_right]
    refine ⟨(Nat.lt_log2_self (n := whole)).trans_le ?_, ?_⟩
    · exact Nat.pow_le_pow_right Nat.two_pos (by omega)
    · by_cases hshort : whole.log2 ≤ format.fractionBits
      · exact .inl (by omega)
      · right
        rw [Nat.le_div_iff_mul_le (Nat.two_pow_pos _), leastNormal, ← pow_add, hshift,
          Nat.add_sub_cancel' (by omega)]
        exact Nat.log2_self_le hzero

section Quotient

variable {numerator denominator shift significand remainder : Nat}

theorem quotient_sub_value (hpos : 0 < denominator)
    (hdivision : denominator * 2 ^ shift * significand + remainder =
      numerator * 2 ^ format.unitShift)
    (hle : significand ≤ 2 * format.leastNormal)
    (hnormal : shift = 0 ∨ format.leastNormal ≤ significand) :
    (numerator : ℚ) / denominator - format.value (shift * format.leastNormal + significand) =
      remainder / (denominator * 2 ^ format.unitShift) := by
  have hscaled : (denominator : ℚ) * 2 ^ shift * significand + remainder =
      numerator * 2 ^ format.unitShift := by exact_mod_cast hdivision
  rw [value, units_add hle hnormal]
  push_cast
  field_simp
  linarith

theorem value_sub_quotient (hpos : 0 < denominator)
    (hdivision : denominator * 2 ^ shift * significand + remainder =
      numerator * 2 ^ format.unitShift)
    (hlt : significand < 2 * format.leastNormal)
    (hnormal : shift = 0 ∨ format.leastNormal ≤ significand) :
    format.value (shift * format.leastNormal + significand + 1) - (numerator : ℚ) / denominator =
      ((denominator * 2 ^ shift : Nat) - remainder) / (denominator * 2 ^ format.unitShift) := by
  have hscaled : (denominator : ℚ) * 2 ^ shift * significand + remainder =
      numerator * 2 ^ format.unitShift := by exact_mod_cast hdivision
  rw [value, Nat.add_assoc, units_add hlt (hnormal.imp_right Nat.le_succ_of_le)]
  push_cast
  field_simp
  linarith

theorem nearestWhole_cases (numerator denominator : Nat) :
    nearestWhole numerator denominator = numerator / denominator ∧
        2 * (numerator % denominator) ≤ denominator ∧
        (2 * (numerator % denominator) = denominator → Even (numerator / denominator)) ∨
      nearestWhole numerator denominator = numerator / denominator + 1 ∧
        denominator ≤ 2 * (numerator % denominator) ∧
        (2 * (numerator % denominator) = denominator → Even (numerator / denominator + 1)) := by
  simp only [nearestWhole, Nat.even_iff]
  split_ifs with hless hgreater
  · exact .inl ⟨rfl, hless.le, fun hequal => absurd hequal hless.ne⟩
  · exact .inr ⟨rfl, hgreater.le, fun hequal => absurd hequal hgreater.ne'⟩
  · rcases Nat.mod_two_eq_zero_or_one (numerator / denominator) with heven | hodd
    · exact .inl ⟨by rw [heven, Nat.add_zero], by omega, fun _ => heven⟩
    · exact .inr ⟨by rw [hodd], by omega, fun _ => by omega⟩

/-- The whole number nearest to a quotient of units is the significand of a nearest magnitude. -/
theorem isNearest_nearestWhole (hfraction : 0 < format.fractionBits) (hpos : 0 < denominator)
    (hlt : numerator * 2 ^ format.unitShift / (denominator * 2 ^ shift) < 2 * format.leastNormal)
    (hnormal : shift = 0 ∨
      format.leastNormal ≤ numerator * 2 ^ format.unitShift / (denominator * 2 ^ shift)) :
    format.IsNearest (numerator / denominator)
      (min (shift * format.leastNormal +
        nearestWhole (numerator * 2 ^ format.unitShift) (denominator * 2 ^ shift))
        format.infinity) := by
  have hcases := nearestWhole_cases (numerator * 2 ^ format.unitShift) (denominator * 2 ^ shift)
  have hdivision := Nat.div_add_mod (numerator * 2 ^ format.unitShift) (denominator * 2 ^ shift)
  have hremainder := Nat.mod_lt (numerator * 2 ^ format.unitShift)
    (Nat.mul_pos hpos (Nat.two_pow_pos shift))
  generalize nearestWhole (numerator * 2 ^ format.unitShift) (denominator * 2 ^ shift) = whole at *
  generalize numerator * 2 ^ format.unitShift / (denominator * 2 ^ shift) = significand at *
  generalize numerator * 2 ^ format.unitShift % (denominator * 2 ^ shift) = remainder at *
  have hlower := quotient_sub_value hpos hdivision hlt.le hnormal
  have hupper := value_sub_quotient hpos hdivision hlt hnormal
  have hparts : (0 : ℚ) < denominator * 2 ^ format.unitShift := by positivity
  rcases Nat.lt_or_ge (shift * format.leastNormal + significand) format.infinity with
    hfinite | hinfinite
  · have heven : Even (shift * format.leastNormal) :=
      (even_leastNormal hfraction).mul_left shift
    obtain ⟨rfl, hnear, htie⟩ | ⟨rfl, hnear, htie⟩ := hcases
    · rw [min_eq_left hfinite.le]
      exact isNearest_of_two_mul_le hfinite hparts hlower hupper hnear
        fun hequal => heven.add (htie hequal)
    · rw [← Nat.add_assoc, min_eq_left hfinite]
      exact isNearest_of_le_two_mul hfinite hparts hlower hupper hremainder.le hnear
        fun hequal => heven.add (htie hequal)
  · have hbelow : format.value (shift * format.leastNormal + significand) ≤
        numerator / denominator := by
      rw [← sub_nonneg, hlower]
      positivity
    rw [min_eq_right (by omega)]
    exact isNearest_infinity ((value_strictMono.monotone hinfinite).trans hbelow)

/-- The rounded quotient is nearest to the exact one. -/
theorem isNearest_roundQuotient (hfraction : 0 < format.fractionBits) (numerator : Nat)
    {denominator : Nat} (hpos : 0 < denominator) :
    format.IsNearest (numerator / denominator) (format.roundQuotient numerator denominator) := by
  obtain ⟨hlt, hnormal⟩ :=
    format.significand_bounds (numerator * 2 ^ format.unitShift / denominator)
  rw [Nat.div_div_eq_div_mul] at hlt hnormal
  exact isNearest_nearestWhole hfraction hpos hlt hnormal

end Quotient

section Arithmetic

variable (hfraction : 0 < format.fractionBits)
include hfraction

theorem isNearest_ofNat (number : Nat) : format.IsNearest number (format.ofNat number) := by
  have hnearest := isNearest_roundQuotient hfraction number Nat.one_pos
  rwa [Nat.cast_one, div_one] at hnearest

theorem isNearest_multiply (left right : Nat) :
    format.IsNearest (format.value left * format.value right) (format.multiply left right) := by
  have hnearest := isNearest_roundQuotient hfraction (format.units left * format.units right)
    (Nat.mul_pos (Nat.two_pow_pos format.unitShift) (Nat.two_pow_pos format.unitShift))
  push_cast at hnearest
  rwa [mul_div_mul_comm] at hnearest

theorem isNearest_divide (left : Nat) {right : Nat} (hright : 0 < right) :
    format.IsNearest (format.value left / format.value right) (format.divide left right) := by
  have hunits : 0 < format.units right := (Nat.zero_le _).trans_lt (units_strictMono hright)
  have hnearest := isNearest_roundQuotient hfraction (format.units left) hunits
  rwa [value, value, div_div_div_cancel_right₀ (by positivity)]

end Arithmetic

theorem exists_infinity_eq_add (hexponent : 1 < format.exponentBits) :
    ∃ half, format.leastNormal ≤ half ∧ format.infinity = half + format.leastNormal := by
  have hpow : 2 ^ 2 ≤ 2 ^ format.exponentBits := Nat.pow_le_pow_right Nat.two_pos hexponent
  obtain ⟨more, hmore⟩ := Nat.exists_eq_add_of_le hpow
  refine ⟨(more + 2) * format.leastNormal, Nat.le_mul_of_pos_left _ (by omega), ?_⟩
  change (2 ^ format.exponentBits - 1) * format.leastNormal = _
  rw [hmore, ← Nat.succ_mul]
  congr 1
  omega

section Double

variable {number : ℚ} {magnitude : Nat}

theorem distance_double (number : ℚ) (hmagnitude : format.leastNormal ≤ magnitude) :
    |format.value (magnitude + format.leastNormal) - 2 * number| =
      2 * |format.value magnitude - number| := by
  rw [value_add_leastNormal hmagnitude, ← mul_sub, abs_mul, abs_two]

/-- No magnitude is nearer to twice a number than each double of a magnitude with a full
significand. -/
theorem exists_nearer_double (hexponent : 1 < format.exponentBits)
    (hnormal : format.value format.leastNormal ≤ number) {other : Nat}
    (hother : other ≤ format.infinity) :
    ∃ half, format.leastNormal ≤ half ∧ half + format.leastNormal ≤ format.infinity ∧
      (other = half + format.leastNormal ∨
        |format.value (half + format.leastNormal) - 2 * number| <
          |format.value other - 2 * number|) := by
  rcases Nat.lt_or_ge other (format.leastNormal + format.leastNormal) with hlt | hge
  · obtain ⟨half, hhalf, hinfinity⟩ := exists_infinity_eq_add hexponent
    have hbelow : format.value (format.leastNormal + format.leastNormal) ≤ 2 * number := by
      rw [value_add_leastNormal le_rfl]
      exact mul_le_mul_of_nonneg_left hnormal zero_le_two
    refine ⟨format.leastNormal, le_rfl, by omega, .inr ?_⟩
    rw [distance_of_le le_rfl hbelow, distance_of_le hlt.le hbelow]
    exact sub_lt_sub_left (value_strictMono hlt) _
  · obtain ⟨half, rfl⟩ := Nat.exists_eq_add_of_le' hge
    exact ⟨half + format.leastNormal, Nat.le_add_left .., by omega, .inl (by omega)⟩

/-- A number that is not too small for a full significand doubles what it rounds to. -/
theorem IsNearest.double (hfraction : 0 < format.fractionBits)
    (hexponent : 1 < format.exponentBits) (hnearest : format.IsNearest number magnitude)
    (hnormal : format.value format.leastNormal ≤ number) :
    format.IsNearest (2 * number) (min (magnitude + format.leastNormal) format.infinity) := by
  obtain ⟨half, hhalf, hinfinity⟩ := exists_infinity_eq_add hexponent
  have hmagnitude : format.leastNormal ≤ magnitude :=
    (isNearest_value (by omega)).mono hnearest hnormal
  rcases Nat.lt_or_ge half magnitude with hgt | hle
  · have hmiddle := hnearest.middle_le hgt
    have hvalue : format.value half < format.value magnitude := value_strictMono hgt
    rw [min_eq_right (by omega)]
    refine isNearest_infinity ?_
    rw [hinfinity, value_add_leastNormal hhalf]
    linarith
  · have hdistance (other : Nat) (hother : format.leastNormal ≤ other)
        (hbound : other + format.leastNormal ≤ format.infinity) :
        |format.value (magnitude + format.leastNormal) - 2 * number| ≤
          |format.value (other + format.leastNormal) - 2 * number| := by
      rw [distance_double number hmagnitude, distance_double number hother]
      exact mul_le_mul_of_nonneg_left (hnearest.distance_le other (by omega)) zero_le_two
    rw [min_eq_left (by omega)]
    refine ⟨by omega, fun other hother => ?_, fun other hother hne hequal => ?_⟩
    · obtain ⟨half, hhalf, hbound, rfl | hnearer⟩ := exists_nearer_double hexponent hnormal hother
      · exact hdistance half hhalf hbound
      · exact (hdistance half hhalf hbound).trans hnearer.le
    · obtain ⟨half, hhalf, hbound, rfl | hnearer⟩ := exists_nearer_double hexponent hnormal hother
      · rw [distance_double number hmagnitude, distance_double number hhalf] at hequal
        have heven : Even magnitude := hnearest.even_of_eq half (by omega) (by omega)
          (mul_left_cancel₀ two_ne_zero hequal)
        exact heven.add (even_leastNormal hfraction)
      · exact absurd hequal ((hdistance half hhalf hbound).trans_lt hnearer).ne'

end Double

end BinaryFormat

end JavaDiff
