import Mathlib.Data.Rat.Floor
import QueryGateway.Number.Binary64

/-!
# The numbers that floating-point values are

A finite value is a rational number.  Comparing it with an integer and cutting
off its fraction, which are done in integer arithmetic, are what they are on
rational numbers.
-/

namespace QueryGateway

namespace Fraction

/-- The number that a quotient is. -/
def value (fraction : Fraction) : ℚ :=
  fraction.numerator / fraction.denominator

theorem value_scaled
    {base : Nat}
    (positive : 0 < base)
    (power : Int)
    (fraction : Fraction) :
    (scaled base power fraction).value = fraction.value * (base : ℚ) ^ power := by
  have nonzero : (base : ℚ) ≠ 0 := by
    exact_mod_cast positive.ne'
  cases power with
  | ofNat up =>
      simp [scaled, value]
      ring
  | negSucc down =>
      simp [scaled, value, zpow_negSucc]
      field_simp

end Fraction

namespace Binary64

/-- The number that a finite value is, and zero for every other value. -/
def value : Binary64 → ℚ
  | .finite negative mantissa exponent =>
      let magnitude : ℚ := mantissa * 2 ^ exponent
      if negative then -magnitude else magnitude
  | .infinite _ | .nan => 0

/-- The magnitude of a finite value is a quotient with a positive denominator. -/
theorem magnitude_spec
    (mantissa : Nat)
    (exponent : Int) :
    0 < (magnitude mantissa exponent).denominator ∧
      (mantissa * 2 ^ exponent : ℚ) =
        (magnitude mantissa exponent).numerator / (magnitude mantissa exponent).denominator := by
  constructor
  · cases exponent with
    | ofNat up =>
        exact Nat.one_pos
    | negSucc down =>
        exact Nat.mul_pos Nat.one_pos (Nat.pow_pos Nat.two_pos)
  · have scaled := Fraction.value_scaled Nat.two_pos exponent ⟨mantissa, 1⟩
    simpa [Fraction.value, magnitude] using scaled.symm

variable {x : Binary64}

/-- A value other than zero is finite. -/
theorem isFinite_of_value_ne_zero
    (nonzero : x.value ≠ 0) :
    x.isFinite = true := by
  cases x with
  | finite negative mantissa exponent =>
      rfl
  | infinite negative =>
      exact absurd rfl nonzero
  | nan =>
      exact absurd rfl nonzero

/-- Comparison with an integer is comparison of numbers. -/
theorem exceeds_iff
    (finite : x.isFinite = true)
    (bound : Int) :
    x.exceeds bound = true ↔ bound < x.value := by
  cases x with
  | infinite negative =>
      cases finite
  | nan =>
      cases finite
  | finite negative mantissa exponent =>
      obtain ⟨positive, spec⟩ := magnitude_spec mantissa exponent
      have positive' : (0 : ℚ) < (magnitude mantissa exponent).denominator := by
        exact_mod_cast positive
      simp only [exceeds, value, spec, decide_eq_true_eq, gt_iff_lt]
      cases negative with
      | false =>
          rw [if_neg Bool.false_ne_true, if_neg Bool.false_ne_true, lt_div_iff₀ positive']
          norm_cast
      | true =>
          rw [if_pos rfl, if_pos rfl, ← neg_div, lt_div_iff₀ positive']
          norm_cast

theorem isAtMost_iff
    (finite : x.isFinite = true)
    (bound : Int) :
    x.isAtMost bound = true ↔ x.value ≤ bound := by
  rw [← not_lt, ← exceeds_iff finite]
  cases x with
  | infinite negative =>
      cases finite
  | nan =>
      cases finite
  | finite negative mantissa exponent =>
      simp [isAtMost]

/-- What is left of a number that is not negative without its fraction is its floor. -/
theorem truncate?_eq
    (finite : x.isFinite = true)
    (nonnegative : 0 ≤ x.value) :
    x.truncate? = some ⌊x.value⌋ := by
  cases x with
  | infinite negative =>
      cases finite
  | nan =>
      cases finite
  | finite negative mantissa exponent =>
      obtain ⟨positive, spec⟩ := magnitude_spec mantissa exponent
      cases negative with
      | false =>
          simp only [truncate?, value, spec, Bool.false_eq_true, if_false]
          norm_cast
      | true =>
          have magnitudeZero : (mantissa * 2 ^ exponent : ℚ) = 0 := by
            have below : (0 : ℚ) ≤ mantissa * 2 ^ exponent :=
              mul_nonneg (Nat.cast_nonneg _) (zpow_nonneg zero_le_two _)
            have above : (0 : ℚ) ≤ -(mantissa * 2 ^ exponent) := nonnegative
            linarith
          have numeratorZero : (magnitude mantissa exponent).numerator = 0 := by
            rw [spec, div_eq_zero_iff] at magnitudeZero
            rcases magnitudeZero with zero | zero
            · exact_mod_cast zero
            · exact absurd (by exact_mod_cast zero) positive.ne'
          simp [truncate?, value, magnitudeZero, numeratorZero]

end Binary64

end QueryGateway
