import Mathlib.Algebra.Order.Field.Power
import Mathlib.Data.Nat.Cast.Order.Field
import Mathlib.Data.Rat.Cast.Order
import Mathlib.Tactic.Linarith
import Mathlib.Tactic.Positivity
import Mathlib.Tactic.FieldSimp
import Mathlib.Tactic.NormNum
import Mathlib.Tactic.Ring
import AppLifecycle.Number.Binary64

/-!
# Rounding to 64-bit floating point

A fraction up to the largest magnitude is rounded to a finite one (`ofFraction_finite`). Where
the fraction is at least one, rounding makes it larger by less than one part in `2 ^ 53`
(`ofFraction_le`).
-/

namespace AppLifecycle.Binary64

/-- The largest finite magnitude. -/
def largest : ℚ :=
  (2 ^ 53 - 1) * 2 ^ 971

variable {numerator denominator : Nat}

/-! ## Units -/

theorem inUnits_pos (numerator : Nat) (positive : 0 < denominator) (exponent : Int) :
    0 < (inUnits numerator denominator exponent).2 := by
  unfold inUnits
  split
  · exact Nat.mul_pos positive (Nat.pow_pos (by decide))
  · exact positive

theorem inUnits_ratio (numerator denominator : Nat) (exponent : Int) :
    ((inUnits numerator denominator exponent).1 : ℚ) / (inUnits numerator denominator exponent).2 =
      numerator / denominator / 2 ^ exponent := by
  unfold inUnits
  split
  · rename_i natural
    obtain ⟨n, rfl⟩ := Int.eq_ofNat_of_zero_le natural
    simp [div_div]
  · rename_i negative
    obtain ⟨n, rfl⟩ : ∃ n : Nat, exponent = -(n : Int) := ⟨exponent.natAbs, by omega⟩
    simp [zpow_neg, div_eq_mul_inv, mul_right_comm]

theorem roundToEven_le (numerator : Nat) (positive : 0 < denominator) :
    (roundToEven numerator denominator : ℚ) ≤ numerator / denominator + 1 / 2 := by
  have parts := Nat.div_add_mod numerator denominator
  have bound : 2 * (denominator * roundToEven numerator denominator) ≤
      2 * numerator + denominator := by
    unfold roundToEven
    dsimp only
    split
    · rw [Nat.mul_succ]
      omega
    · omega
  have positive' : (0 : ℚ) < denominator := by exact_mod_cast positive
  have bound' : 2 * (denominator * (roundToEven numerator denominator : ℚ)) ≤
      2 * numerator + denominator := by exact_mod_cast bound
  rw [div_add' _ _ _ positive'.ne', le_div_iff₀ positive']
  linarith

/-! ## The unit of a fraction -/

/-- The first guess at the unit leaves a quotient of at least 52 bits. -/
theorem two_pow_log2_le (nonzero : numerator ≠ 0) (positive : 0 < denominator) :
    (2 : ℚ) ^ ((numerator.log2 : Int) - denominator.log2 - 1) ≤ numerator / denominator := by
  have above : (2 : ℚ) ^ numerator.log2 ≤ numerator := by
    exact_mod_cast Nat.log2_self_le nonzero
  have below : (denominator : ℚ) ≤ 2 ^ (denominator.log2 + 1) := by
    exact_mod_cast (Nat.lt_log2_self (n := denominator)).le
  have positive' : (0 : ℚ) < denominator := by exact_mod_cast positive
  calc (2 : ℚ) ^ ((numerator.log2 : Int) - denominator.log2 - 1)
      = 2 ^ numerator.log2 / 2 ^ (denominator.log2 + 1) := by
        rw [sub_sub, zpow_sub₀ two_ne_zero, zpow_natCast]
        norm_cast
    _ ≤ numerator / denominator := div_le_div₀ (by positivity) above positive' below

/-- Away from the smallest magnitudes the unit leaves a quotient of 53 bits. -/
theorem le_of_unitExponent (nonzero : numerator ≠ 0) (positive : 0 < denominator)
    (normal : unitExponent numerator denominator ≠ leastExponent) :
    (2 : ℚ) ^ (52 + unitExponent numerator denominator) ≤ numerator / denominator := by
  unfold unitExponent at *
  dsimp only at *
  split at normal
  · rename_i few
    have guessed := two_pow_log2_le nonzero positive
    rw [if_pos few, max_eq_left (by omega)]
    convert guessed using 2
    omega
  · rename_i many
    rw [if_neg many, max_eq_left (by omega)]
    generalize (numerator.log2 : Int) - denominator.log2 - 53 = guess at many
    have quotient := (Nat.cast_le (α := ℚ)).2 (Nat.not_lt.1 many)
    have ratio := quotient.trans Nat.cast_div_le
    rw [inUnits_ratio, le_div_iff₀ (by positivity)] at ratio
    calc (2 : ℚ) ^ (52 + (guess + 1)) = (mantissaLimit : ℚ) * 2 ^ guess := by
          rw [show 52 + (guess + 1) = 53 + guess by omega, zpow_add₀ two_ne_zero]
          norm_num [mantissaLimit]
      _ ≤ numerator / denominator := ratio

/-! ## Rounding -/

/-- The rounded quotient exceeds the exact one by half a unit at most. -/
theorem rounded_le (numerator : Nat) (positive : 0 < denominator) (exponent : Int) :
    (roundToEven (inUnits numerator denominator exponent).1
      (inUnits numerator denominator exponent).2 : ℚ) * 2 ^ exponent ≤
        numerator / denominator + 2 ^ exponent / 2 := by
  have bound := roundToEven_le (inUnits numerator denominator exponent).1
    (inUnits_pos numerator positive exponent)
  rw [inUnits_ratio] at bound
  have unit : (0 : ℚ) < 2 ^ exponent := by positivity
  calc _ ≤ ((numerator / denominator / 2 ^ exponent + 1 / 2) * 2 ^ exponent : ℚ) :=
        mul_le_mul_of_nonneg_right bound unit.le
    _ = numerator / denominator + 2 ^ exponent / 2 := by
        field_simp

theorem largest_lt {exponent : Int} (large : 971 ≤ exponent) :
    largest < (2 ^ 53 - 1 / 2) * 2 ^ exponent := by
  have unit : (2 : ℚ) ^ (971 : ℤ) ≤ 2 ^ exponent := zpow_le_zpow_right₀ one_le_two large
  rw [show (2 : ℚ) ^ (971 : ℤ) = 2 ^ 971 from zpow_natCast 2 971] at unit
  have positive : (0 : ℚ) < 2 ^ 971 := by positivity
  rw [largest]
  generalize (2 : ℚ) ^ 971 = top at *
  linarith

/-- A fraction up to the largest magnitude is rounded to a finite one, half a unit above it at
most. -/
theorem ofFraction_eq_finite (nonzero : numerator ≠ 0) (positive : 0 < denominator)
    (small : (numerator : ℚ) / denominator ≤ largest) :
    ∃ mantissa exponent, ofFraction numerator denominator = .finite mantissa exponent ∧
      (mantissa : ℚ) * 2 ^ exponent ≤
        numerator / denominator + 2 ^ unitExponent numerator denominator / 2 := by
  have bound := rounded_le numerator positive (unitExponent numerator denominator)
  have normal := le_of_unitExponent nonzero positive
  rw [ofFraction, if_neg nonzero]
  dsimp only
  generalize unitExponent numerator denominator = exponent at *
  generalize roundToEven _ _ = rounded at *
  split
  · rename_i full
    subst full
    have limit : (mantissaLimit : ℚ) = 2 ^ 53 := by norm_num [mantissaLimit]
    have few : ¬ exponent + 1 > 971 := by
      intro large
      have beyond := largest_lt (show 971 ≤ exponent by omega)
      rw [limit] at bound
      linarith
    rw [if_neg few]
    refine ⟨_, _, rfl, ?_⟩
    have half : ((mantissaLimit / 2 : Nat) : ℚ) * 2 ^ (exponent + 1) =
        mantissaLimit * 2 ^ exponent := by
      rw [zpow_add_one₀ two_ne_zero, limit]
      norm_num [mantissaLimit]
      ring
    rwa [half]
  · have few : ¬ exponent > 971 := by
      intro large
      have least := normal (by rw [leastExponent]; omega)
      have beyond := largest_lt (show 971 ≤ exponent - 1 by omega)
      rw [show 52 + exponent = 53 + (exponent - 1) by omega, zpow_add₀ two_ne_zero] at least
      have unit : (0 : ℚ) < 2 ^ (exponent - 1) := by positivity
      norm_num at least beyond
      linarith
    rw [if_neg few]
    exact ⟨_, _, rfl, bound⟩

/-- Rounding adds less than one part in `2 ^ 53`. -/
theorem ofFraction_le (positive : 0 < denominator) (least : 1 ≤ (numerator : ℚ) / denominator)
    (small : (numerator : ℚ) / denominator ≤ largest) :
    ∃ mantissa exponent, ofFraction numerator denominator = .finite mantissa exponent ∧
      (mantissa : ℚ) * 2 ^ exponent ≤ numerator / denominator * (1 + 1 / 2 ^ 53) := by
  have nonzero : numerator ≠ 0 := by
    rintro rfl
    norm_num at least
  obtain ⟨mantissa, exponent, rounded, bound⟩ := ofFraction_eq_finite nonzero positive small
  refine ⟨mantissa, exponent, rounded, bound.trans ?_⟩
  have unit : (2 : ℚ) ^ (52 + unitExponent numerator denominator) ≤ numerator / denominator := by
    by_cases normal : unitExponent numerator denominator = leastExponent
    · rw [normal, leastExponent]
      exact le_trans (zpow_le_one_of_nonpos₀ one_le_two (by norm_num)) least
    · exact le_of_unitExponent nonzero positive normal
  rw [zpow_add₀ two_ne_zero] at unit
  norm_num at unit ⊢
  linarith

end AppLifecycle.Binary64
