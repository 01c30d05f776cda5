import AppLifecycle.Proofs.Binary64
import AppLifecycle.Proofs.Json.Writing

/-!
# Numbers that can be read

A number that is no whole number of 64 bits is read as floating point: as many of its digits as
fit 64 bits are rounded, and multiplied by a rounded power of ten. Three roundings may take a
number that is just within the range of floating point out of it. A number that is four units
or more below the end of the range is always read (`NumberParts.value_of_magnitude_le`).
-/

namespace AppLifecycle

namespace Binary64

/-! ## Products and powers of ten -/

theorem toFraction_pos (mantissa : Nat) (exponent : Int) :
    0 < (toFraction mantissa exponent).2 := by
  unfold toFraction
  split
  · exact Nat.one_pos
  · exact Nat.pow_pos (by decide)

theorem toFraction_ratio (mantissa : Nat) (exponent : Int) :
    ((toFraction mantissa exponent).1 : ℚ) / (toFraction mantissa exponent).2 =
      mantissa * 2 ^ exponent := by
  unfold toFraction
  split
  · rename_i natural
    obtain ⟨n, rfl⟩ := Int.eq_ofNat_of_zero_le natural
    simp
  · rename_i negative
    obtain ⟨n, rfl⟩ : ∃ n : Nat, exponent = -(n : Int) := ⟨exponent.natAbs, by omega⟩
    simp [zpow_neg, div_eq_mul_inv]

/-- A fraction up to the largest magnitude is rounded to a finite one. -/
theorem ofFraction_ne_infinite {numerator denominator : Nat} (positive : 0 < denominator)
    (small : (numerator : ℚ) / denominator ≤ largest) :
    ofFraction numerator denominator ≠ infinite := by
  by_cases zero : numerator = 0
  · intro overflow
    rw [ofFraction, if_pos zero] at overflow
    cases overflow
  · obtain ⟨mantissa, exponent, rounded, _⟩ := ofFraction_eq_finite zero positive small
    intro overflow
    rw [rounded] at overflow
    cases overflow

theorem mul_ne_infinite {m n : Nat} {e f : Int}
    (small : (m * 2 ^ e : ℚ) * (n * 2 ^ f) ≤ largest) :
    (finite m e).mul (finite n f) ≠ infinite := by
  apply ofFraction_ne_infinite
  · exact Nat.mul_pos (toFraction_pos m e) (toFraction_pos n f)
  · push_cast
    rwa [mul_div_mul_comm, toFraction_ratio, toFraction_ratio]

/-- A whole number is rounded up by less than one part in `2 ^ 53`. -/
theorem ofNat_le {n : Nat} (nonzero : n ≠ 0) (small : (n : ℚ) ≤ largest) :
    ∃ mantissa exponent, ofNat n = .finite mantissa exponent ∧
      (mantissa : ℚ) * 2 ^ exponent ≤ n * (1 + 1 / 2 ^ 53) := by
  have least : (1 : ℚ) ≤ n := by exact_mod_cast Nat.one_le_iff_ne_zero.2 nonzero
  have ratio : ((n : ℚ) / (1 : Nat)) = n := by simp
  have rounded := ofFraction_le Nat.one_pos (least.trans_eq ratio.symm) (ratio.trans_le small)
  rwa [ratio] at rounded

/-- Nothing goes wrong where the point moves to the left. -/
theorem scaleByTen_of_neg (magnitude : Binary64) {exponent : Int} (negative : exponent < 0) :
    (magnitude.scaleByTen exponent).isSome := by
  fun_induction scaleByTen magnitude exponent with
  | case1 | case2 | case3 | case4 => omega
  | case5 | case6 => rfl
  | case7 magnitude exponent _ far _ ih =>
      apply ih
      rw [largestTenPower] at *
      omega

/-- The largest finite magnitude, a whole number. -/
def largestWhole : Nat :=
  (2 ^ 53 - 1) * 2 ^ 971

theorem cast_largestWhole : (largestWhole : ℚ) = largest := by
  have units : ((2 ^ 53 - 1 : Nat) : ℚ) = 2 ^ 53 - 1 := by norm_num
  rw [largestWhole, largest, Nat.cast_mul, Nat.cast_pow, units, Nat.cast_ofNat]

/-- Four units below the end of the range. -/
def safe : ℚ :=
  (2 ^ 53 - 4) * 2 ^ 971

/-- What the digits that do not fit 64 bits may add to a number. -/
def slack : ℚ :=
  1 + 1 / 2 ^ 60

/-- Three roundings do not use up four units. -/
theorem safe_mul_le : safe * slack * ((1 + 1 / 2 ^ 53) * (1 + 1 / 2 ^ 53)) ≤ largest := by
  have units : ((2 ^ 53 - 4) * slack * ((1 + 1 / 2 ^ 53) * (1 + 1 / 2 ^ 53)) : ℚ) ≤ 2 ^ 53 - 1 := by
    norm_num [slack]
  have scaled := mul_le_mul_of_nonneg_right units (show (0 : ℚ) ≤ 2 ^ 971 by positivity)
  rw [safe, largest]
  generalize (2 : ℚ) ^ 971 = top at *
  linarith

theorem safe_mul_slack_lt : safe * slack < 10 ^ (largestTenPower + 1) := by
  have units : ((2 ^ 53 - 4) * slack : ℚ) ≤ 2 ^ 53 := by norm_num [slack]
  have scaled := mul_le_mul_of_nonneg_right units (show (0 : ℚ) ≤ 2 ^ 971 by positivity)
  have powers : 2 ^ (53 + 971) < 10 ^ (largestTenPower + 1) := by decide +kernel
  have powers' : (2 : ℚ) ^ (53 + 971) < 10 ^ (largestTenPower + 1) := by exact_mod_cast powers
  rw [pow_add] at powers'
  rw [safe]
  generalize (2 : ℚ) ^ 971 = top at *
  linarith

theorem scaleByTen_ofNat_natural {n k : Nat} (nonzero : n ≠ 0)
    (small : (n : ℚ) * 10 ^ k ≤ safe * slack) : ((ofNat n).scaleByTen k).isSome := by
  have least : (1 : ℚ) ≤ n := by exact_mod_cast Nat.one_le_iff_ne_zero.2 nonzero
  have leastPower : (1 : ℚ) ≤ 10 ^ k := one_le_pow₀ (by norm_num)
  have number : (n : ℚ) ≤ safe * slack := by nlinarith
  have power : (10 : ℚ) ^ k ≤ safe * slack := by nlinarith
  have below : safe * slack ≤ largest := by
    apply le_trans _ safe_mul_le
    exact le_mul_of_one_le_right (by linarith) (by norm_num)
  have few : k ≤ largestTenPower := by
    by_contra many
    have more : (10 : ℚ) ^ (largestTenPower + 1) ≤ 10 ^ k :=
      pow_le_pow_right₀ (by norm_num) (Nat.not_le.1 many)
    exact absurd safe_mul_slack_lt (not_lt.2 (more.trans power))
  obtain ⟨m, e, rounded, bound⟩ := ofNat_le nonzero (number.trans below)
  obtain ⟨m', e', roundedPower, boundPower⟩ :=
    ofNat_le (n := 10 ^ k) (Nat.pow_pos (by decide)).ne' (by exact_mod_cast power.trans below)
  have finiteProduct : (finite m e).mul (finite m' e') ≠ infinite := by
    apply mul_ne_infinite
    push_cast at boundPower
    calc (m * 2 ^ e : ℚ) * (m' * 2 ^ e')
        ≤ n * (1 + 1 / 2 ^ 53) * (10 ^ k * (1 + 1 / 2 ^ 53)) := by
          apply mul_le_mul bound boundPower <;> positivity
      _ = n * 10 ^ k * ((1 + 1 / 2 ^ 53) * (1 + 1 / 2 ^ 53)) := mul_mul_mul_comm ..
      _ ≤ safe * slack * ((1 + 1 / 2 ^ 53) * (1 + 1 / 2 ^ 53)) := by
          apply mul_le_mul_of_nonneg_right small
          positivity
      _ ≤ largest := safe_mul_le
  have inTable : ¬ (largestTenPower : Int) < k := by omega
  rw [scaleByTen, if_pos (Int.natCast_nonneg k)]
  by_cases nothing : (ofNat n).isZero = true
  · rw [if_pos nothing]
    rfl
  · have power' : tenTo k = finite m' e' := roundedPower
    rw [if_neg nothing, if_neg inTable, Int.toNat_natCast, power', rounded]
    cases product : (finite m e).mul (finite m' e') with
    | infinite => contradiction
    | finite mantissa unit => rfl

theorem scaleByTen_ofNat {n : Nat} {exponent : Int}
    (small : (n : ℚ) * 10 ^ exponent ≤ safe * slack) :
    ((ofNat n).scaleByTen exponent).isSome := by
  by_cases negative : exponent < 0
  · exact scaleByTen_of_neg _ negative
  · obtain ⟨k, rfl⟩ := Int.eq_ofNat_of_zero_le (Int.not_lt.1 negative)
    by_cases zero : n = 0
    · subst zero
      rw [scaleByTen, if_pos (Int.natCast_nonneg k)]
      rfl
    · exact scaleByTen_ofNat_natural zero (by simpa using small)

end Binary64

namespace Json

open Binary64 (safe slack)

/-! ## Digits that fit 64 bits -/

/-- The number that digits spell behind others of the given value. -/
def digitsFrom (value : Nat) (digits : List Nat) : Nat :=
  digits.foldl (fun value digit => value * 10 + digit) value

theorem digitsFrom_append (value : Nat) (first second : List Nat) :
    digitsFrom value (first ++ second) = digitsFrom (digitsFrom value first) second :=
  List.foldl_append

theorem digitsFrom_eq (value : Nat) (digits : List Nat) :
    digitsFrom value digits = value * 10 ^ digits.length + ofDigits digits := by
  induction digits using List.reverseRecOn with
  | nil => simp [digitsFrom, ofDigits]
  | append_singleton first digit ih =>
      have whole : ofDigits (first ++ [digit]) = ofDigits first * 10 + digit :=
        digitsFrom_append 0 first [digit]
      rw [digitsFrom_append, ih, whole, List.length_append, digitsFrom]
      simp
      ring

theorem ofDigits_lt {digits : List Nat} (small : ∀ digit ∈ digits, digit < 10) :
    ofDigits digits < 10 ^ digits.length := by
  induction digits using List.reverseRecOn with
  | nil => decide
  | append_singleton first digit ih =>
      have whole : ofDigits (first ++ [digit]) = ofDigits first * 10 + digit :=
        digitsFrom_append 0 first [digit]
      rw [List.forall_mem_append, List.forall_mem_singleton] at small
      have shorter := ih small.1
      rw [whole, List.length_append, List.length_singleton, Nat.pow_succ]
      omega

variable {digits : List Nat}

theorem length_absorbDigits_le (value : Nat) (digits : List Nat) :
    (absorbDigits value digits).2.length ≤ digits.length := by
  fun_induction absorbDigits value digits with
  | case1 => exact Nat.le_refl _
  | case2 value digit rest _ ih => exact Nat.le_succ_of_le ih
  | case3 => exact Nat.le_refl _

/-- The digits that fit, moved to their place, are at most the number. -/
theorem absorbDigits_le (value : Nat) (digits : List Nat) :
    (absorbDigits value digits).1 * 10 ^ (absorbDigits value digits).2.length ≤
      digitsFrom value digits := by
  fun_induction absorbDigits value digits with
  | case1 value => simp [digitsFrom]
  | case2 value digit rest _ ih => exact ih
  | case3 value digit rest _ =>
      rw [digitsFrom_eq]
      exact Nat.le_add_right ..

/-- If digits are left over, those that fit make a large number. -/
theorem le_absorbDigits (value : Nat) (small : ∀ digit ∈ digits, digit < 10)
    (left : (absorbDigits value digits).2 ≠ []) : 2 ^ 60 ≤ (absorbDigits value digits).1 := by
  fun_induction absorbDigits value digits with
  | case1 => contradiction
  | case2 value digit rest _ ih => exact ih (List.forall_mem_cons.1 small).2 left
  | case3 value digit rest large =>
      have first := (List.forall_mem_cons.1 small).1
      rw [UInt64.size] at large
      omega

/-! ## The exact value of a number -/

namespace NumberParts

/-- The digits behind the point. -/
def fractionDigits (parts : NumberParts) : List Nat :=
  parts.fraction.getD []

/-- The magnitude of a number as it is written. -/
def magnitude (parts : NumberParts) : ℚ :=
  ofDigits (parts.whole ++ parts.fractionDigits) *
    10 ^ (parts.exponent.getD 0 - parts.fractionDigits.length)

/-- The number that the fitting digits of the whole part spell, and the digits left over. -/
def fittingWhole (parts : NumberParts) : Nat × List Nat :=
  absorbDigits 0 parts.whole

/-- The number that all fitting digits spell, and those left over from the fraction. -/
def fitting (parts : NumberParts) : Nat × List Nat :=
  absorbDigits parts.fittingWhole.1 parts.fractionDigits

/-- How far the point is to be moved. -/
def shift (parts : NumberParts) : Int :=
  parts.fittingWhole.2.length - (parts.fractionDigits.length - parts.fitting.2.length : Nat) +
    parts.exponent.getD 0

variable {parts : NumberParts}

/-- Whole-number digits left over weigh little, even where a digit of the fraction takes their
place. -/
theorem fittingWhole_le (smallWhole : ∀ digit ∈ parts.whole, digit < 10)
    (smallFraction : ∀ digit ∈ parts.fractionDigits, digit < 10) :
    (digitsFrom parts.fittingWhole.1 parts.fractionDigits : ℚ) *
        10 ^ parts.fittingWhole.2.length ≤
      ofDigits (parts.whole ++ parts.fractionDigits) * slack := by
  have kept : (parts.fittingWhole.1 : ℚ) * 10 ^ parts.fittingWhole.2.length ≤
      ofDigits parts.whole := by exact_mod_cast absorbDigits_le 0 parts.whole
  have fraction : (ofDigits parts.fractionDigits : ℚ) ≤ 10 ^ parts.fractionDigits.length := by
    exact_mod_cast (ofDigits_lt smallFraction).le
  have both : ofDigits (parts.whole ++ parts.fractionDigits) =
      digitsFrom (ofDigits parts.whole) parts.fractionDigits := digitsFrom_append 0 _ _
  rw [both, digitsFrom_eq, digitsFrom_eq]
  push_cast
  have place : (0 : ℚ) < 10 ^ parts.fractionDigits.length := by positivity
  have rest : (0 : ℚ) ≤ ofDigits parts.fractionDigits := Nat.cast_nonneg _
  cases left : parts.fittingWhole.2 with
  | nil =>
      rw [left, List.length_nil, pow_zero, mul_one] at kept
      rw [List.length_nil, pow_zero, mul_one, slack]
      nlinarith
  | cons digit digits =>
      have large : (2 ^ 60 : ℚ) ≤ parts.fittingWhole.1 := by
        exact_mod_cast le_absorbDigits 0 smallWhole (left ▸ nofun)
      rw [← left]
      have unit : (0 : ℚ) < 10 ^ parts.fittingWhole.2.length := by positivity
      calc ((parts.fittingWhole.1 : ℚ) * 10 ^ parts.fractionDigits.length +
            ofDigits parts.fractionDigits) * 10 ^ parts.fittingWhole.2.length
          ≤ parts.fittingWhole.1 * 10 ^ parts.fractionDigits.length * slack *
              10 ^ parts.fittingWhole.2.length := by
            apply mul_le_mul_of_nonneg_right _ unit.le
            rw [slack]
            nlinarith
        _ = parts.fittingWhole.1 * 10 ^ parts.fittingWhole.2.length *
              10 ^ parts.fractionDigits.length * slack := by ring
        _ ≤ (ofDigits parts.whole * 10 ^ parts.fractionDigits.length +
              ofDigits parts.fractionDigits) * slack := by
            rw [slack]
            nlinarith

/-- The fitting digits make a number that is hardly larger than the one written. -/
theorem fitting_le (smallWhole : ∀ digit ∈ parts.whole, digit < 10)
    (smallFraction : ∀ digit ∈ parts.fractionDigits, digit < 10) :
    (parts.fitting.1 : ℚ) * 10 ^ parts.shift ≤ parts.magnitude * slack := by
  have fits : (parts.fitting.1 : ℚ) * 10 ^ parts.fitting.2.length ≤
      digitsFrom parts.fittingWhole.1 parts.fractionDigits := by
    exact_mod_cast absorbDigits_le parts.fittingWhole.1 parts.fractionDigits
  have shorter : parts.fitting.2.length ≤ parts.fractionDigits.length :=
    length_absorbDigits_le parts.fittingWhole.1 parts.fractionDigits
  have leftover := fittingWhole_le smallWhole smallFraction
  have split : parts.shift = parts.fitting.2.length + parts.fittingWhole.2.length +
      (parts.exponent.getD 0 - parts.fractionDigits.length) := by
    rw [shift]
    omega
  have point : (0 : ℚ) < 10 ^ (parts.exponent.getD 0 - parts.fractionDigits.length : Int) := by
    positivity
  rw [magnitude, split, zpow_add₀ (by norm_num), zpow_add₀ (by norm_num), zpow_natCast,
    zpow_natCast]
  generalize (10 : ℚ) ^ (parts.exponent.getD 0 - parts.fractionDigits.length : Int) = unit at *
  calc (parts.fitting.1 : ℚ) *
        (10 ^ parts.fitting.2.length * 10 ^ parts.fittingWhole.2.length * unit)
      = parts.fitting.1 * 10 ^ parts.fitting.2.length * 10 ^ parts.fittingWhole.2.length *
          unit := by ring
    _ ≤ digitsFrom parts.fittingWhole.1 parts.fractionDigits *
          10 ^ parts.fittingWhole.2.length * unit := by
        apply mul_le_mul_of_nonneg_right _ point.le
        apply mul_le_mul_of_nonneg_right fits
        positivity
    _ ≤ ofDigits (parts.whole ++ parts.fractionDigits) * slack * unit :=
        mul_le_mul_of_nonneg_right leftover point.le
    _ = ofDigits (parts.whole ++ parts.fractionDigits) * unit * slack := mul_right_comm ..

theorem real_eq (parts : NumberParts) :
    parts.real = match (Binary64.ofNat parts.fitting.1).scaleByTen parts.shift with
      | some magnitude => .ok (.real parts.minus magnitude)
      | none => .error .malformed :=
  rfl

/-- A number that is four units or more below the end of the range of floating point is read. -/
theorem value_of_magnitude_le (smallWhole : ∀ digit ∈ parts.whole, digit < 10)
    (smallFraction : ∀ digit ∈ parts.fractionDigits, digit < 10)
    (below : parts.magnitude ≤ safe) : ∃ value, parts.value = .ok value := by
  have slackPos : (0 : ℚ) ≤ slack := by norm_num [slack]
  have scaled := Binary64.scaleByTen_ofNat
    ((fitting_le smallWhole smallFraction).trans (mul_le_mul_of_nonneg_right below slackPos))
  obtain ⟨magnitude, found⟩ := Option.isSome_iff_exists.1 scaled
  have real : parts.real = .ok (.real parts.minus magnitude) := by rw [real_eq, found]
  unfold value
  dsimp only
  split
  · split
    · exact ⟨_, rfl⟩
    · exact ⟨_, real⟩
  · split
    · exact ⟨_, rfl⟩
    · exact ⟨_, real⟩
  · exact ⟨_, real⟩

/-! ## The end of the range -/

theorem magnitude_integer (n : Nat) : (integer n).magnitude = n := by
  simp [magnitude, fractionDigits, integer, ofDigits_decimals]

theorem value_integer_real {n : Nat} (large : UInt64.size ≤ n) :
    (integer n).value = (integer n).real := by
  have sign : decide ((n : Int) < 0) = false := by simp
  rw [integer, sign, value, Int.natAbs_natCast, ofDigits_decimals, if_neg (Nat.not_lt.2 large)]

/-- Written out as a whole number, the largest magnitude cannot be read: its first twenty digits
are rounded up, and moved by 289 places they are too large. -/
theorem value_largestWhole : (integer Binary64.largestWhole).value = .error .malformed := by
  have digits : (integer Binary64.largestWhole).fitting.1 = 17976931348623157081 := by
    decide +kernel
  have places : (integer Binary64.largestWhole).shift = 289 := by decide +kernel
  have product : (Binary64.ofNat 17976931348623157081).mul (Binary64.tenTo 289) = .infinite := by
    decide +kernel
  have scaled : (Binary64.ofNat 17976931348623157081).scaleByTen 289 = none := by
    have power : (289 : Int).toNat = 289 := rfl
    rw [Binary64.scaleByTen, if_pos (by decide), if_neg (by decide +kernel), if_neg (by decide),
      power, product]
  rw [value_integer_real (by decide +kernel), real_eq, digits, places, scaled]

end NumberParts

end Json

end AppLifecycle
