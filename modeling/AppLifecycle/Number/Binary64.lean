/-!
# Binary floating point of 64 bits

A finite magnitude is a whole number of at most 53 bits times a power of two. Arithmetic is
exact arithmetic on fractions followed by one rounding to the nearest magnitude, ties to the
even neighbour.
-/

namespace AppLifecycle

/-- A magnitude that 64-bit floating point can hold. -/
inductive Binary64 where
  /-- The magnitude `mantissa * 2 ^ exponent`. -/
  | finite (mantissa : Nat) (exponent : Int)
  | infinite
  deriving DecidableEq, Inhabited, Repr

namespace Binary64

/-- The exponent of the smallest magnitudes. -/
def leastExponent : Int :=
  -1074

/-- The magnitude nothing. -/
def zero : Binary64 :=
  finite 0 leastExponent

/-- The least whole number that is too large for a mantissa. -/
def mantissaLimit : Nat :=
  Nat.pow 2 53

/-- A fraction with its numerator or denominator scaled, so that it is measured in units of `2 ^
exponent`. -/
def inUnits (numerator denominator : Nat) (exponent : Int) : Nat × Nat :=
  if 0 ≤ exponent then (numerator, denominator * Nat.pow 2 exponent.toNat)
  else (numerator * Nat.pow 2 (-exponent).toNat, denominator)

/-- The whole number nearest to a fraction, the even one of two. -/
def roundToEven (numerator denominator : Nat) : Nat :=
  let quotient := numerator / denominator
  let twice := 2 * (numerator % denominator)
  if twice > denominator ∨ (twice = denominator ∧ quotient % 2 = 1) then quotient + 1
  else quotient

/-- The unit in which a fraction is rounded: the quotient then has 53 bits, or fewer among the
smallest magnitudes. -/
def unitExponent (numerator denominator : Nat) : Int :=
  let guess : Int := (numerator.log2 : Int) - (denominator.log2 : Int) - 53
  let scaled := inUnits numerator denominator guess
  let exponent := if scaled.1 / scaled.2 < mantissaLimit then guess else guess + 1
  max exponent leastExponent

/-- The magnitude nearest to a fraction. -/
def ofFraction (numerator denominator : Nat) : Binary64 :=
  if numerator = 0 then zero
  else
    let exponent := unitExponent numerator denominator
    let scaled := inUnits numerator denominator exponent
    let rounded := roundToEven scaled.1 scaled.2
    let mantissa := if rounded = mantissaLimit then mantissaLimit / 2 else rounded
    let exponent := if rounded = mantissaLimit then exponent + 1 else exponent
    if exponent > 971 then infinite else finite mantissa exponent

/-- A finite magnitude as a fraction. -/
def toFraction (mantissa : Nat) (exponent : Int) : Nat × Nat :=
  if 0 ≤ exponent then (mantissa * Nat.pow 2 exponent.toNat, 1)
  else (mantissa, Nat.pow 2 (-exponent).toNat)

/-- The magnitude nearest to a whole number. -/
def ofNat (n : Nat) : Binary64 :=
  ofFraction n 1

/-- The product, rounded. -/
def mul : Binary64 → Binary64 → Binary64
  | finite m e, finite n f =>
      let x := toFraction m e
      let y := toFraction n f
      ofFraction (x.1 * y.1) (x.2 * y.2)
  | _, _ => infinite

/-- The quotient, rounded. -/
def div : Binary64 → Binary64 → Binary64
  | finite m e, finite n f =>
      let x := toFraction m e
      let y := toFraction n f
      ofFraction (x.1 * y.2) (x.2 * y.1)
  | finite _ _, infinite => zero
  | infinite, _ => infinite

/-- Whether a magnitude is nothing. -/
def isZero : Binary64 → Bool
  | finite mantissa _ => mantissa = 0
  | infinite => false

/-- A power of ten, rounded. -/
def tenTo (n : Nat) : Binary64 :=
  ofNat (Nat.pow 10 n)

/-- The largest power of ten below infinity. -/
def largestTenPower : Nat :=
  308

/-- A magnitude times a power of ten, by as few multiplications or divisions as the powers of
ten below infinity allow. There is no answer where the product is too large. -/
def scaleByTen (magnitude : Binary64) (exponent : Int) : Option Binary64 :=
  if 0 ≤ exponent then
    if magnitude.isZero then some magnitude
    else if largestTenPower < exponent then none
    else
      match magnitude.mul (tenTo exponent.toNat) with
      | infinite => none
      | finite mantissa unit => some (finite mantissa unit)
  else if -exponent ≤ largestTenPower then
    some (magnitude.div (tenTo (-exponent).toNat))
  else if magnitude.isZero then
    some magnitude
  else
    scaleByTen (magnitude.div (tenTo largestTenPower)) (exponent + largestTenPower)
  termination_by (-exponent).toNat
  decreasing_by
    simp only [largestTenPower] at *
    omega

end Binary64

end AppLifecycle
