import AppLifecycle.Number.Binary64

/-!
# The shortest decimal text of a magnitude

A magnitude is written with the fewest digits that read back as it, and of those decimals with
the nearest. Magnitudes from `1e-5` up to `1e16` are written positionally, with at least one
digit on each side of the point; the others with an exponent.
-/

namespace AppLifecycle

/-- A decimal: a whole number times a power of ten. -/
structure Decimal where
  digits : Nat
  exponent : Int
  deriving DecidableEq, Inhabited, Repr

namespace Decimal

/-- The digits of a whole number as text. -/
def digitText (n : Nat) : List Char :=
  Nat.toDigits 10 n

/-- The same decimal without zeros at its end. -/
def trim (decimal : Decimal) : Decimal :=
  let text := digitText decimal.digits
  let zeros := (text.reverse.takeWhile (· = '0')).length
  if decimal.digits = 0 then ⟨0, 0⟩
  else ⟨decimal.digits / Nat.pow 10 zeros, decimal.exponent + zeros⟩

/-- The exponent of the first digit. -/
def leadingExponent (decimal : Decimal) : Int :=
  decimal.exponent + (digitText decimal.digits).length - 1

/-- The text of a decimal other than zero. -/
def format (decimal : Decimal) : List Char :=
  let digits := digitText decimal.digits
  let leading := decimal.leadingExponent
  if -5 ≤ leading ∧ leading ≤ 15 then
    if 0 ≤ decimal.exponent then
      digits ++ List.replicate decimal.exponent.toNat '0' ++ ['.', '0']
    else if 0 ≤ leading then
      let whole := leading.toNat + 1
      digits.take whole ++ ['.'] ++ digits.drop whole
    else
      ['0', '.'] ++ List.replicate (-leading - 1).toNat '0' ++ digits
  else
    let fraction := if digits.length = 1 then [] else '.' :: digits.drop 1
    let sign := if leading < 0 then '-' else '+'
    digits.take 1 ++ fraction ++ ['e', sign] ++ digitText leading.natAbs

end Decimal

namespace Binary64

/-- The exponent of the first decimal digit of a fraction. -/
def decimalExponent (numerator denominator : Nat) : Int :=
  if denominator ≤ numerator then
    ((Decimal.digitText (numerator / denominator)).length : Int) - 1
  else
    -((Decimal.digitText ((denominator + numerator - 1) / numerator - 1)).length : Int)

/-- The distance between a decimal and a fraction, as a multiple of what all decimals of the
same exponent share. -/
def distance (numerator denominator : Nat) (decimal : Decimal) : Nat :=
  let scale := Nat.pow 10 decimal.exponent.natAbs
  let value : Int :=
    if 0 ≤ decimal.exponent then decimal.digits * scale * denominator - numerator
    else decimal.digits * denominator - numerator * scale
  value.natAbs

/-- Whether a decimal reads back as a magnitude. -/
def readsBack (mantissa : Nat) (exponent : Int) (decimal : Decimal) : Bool :=
  let scale := Nat.pow 10 decimal.exponent.natAbs
  let read :=
    if 0 ≤ decimal.exponent then ofFraction (decimal.digits * scale) 1
    else ofFraction decimal.digits scale
  read = finite mantissa exponent

/-- The decimal of a number of digits that reads back: of the two neighbours the nearer one, or
else the even one. -/
def decimalOf? (mantissa : Nat) (exponent : Int) (count : Nat) : Option Decimal :=
  let fraction := toFraction mantissa exponent
  let unit := decimalExponent fraction.1 fraction.2 - count + 1
  let below :=
    if 0 ≤ unit then fraction.1 / (fraction.2 * Nat.pow 10 unit.toNat)
    else fraction.1 * Nat.pow 10 (-unit).toNat / fraction.2
  let lower : Decimal := ⟨below, unit⟩
  let upper : Decimal := ⟨below + 1, unit⟩
  match readsBack mantissa exponent lower, readsBack mantissa exponent upper with
  | true, true =>
      let above := distance fraction.1 fraction.2 upper
      let under := distance fraction.1 fraction.2 lower
      if above < under ∨ (above = under ∧ below % 2 = 1) then some upper else some lower
  | true, false => some lower
  | false, true => some upper
  | false, false => none

/-- The shortest decimal that reads back as a finite magnitude. -/
def shortest (mantissa : Nat) (exponent : Int) : Decimal :=
  ((List.range 17).findSome? fun count => decimalOf? mantissa exponent (count + 1)).getD
    ⟨mantissa, 0⟩

/-- The text of a magnitude. -/
def text : Binary64 → List Char
  | finite mantissa exponent =>
      if mantissa = 0 then ['0', '.', '0'] else (shortest mantissa exponent).trim.format
  | infinite => "inf".toList

end Binary64

end AppLifecycle
