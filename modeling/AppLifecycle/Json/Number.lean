import AppLifecycle.Number.Shortest

/-!
# Numbers in JSON

A number is written with a whole part, perhaps a fraction and perhaps an exponent. Without the
last two it is a whole number, unless it is too large for 64 bits or a negative zero; every
other number is read as floating point. A number too large for that cannot be read, though it
can be skipped.
-/

namespace AppLifecycle.Json

/-- How a text fails to be JSON. -/
inductive Breakage where
  /-- The text ends too early. -/
  | unfinished
  /-- The text goes on in a way that JSON does not allow. -/
  | malformed
  deriving DecidableEq, Inhabited, Repr

/-- How a text fails where its value is read, and where the value is only skipped. -/
structure Fault where
  read : Breakage
  skipped : Breakage
  deriving DecidableEq, Inhabited, Repr

namespace Fault

/-- The text ends, for a reader as for one who skips. -/
def unfinished : Fault :=
  ⟨.unfinished, .unfinished⟩

/-- The text goes wrong, for a reader as for one who skips. -/
def malformed : Fault :=
  ⟨.malformed, .malformed⟩

/-- A number stops where a digit is due. One who skips does not tell the end of the text from
another character. -/
def digitDue (rest : List Char) : Fault :=
  if rest.isEmpty then ⟨.unfinished, .malformed⟩ else malformed

end Fault

/-- The value of a number. -/
inductive Number where
  | natural (value : Nat)
  /-- The whole number `-value`, below zero. -/
  | negative (value : Nat)
  | real (minus : Bool) (magnitude : Binary64)
  deriving DecidableEq, Inhabited, Repr

/-- The parts of a number as written. -/
structure NumberParts where
  minus : Bool
  whole : List Nat
  fraction : Option (List Nat)
  exponent : Option Int
  deriving DecidableEq, Inhabited, Repr

/-- The value of a digit. -/
def digitValue (c : Char) : Nat :=
  c.toNat - '0'.toNat

/-- The digits that text starts with, and the rest. -/
def takeDigits (chars : List Char) : List Nat × List Char :=
  ((chars.takeWhile Char.isDigit).map digitValue, chars.dropWhile Char.isDigit)

/-- The number that digits spell. -/
def ofDigits (digits : List Nat) : Nat :=
  digits.foldl (fun value digit => value * 10 + digit) 0

/-- Reads at least one digit. -/
def takeDigits1 (chars : List Char) : Except Fault (List Nat × List Char) :=
  match takeDigits chars with
  | ([], rest) => .error (.digitDue rest)
  | (digits, rest) => .ok (digits, rest)

/-- Reads a whole part, which has no needless zero at its front. -/
def takeWhole (chars : List Char) : Except Fault (List Nat × List Char) :=
  match takeDigits1 chars with
  | .ok (0 :: _ :: _, _) => .error .malformed
  | result => result

/-- Reads a fraction, if there is one. -/
def takeFraction : List Char → Except Fault (Option (List Nat) × List Char)
  | '.' :: chars => (takeDigits1 chars).map fun (digits, rest) => (some digits, rest)
  | chars => .ok (none, chars)

/-- Reads the sign of an exponent. -/
def takeSign : List Char → Bool × List Char
  | '+' :: rest => (false, rest)
  | '-' :: rest => (true, rest)
  | rest => (false, rest)

/-- Reads an exponent, if there is one. -/
def takeExponent : List Char → Except Fault (Option Int × List Char)
  | [] => .ok (none, [])
  | c :: chars =>
      if c = 'e' ∨ c = 'E' then
        let signed := takeSign chars
        (takeDigits1 signed.2).map fun (digits, rest) =>
          (some (if signed.1 then -(ofDigits digits : Int) else ofDigits digits), rest)
      else
        .ok (none, c :: chars)

/-- Reads the parts of a number, and leaves the text behind it. -/
def takeNumber (chars : List Char) : Except Fault (NumberParts × List Char) := do
  let (minus, unsigned) :=
    match chars with
    | '-' :: rest => (true, rest)
    | _ => (false, chars)
  let (whole, rest) ← takeWhole unsigned
  let (fraction, rest) ← takeFraction rest
  let (exponent, rest) ← takeExponent rest
  return (⟨minus, whole, fraction, exponent⟩, rest)

/-- Appends digits to a number as long as it fits 64 bits. Answers with the digits left over. -/
def absorbDigits (value : Nat) : List Nat → Nat × List Nat
  | [] => (value, [])
  | digit :: rest =>
      if value * 10 + digit < UInt64.size then absorbDigits (value * 10 + digit) rest
      else (value, digit :: rest)

namespace NumberParts

/-- The number as floating point: of the digits, as many as fit 64 bits count, and the
whole-number digits left over only move the point. -/
def real (parts : NumberParts) : Except Breakage Number :=
  let (significand, left) := absorbDigits 0 parts.whole
  let fraction := parts.fraction.getD []
  let (significand, unused) := absorbDigits significand fraction
  let exponent : Int :=
    left.length - (fraction.length - unused.length : Nat) + parts.exponent.getD 0
  match (Binary64.ofNat significand).scaleByTen exponent with
  | some magnitude => .ok (.real parts.minus magnitude)
  | none => .error .malformed

/-- The value of a number. -/
def value (parts : NumberParts) : Except Breakage Number :=
  let whole := ofDigits parts.whole
  match parts.fraction, parts.exponent, parts.minus with
  | none, none, false => if whole < UInt64.size then .ok (.natural whole) else parts.real
  | none, none, true =>
      if 0 < whole ∧ whole ≤ UInt64.size / 2 then .ok (.negative whole) else parts.real
  | _, _, _ => parts.real

end NumberParts

theorem length_takeDigits1_lt {chars rest : List Char} {digits : List Nat}
    (h : takeDigits1 chars = .ok (digits, rest)) : rest.length < chars.length := by
  unfold takeDigits1 takeDigits at h
  cases chars with
  | nil => cases h
  | cons c chars =>
      cases digit : c.isDigit with
      | true =>
          simp only [List.takeWhile_cons, digit, if_true, List.dropWhile_cons, List.map_cons,
            Except.ok.injEq, Prod.mk.injEq] at h
          rw [← h.2]
          have bound := (List.dropWhile_suffix (l := chars) Char.isDigit).length_le
          simp only [List.length_cons]
          omega
      | false => simp [digit] at h

theorem length_takeWhole_lt {chars rest : List Char} {digits : List Nat}
    (h : takeWhole chars = .ok (digits, rest)) : rest.length < chars.length := by
  unfold takeWhole at h
  split at h
  · cases h
  · exact length_takeDigits1_lt h

theorem length_takeFraction_le {chars rest : List Char} {digits : Option (List Nat)}
    (h : takeFraction chars = .ok (digits, rest)) : rest.length ≤ chars.length := by
  unfold takeFraction at h
  split at h
  · rename_i chars
    cases taken : takeDigits1 chars with
    | error fault => simp [taken, Except.map] at h
    | ok found =>
        simp only [taken, Except.map, Except.ok.injEq, Prod.mk.injEq] at h
        have bound := length_takeDigits1_lt taken
        rw [h.2] at bound
        simp only [List.length_cons]
        omega
  · cases h
    exact Nat.le_refl _

theorem length_takeSign_le (chars : List Char) : (takeSign chars).2.length ≤ chars.length := by
  unfold takeSign
  split <;> simp

theorem length_takeExponent_le {chars rest : List Char} {exponent : Option Int}
    (h : takeExponent chars = .ok (exponent, rest)) : rest.length ≤ chars.length := by
  cases chars with
  | nil =>
      cases h
      exact Nat.le_refl _
  | cons c chars =>
      simp only [takeExponent] at h
      split at h
      · cases taken : takeDigits1 (takeSign chars).2 with
        | error fault => simp [taken, Except.map] at h
        | ok found =>
            simp only [taken, Except.map, Except.ok.injEq, Prod.mk.injEq] at h
            have bound := length_takeDigits1_lt taken
            have sign := length_takeSign_le chars
            rw [h.2] at bound
            simp only [List.length_cons]
            omega
      · cases h
        exact Nat.le_refl _

/-- A number takes up text. -/
theorem length_takeNumber_lt {chars rest : List Char} {parts : NumberParts}
    (h : takeNumber chars = .ok (parts, rest)) : rest.length < chars.length := by
  unfold takeNumber at h
  obtain ⟨minus, unsigned, split, short⟩ : ∃ minus unsigned,
      (match chars with
        | '-' :: rest => (true, rest)
        | _ => (false, chars)) = (minus, unsigned) ∧ unsigned.length ≤ chars.length := by
    split
    · exact ⟨_, _, rfl, by simp⟩
    · exact ⟨_, _, rfl, Nat.le_refl _⟩
  rw [split] at h
  cases whole : takeWhole unsigned with
  | error fault => simp [whole, bind, Except.bind] at h
  | ok first =>
      cases fraction : takeFraction first.2 with
      | error fault => simp [whole, fraction, bind, Except.bind] at h
      | ok second =>
          cases exponent : takeExponent second.2 with
          | error fault => simp [whole, fraction, exponent, bind, Except.bind] at h
          | ok third =>
              simp only [whole, fraction, exponent, bind, Except.bind, pure, Except.pure,
                Except.ok.injEq, Prod.mk.injEq] at h
              have a := length_takeWhole_lt whole
              have b := length_takeFraction_le fraction
              have c := length_takeExponent_le exponent
              rw [h.2] at c
              omega

end AppLifecycle.Json
