/-!
# Binary floating point, exactly

A number in a document is read to the nearest 64-bit binary floating point value, a tie going to the
even significand. The value is kept as its significand and exponent, so all arithmetic on it is
exact arithmetic on natural numbers.
-/

namespace Reconcile.Decimal

/-- A 64-bit binary floating point value: `significand · 2 ^ exponent`, an infinity, or no number.
Finite values have a significand below `2 ^ 53` and an exponent of at least `-1074`, and a
significand of at least `2 ^ 52` unless the exponent is `-1074`. -/
inductive Binary64 where
  | finite (negative : Bool) (significand : Nat) (exponent : Int)
  | infinite (negative : Bool)
  | notANumber
deriving DecidableEq

/-- The quotient rounded to the nearest integer, a tie going to the even one. -/
def roundQuotient (numerator denominator : Nat) : Nat :=
  let quotient := numerator / denominator
  let twice := 2 * (numerator % denominator)
  if twice < denominator then quotient
  else if denominator < twice then quotient + 1
  else if quotient % 2 = 0 then quotient else quotient + 1

/-- `2 ^ exponent` as a fraction. -/
def powerOfTwo (exponent : Int) : Nat × Nat :=
  if exponent < 0 then (1, Nat.pow 2 (-exponent).toNat) else (Nat.pow 2 exponent.toNat, 1)

/-- `10 ^ exponent` as a fraction. -/
def powerOfTen (exponent : Int) : Nat × Nat :=
  if exponent < 0 then (1, Nat.pow 10 (-exponent).toNat) else (Nat.pow 10 exponent.toNat, 1)

/-- The least significand of 53 bits, `2 ^ 52`. -/
def fullSignificand : Nat := 0x10000000000000

/-- How many decimal digits a number has. -/
def digitCount (number : Nat) : Nat :=
  (Nat.toDigits 10 number).length

namespace Binary64

/-- The zeros. -/
def zero (negative : Bool) : Binary64 :=
  finite negative 0 (-1074)

/-- The value nearest to the positive fraction `numerator / denominator`. The first guess at the
exponent leaves a significand of 53 or 54 bits; the exponent is one more in the second case, and
never below the smallest one. -/
def ofFraction (negative : Bool) (numerator denominator : Nat) : Binary64 :=
  let guess : Int := (numerator.log2 : Int) - denominator.log2 - 53
  let scaled (exponent : Int) : Nat × Nat :=
    let power := powerOfTwo exponent
    (numerator * power.2, denominator * power.1)
  let tight := scaled guess
  let exponent := max (if 2 * fullSignificand ≤ tight.1 / tight.2 then guess + 1 else guess) (-1074)
  let fraction := scaled exponent
  let significand := roundQuotient fraction.1 fraction.2
  let (significand, exponent) :=
    if significand = 2 * fullSignificand then (fullSignificand, exponent + 1)
    else (significand, exponent)
  if 971 < exponent then infinite negative else finite negative significand exponent

/-- The value nearest to `digits · 10 ^ exponent`. Numbers far outside the range of finite values
are settled by their size alone. -/
def ofDecimal (negative : Bool) (digits : Nat) (exponent : Int) : Binary64 :=
  if digits = 0 then zero negative
  else
    let size := (digitCount digits : Int) + exponent
    if 310 < size then infinite negative
    else if size < -330 then zero negative
    else
      let power := powerOfTen exponent
      ofFraction negative (digits * power.1) power.2

/-- Whether a value is a zero of either sign. -/
def isZero : Binary64 → Bool
  | finite _ significand _ => significand = 0
  | _ => false

end Binary64

end Reconcile.Decimal
