import Reconcile.Decimal.Binary64

/-!
# The shortest decimal text of a value

A finite value is written with the fewest digits that read back as the same value, and of those the
digits nearest to it. For each number of digits the two neighbours of the value on that decimal grid
are tried; the first grid with a neighbour that reads back gives the digits.
-/

namespace Reconcile.Decimal

/-- Digits and the power of ten of the first one: `d₁.d₂d₃… · 10 ^ exponent`. -/
structure Digits where
  digits : Nat
  exponent : Int

/-- A positive value with the reals that round to it, all four times the value's own unit: the value
is `centre · unit`, and a real rounds to it when it lies between `low · unit` and `high · unit`, the
ends counting when `closed`. -/
structure Rounding where
  centre : Nat
  low : Nat
  high : Nat
  closed : Bool
  unit : Nat × Nat

/-- The reals that round to `significand · 2 ^ exponent`. The gap below a power of two is half as
wide as the gap above it. -/
def Rounding.of (significand : Nat) (exponent : Int) : Rounding where
  centre := 4 * significand
  low := if significand = fullSignificand && exponent != -1074 then 4 * significand - 1
    else 4 * significand - 2
  high := 4 * significand + 2
  closed := significand % 2 = 0
  unit := powerOfTwo (exponent - 2)

/-- The power of ten of the first digit of a positive fraction. -/
def leadingPower (numerator denominator : Nat) : Int :=
  if denominator ≤ numerator then (digitCount (numerator / denominator) : Int) - 1
  else
    let places := digitCount (denominator / numerator)
    if denominator ≤ numerator * Nat.pow 10 (places - 1) then -((places : Int) - 1)
    else -(places : Int)

/-- Whether the grid point `digits · step` rounds to the value. -/
def Rounding.holds (r : Rounding) (digits : Nat) (step : Nat × Nat) : Bool :=
  let point := digits * step.1 * r.unit.2
  let low := r.low * r.unit.1 * step.2
  let high := r.high * r.unit.1 * step.2
  if r.closed then low ≤ point && point ≤ high else low < point && point < high

/-- The grid point nearest to the value among its two neighbours that round to it. -/
def Rounding.nearest? (r : Rounding) (step : Nat × Nat) : Option Nat :=
  let numerator := r.centre * r.unit.1 * step.2
  let denominator := r.unit.2 * step.1
  let below := numerator / denominator
  let twice := 2 * (numerator % denominator)
  -- halfway between two grid points the even one comes first
  let upFirst := denominator < twice || (twice = denominator && below % 2 = 1)
  let candidates := if upFirst then [below + 1, below] else [below, below + 1]
  candidates.find? fun digits => digits != 0 && r.holds digits step

/-- The shortest digits of a positive value: up to seventeen are tried, which always suffice. -/
def shortest (significand : Nat) (exponent : Int) : Digits :=
  let r := Rounding.of significand exponent
  let power := leadingPower (r.centre * r.unit.1) r.unit.2
  let found := (List.range 17).findSome? fun (more : Nat) =>
    (r.nearest? (powerOfTen (power - more))).map fun digits => (digits, more)
  match found with
  | none => ⟨r.centre, power⟩
  | some (digits, more) => ⟨digits, power - more + digitCount digits - 1⟩

/-- Removes trailing zeros of a list of digits, leaving at least one digit. -/
def dropTrailingZeros (digits : List Char) : List Char :=
  match (digits.reverse.dropWhile (· == '0')).reverse with
  | [] => ['0']
  | kept => kept

/-- Digits as text. They are written positionally from `0.0001` up to sixteen digits before the
point, with at least one place after it; otherwise with an exponent of a sign and at least two
digits. -/
def Digits.text (d : Digits) : List Char :=
  let digits := dropTrailingZeros (Nat.toDigits 10 d.digits)
  if -4 ≤ d.exponent && d.exponent < 16 then
    if d.exponent < 0 then
      '0' :: '.' :: List.replicate ((-d.exponent).toNat - 1) '0' ++ digits
    else
      let before := d.exponent.toNat + 1
      let whole := digits.take before ++ List.replicate (before - digits.length) '0'
      let places := digits.drop before
      whole ++ '.' :: (if places.isEmpty then ['0'] else places)
  else
    let size := Nat.toDigits 10 d.exponent.natAbs
    digits.take 1 ++ (if digits.length = 1 then [] else '.' :: digits.drop 1)
      ++ 'e' :: (if d.exponent < 0 then '-' else '+')
      :: (List.replicate (2 - size.length) '0' ++ size)

/-- The text of a value. -/
def Binary64.text : Binary64 → String
  | finite negative significand exponent =>
    let body := if significand = 0 then "0.0".toList else (shortest significand exponent).text
    String.ofList (if negative then '-' :: body else body)
  | infinite negative => if negative then "-inf" else "inf"
  | notANumber => "nan"

end Reconcile.Decimal
