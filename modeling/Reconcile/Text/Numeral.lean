import Reconcile.Text.Blank
import Reconcile.Text.Digit

/-!
# Numerals

A numeral is read as a number only up to a fixed length, and a number is written as a numeral only
up to that length; a longer one is a fault of its own, told apart from text that is no numeral at
all. Leading zeros count.
-/

namespace Reconcile.Text

/-- The greatest number of digits that a numeral may have. -/
def numeralLimit : Nat := 4300

/-- A numeral that is too long: one of so many digits that should be read, or one that should be
written. -/
inductive LongNumeral where
  | read (digits : Nat)
  | written
deriving DecidableEq

/-- The wording of the fault. -/
def LongNumeral.message (fault : LongNumeral) : String :=
  let found := match fault with
    | read digits => ": value has " ++ toString digits ++ " digits"
    | written => ""
  "Exceeds the limit (" ++ toString numeralLimit ++ " digits) for integer string conversion"
    ++ found ++ "; use sys.set_int_max_str_digits() to increase the limit"

/-- The number that a list of decimal digits writes. -/
def readNumeral (digits : List Char) : Except LongNumeral Nat :=
  if digits.length ≤ numeralLimit then .ok (numeralValue digits)
  else .error (.read digits.length)

/-- Whether a number can be written. -/
def isWritable (number : Int) : Bool :=
  number.natAbs < Nat.pow 10 numeralLimit

/-- The numeral of a number. -/
def writeNumeral (number : Int) : Except LongNumeral String :=
  if isWritable number then .ok (toString number) else .error .written

/-- Digits with an underscore allowed between any two; yields the digits alone. -/
def spacedDigits? (isDigit : Char → Bool) : List Char → Option (List Char)
  | [] => none
  | [c] => if isDigit c then some [c] else none
  | c :: '_' :: rest => if isDigit c then (spacedDigits? isDigit rest).map (c :: ·) else none
  | c :: rest => if isDigit c then (spacedDigits? isDigit rest).map (c :: ·) else none

/-- A sign, and whether it is negative; what follows it. -/
def splitSign : List Char → Bool × List Char
  | '-' :: rest => (true, rest)
  | '+' :: rest => (false, rest)
  | rest => (false, rest)

/-- White space that may surround a numeral: the information separators may not. -/
def isNumeralBlank (c : Char) : Bool :=
  isBlank c && !(0x1c ≤ c.toNat && c.toNat ≤ 0x1f)

/-- A numeral without the white space around it. -/
def trimNumeral (text : List Char) : List Char :=
  trimBy isNumeralBlank text

/-- The value of a digit: a decimal digit of any script, or a Latin letter from ten on. -/
def digitWeight? (c : Char) : Option Nat :=
  if 'a' ≤ c && c ≤ 'z' then some (c.toNat - 'a'.toNat + 10)
  else if 'A' ≤ c && c ≤ 'Z' then some (c.toNat - 'A'.toNat + 10)
  else digitValue? c

/-- Whether a character is a digit in a base. -/
def isDigitIn (base : Nat) (c : Char) : Bool :=
  (digitWeight? c).any (· < base)

/-- The number that digits write in a base. -/
def numberIn (base : Nat) (digits : List Char) : Nat :=
  digits.foldl (fun value c => base * value + (digitWeight? c).getD 0) 0

/-- The letters that mark a base after a zero. -/
def baseMarks : Nat → List Char
  | 16 => ['x', 'X']
  | 8 => ['o', 'O']
  | 2 => ['b', 'B']
  | _ => []

/-- The digits after the mark of a base, if there is one. An underscore may follow the mark. -/
def withoutMark (base : Nat) : List Char → List Char
  | zero :: mark :: rest =>
    if digitWeight? zero = some 0 && (baseMarks base).contains mark then
      match rest with
      | '_' :: rest => rest
      | rest => rest
    else zero :: mark :: rest
  | text => text

/-- The integer that a text writes in a base: digits of any script, with a sign or without, with
the mark of the base or without, with underscores between digits or without, and with white space
around them or without. Only in base ten is there a limit to their number. -/
def readIntegerIn? (base : Nat) (text : List Char) : Option Int :=
  let (negative, size) := splitSign (trimNumeral text)
  match spacedDigits? (isDigitIn base) (withoutMark base size) with
  | none => none
  | some digits =>
    if base = 10 && numeralLimit < digits.length then none
    else
      let size : Int := numberIn base digits
      some (if negative then -size else size)

/-- The integer that a text writes in base ten. -/
def readInteger? (text : String) : Option Int :=
  readIntegerIn? 10 text.toList

end Reconcile.Text
