import Reconcile.Text.Blank
import Reconcile.Text.Casing
import Reconcile.Text.Numeral
import Reconcile.Text.Quoted

/-!
# Thresholds

The log shows the entries whose level reaches a threshold. The threshold is named by a setting of
the environment, by the name of a level or by its number; where it is not named, or named as zero,
only what is critical is shown.
-/

namespace Reconcile.Log

open Text

/-- The level above all others that are named. -/
def critical : Int := 50

/-- The level below which entries tell where they come from. -/
def informative : Int := 20

/-- The levels that can be named, with their numbers. -/
def namedLevels : List (String × Int) :=
  [("WARN", 30), ("FATAL", 50), ("CRITICAL", 50), ("ERROR", 40), ("WARNING", 30), ("INFO", 20),
    ("DEBUG", 10), ("NOTSET", 0), ("TRACE", 5)]

/-- What is wrong with a threshold: its numeral is too long, or it looks like one and is none. -/
inductive ThresholdFault where
  | tooLong (fault : LongNumeral)
  | noNumeral (spelling : String)

/-- The wording of a fault. -/
def ThresholdFault.message : ThresholdFault → String
  | tooLong fault => fault.message
  | noNumeral spelling => "invalid literal for int() with base 10: " ++ quoted spelling

/-- The threshold that a setting names, if it names any. -/
def readThreshold (setting : String) : Except ThresholdFault (Option Int) :=
  let spelling := upper (trim setting.toList)
  if spelling = [] then .ok none
  else if spelling.all isDigitLike then
    if spelling.all isDigit then
      match readNumeral spelling with
      | .ok number => .ok (some number)
      | .error fault => .error (.tooLong fault)
    else .error (.noNumeral (String.ofList spelling))
  else .ok (namedLevels.lookup (String.ofList spelling))

/-- The threshold in force, given the one that the environment names. -/
def thresholdOr (named : Option Int) : Int :=
  match named with
  | some number => if number = 0 then critical else number
  | none => critical

end Reconcile.Log
