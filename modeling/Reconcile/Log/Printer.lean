import Reconcile.Log.Entry
import Reconcile.Log.Threshold
import Reconcile.Terminal.Style

/-!
# Printing the log

An entry is one line: its level in brackets and its message, and between them the place it comes
from if the threshold asks for details. Levels have colours, which are used only on terminals.
-/

namespace Reconcile.Log

open Terminal

/-- The name of the level of a number. -/
def levelName (number : Int) : String :=
  if number = 5 then "TRACE"
  else if number = 10 then "DEBUG"
  else if number = 20 then "INFO"
  else if number = 30 then "WARNING"
  else if number = 40 then "ERROR"
  else if number = 50 then "CRITICAL"
  else "Level " ++ toString number

/-- The rendition of a level. -/
def levelRendition (number : Int) : Rendition :=
  if 50 ≤ number then Hue.brightRed.rendition
  else if 40 ≤ number then Hue.red.rendition
  else if 30 ≤ number then Hue.yellow.rendition
  else if 20 ≤ number then Hue.green.rendition
  else if 10 ≤ number then Hue.gray.rendition
  else if 5 ≤ number then Hue.blue.rendition
  else faint

/-- How the log is printed: from which threshold on, and whether in colour. -/
structure Printer where
  threshold : Int
  coloured : Bool

namespace Printer

/-- Whether a level reaches the threshold. Levels that are not positive are never shown. -/
def shows (printer : Printer) (number : Int) : Bool :=
  0 < number && printer.threshold ≤ number

/-- The line of an entry of any level, with its line end. -/
def lineAt (printer : Printer) (number : Int) (origin : Origin) (message : String) : String :=
  let place :=
    if informative ≤ printer.threshold then ""
    else "[" ++ origin.logger ++ ":" ++ toString origin.place ++ "] "
  let text := "[" ++ levelName number ++ "] " ++ place ++ message
  (if printer.coloured then (levelRendition number).apply text else text) ++ "\n"

/-- What is printed of an entry. -/
def print (printer : Printer) (number : Int) (origin : Origin) (message : String) : String :=
  if printer.shows number then printer.lineAt number origin message else ""

/-- What is printed of an entry. -/
def printEntry (printer : Printer) (entry : Entry) : String :=
  printer.print entry.level.number entry.origin entry.message

end Printer

end Reconcile.Log
