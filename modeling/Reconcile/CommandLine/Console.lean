import Reconcile.CommandLine.Choice
import Reconcile.CommandLine.ExitCode
import Reconcile.Json.Reader
import Reconcile.Log.Entry
import Reconcile.Log.Threshold
import Reconcile.Manager
import Reconcile.Settings.Load
import Reconcile.Terminal.Escape
import Reconcile.Terminal.Style

/-!
# The console

A command tells what it has to say as a list of utterances: program output, warnings and errors, and
log entries, in the order in which they are made. `Console` decides on colour and detail; where
colour is off, control sequences are removed from whatever is printed.
-/

namespace Reconcile.CommandLine

open Terminal

/-- The environment settings that matter to the command line. -/
structure Environment where
  forceColour : Option String
  noColour : Option String
  threshold : Option String

/-- Whether output is coloured. Formats for machines never are; then the mode decides, then the
environment, then whether the output goes to a terminal. -/
def resolveColour (mode : Option ColourMode) (format : Option OutputFormat) (toTerminal : Bool)
    (environment : Environment) : Bool :=
  if format.any OutputFormat.isMachine then false
  else if mode = some .always then true
  else if mode = some .never then false
  else if environment.forceColour.any fun setting => !setting.isEmpty && setting != "0" then true
  else if environment.noColour.isSome then false
  else toTerminal

/-- The complaint about asking for more and for less detail at once. -/
def verbosityComplaint : String :=
  "The '--verbose' and '--quiet' options are mutually exclusive."

/-- The level of detail that counts of options ask for; nothing if they contradict each other. -/
def resolveVerbosity (verbose quiet : Int) : Option Int :=
  if 0 < verbose && 0 < quiet then none
  else if 3 ≤ verbose then some 5
  else if verbose = 2 then some 10
  else if verbose = 1 then some 20
  else if 1 ≤ quiet then some 40
  else some 30

/-- How much detail a level of detail means: none, some, or all. -/
def detailAt (level : Int) : Nat :=
  if level ≤ 10 then 2 else if level ≤ 20 then 1 else 0

/-- One thing that a command says. -/
inductive Utterance where
  | out (text : String)
  | err (text : String)
  | log (entry : Log.Entry)

/-- How a command prints. -/
structure Console where
  coloured : Bool
  detail : Nat

namespace Console

/-- Text as it is printed. -/
def shown (console : Console) (text : String) : String :=
  if console.coloured then text else uncoloured text

/-- Text in a style, if there is colour. -/
def styled (console : Console) (style : Style) (text : String) : String :=
  if console.coloured then style.apply text else text

/-- Program output on a line of its own. -/
def print (console : Console) (text : String) : Utterance :=
  .out (console.shown text ++ "\n")

/-- A warning on a line of its own. -/
def warn (console : Console) (text : String) : Utterance :=
  .err (console.shown (console.styled (.only .yellow) text) ++ "\n")

end Console

/-- A failure that nothing in a command handles. -/
inductive Crash where
  | settings (fault : Settings.LoadFault)
  | threshold (fault : Log.ThresholdFault)
  | notUtf8 (fault : Text.Utf8.Fault)
  | numeral (fault : Text.LongNumeral)
  | nesting (container : Json.Container)
  | nullByte
  | chunkTooLong
  | begin (fault : BeginFault)
  | line (fault : Report.LineFault)

/-- The wording of a crash. -/
def Crash.message : Crash → String
  | settings fault => fault.message
  | threshold fault => fault.message
  | notUtf8 fault => fault.message
  | numeral fault => fault.message
  | nesting container => (Json.Fault.nesting container).message []
  | nullByte => Settings.nullByteMessage
  | begin fault => fault.message
  | line fault => fault.message
  | chunkTooLong => "cannot fit 'int' into an index-sized integer"

/-- What came of a command: what it said, its exit number, and the crash that ended it, if any. -/
structure Outcome where
  said : List Utterance
  exit : Nat
  crash : Option Crash

namespace Outcome

/-- A command that ended in success. -/
def success (said : List Utterance) : Outcome :=
  ⟨said, 0, none⟩

/-- A command that ended with a complaint about an error. The complaint has no colour of its own;
what it quotes keeps its colour where there is any. -/
def failure (coloured : Bool) (code : ExitCode) (text : String) : Outcome :=
  ⟨[.err ("Error: " ++ (if coloured then text else uncoloured text) ++ "\n")], code.number, none⟩

/-- The exit number of wrong usage. -/
def usageNumber : Nat := 2

/-- A command that ended with a complaint about its usage, which may quote what was typed. -/
def misuse (coloured : Bool) (text : String) : Outcome :=
  ⟨[.err (if coloured then text else uncoloured text)], usageNumber, none⟩

/-- A command that ended in a crash. -/
def crashed (crash : Crash) : Outcome :=
  ⟨[], 1, some crash⟩

/-- An outcome after something was said before. -/
def after (said : List Utterance) (outcome : Outcome) : Outcome :=
  { outcome with said := said ++ outcome.said }

end Outcome

/-- Log entries as utterances. -/
def logged (entries : List Log.Entry) : List Utterance :=
  entries.map .log

end Reconcile.CommandLine
