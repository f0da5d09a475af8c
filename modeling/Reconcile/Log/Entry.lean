/-!
# Log entries

What happens on the way from report lines to published diagnostics is told in a log. An entry has a
level, an origin and a message; the origin names the logger and the numbered place in it, so that
an entry can be traced when details are asked for.
-/

namespace Reconcile.Log

/-- How much a log entry matters, the least first. -/
inductive Level where
  | trace
  | debug
  | info
  | warning
  | error
deriving DecidableEq

/-- The number of a level, by which levels are compared with a threshold. -/
def Level.number : Level → Int
  | trace => 5
  | debug => 10
  | info => 20
  | warning => 30
  | error => 40

/-- The name of a level. -/
def Level.name : Level → String
  | trace => "TRACE"
  | debug => "DEBUG"
  | info => "INFO"
  | warning => "WARNING"
  | error => "ERROR"

/-- Where an entry comes from: a logger, and the place within it. -/
structure Origin where
  logger : String
  place : Nat
deriving DecidableEq

/-- One entry of the log. -/
structure Entry where
  level : Level
  origin : Origin
  message : String
deriving DecidableEq

/-- Whether an entry warns of something or reports a failure. -/
def Entry.isAlarm (entry : Entry) : Bool :=
  Level.warning.number ≤ entry.level.number

end Reconcile.Log
