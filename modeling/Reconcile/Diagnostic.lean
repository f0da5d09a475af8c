/-!
# Diagnostics

A diagnostic is one problem in one file, reported by one of two producers: the compiler, whose
output is text, or the language service, whose output is structured. This module holds what a
diagnostic is made of, and the three notions of sameness that reconciliation rests on: two
diagnostics are the *same problem* when they start at the same place with the same message, the
*same report* when the whole range agrees too, and two notes are the same when they are equal.
-/

namespace Reconcile

/-- Who reported a diagnostic. -/
inductive Source where
  | textual
  | structured
deriving DecidableEq

namespace Source

/-- The tag a producer's diagnostics carry. -/
def tag : Source → String
  | textual => "swiftc"
  | structured => "sourcekit"

/-- The producer a tag stands for: only the compiler's own tag is the textual producer's. -/
def ofTag (tag : String) : Source :=
  if tag = textual.tag then textual else structured

@[simp] theorem ofTag_tag (source : Source) : ofTag source.tag = source := by
  cases source <;> decide

end Source

/-- How grave a diagnostic is, the gravest first. -/
inductive Severity where
  | error
  | warning
  | information
  | hint
deriving DecidableEq

namespace Severity

/-- Every severity, the gravest first. -/
def all : List Severity :=
  [error, warning, information, hint]

/-- The name of a severity. -/
def name : Severity → String
  | error => "error"
  | warning => "warning"
  | information => "information"
  | hint => "hint"

/-- The severity of a name. -/
def ofName? (name : String) : Option Severity :=
  all.find? (·.name = name)

@[simp] theorem ofName?_name (severity : Severity) : ofName? severity.name = some severity := by
  cases severity <;> decide

/-- The severity of the word a report line uses: a note is information, and whatever is neither a
note nor a warning is an error. -/
def ofWord (word : String) : Severity :=
  if word = "warning" then warning else if word = "note" then information else error

/-- The place of a severity in the order of gravity. -/
def rank : Severity → Nat
  | error => 0
  | warning => 1
  | information => 2
  | hint => 3

end Severity

/-- A place in a file; both coordinates count from zero. -/
@[ext] structure Position where
  line : Int
  character : Int
deriving DecidableEq

namespace Position

/-- The place that a report names by line and column, which count from one. Coordinates below one
name the first line or character. -/
def ofReport (line column : Int) : Position :=
  ⟨max (line - 1) 0, max (column - 1) 0⟩

/-- Positions are ordered by line, then by character. -/
instance : Ord Position :=
  ⟨compareLex (compareOn Position.line) (compareOn Position.character)⟩

end Position

/-- A stretch of a file. -/
@[ext] structure Range where
  start : Position
  stop : Position
deriving DecidableEq

namespace Range

/-- The empty range at a position. -/
def point (position : Position) : Range :=
  ⟨position, position⟩

/-- Ranges are ordered by start, then by end. -/
instance : Ord Range :=
  ⟨compareLex (compareOn Range.start) (compareOn Range.stop)⟩

/-- Whether a range comes before another. -/
def precedes (a b : Range) : Bool :=
  compare a b == .lt

end Range

/-- A remark about another place that belongs to a diagnostic. -/
@[ext] structure Note where
  file : String
  range : Range
  message : String
deriving DecidableEq

/-- Notes are ordered by file, range and message. -/
instance : Ord Note :=
  ⟨compareLex (compareOn Note.file) (compareLex (compareOn Note.range) (compareOn Note.message))⟩

/-- The code of a diagnostic. The target is a link or a path to documentation; it is actionable when
it is a link that can be opened as it stands. -/
@[ext] structure Code where
  value : String
  target : Option String
  actionable : Bool
deriving DecidableEq

/-- One problem reported by one producer. -/
@[ext] structure Diagnostic where
  file : String
  range : Range
  severity : Severity
  message : String
  source : Source
  notes : List Note
  code : Option Code
deriving DecidableEq

namespace Diagnostic

/-- What identifies a problem within its file: where it starts and what it says. -/
def key (d : Diagnostic) : Position × String :=
  (d.range.start, d.message)

/-- Two diagnostics name the same problem. -/
def sameProblem (a b : Diagnostic) : Bool :=
  a.key = b.key

/-- Two diagnostics of one producer are the same report. -/
def sameReport (a b : Diagnostic) : Bool :=
  a.range = b.range && a.message = b.message

/-- The diagnostic, reported by `source`. -/
def withSource (d : Diagnostic) (source : Source) : Diagnostic :=
  { d with source }

/-- The diagnostic, moved to `file`. -/
def withFile (d : Diagnostic) (file : String) : Diagnostic :=
  { d with file }

end Diagnostic

end Reconcile
