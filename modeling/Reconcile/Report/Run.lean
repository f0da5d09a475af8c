import Reconcile.Diagnostic.Wording
import Reconcile.FileMap
import Reconcile.Pattern.Reader
import Reconcile.Report.Line
import Reconcile.Terminal.Escape
import Reconcile.Text.Lines

/-!
# Runs of the compiler

A run is the output of one compiler invocation, read as it arrives. Text comes in chunks that may
end anywhere, so the unfinished line is kept until its end has been seen. A problem line starts a
draft; note lines after it belong to that draft. A draft whose file cannot be resolved (a macro
expansion, say) is held back until a note supplies a place for it, and is dropped when none does.

What a line means is decided by `judge` and carried out by `record`; the two are kept apart because
the first looks at the line and the second does not. `readLines` runs over complete lines up to the
first marker, and `Run.feed` over a chunk.
-/

namespace Reconcile.Report

open Text

/-- What a run is read against: which files can be published under their own name, which lines end a
build, and whether repeated reports are dropped. `resolves` has an answer for every path, and one
that stays: that asking fails, or that files come and go during a history, is not represented. -/
structure Setup where
  resolves : String → Bool
  markers : List Pattern
  dropRepeats : Bool

/-- Whether one of some patterns occurs in a line. A pattern whose match crosses a group is a fault,
unless one before it occurs. -/
def anyOccurs (line : String) : List Pattern → Except Pattern.CrossedGroup Bool
  | [] => .ok false
  | pattern :: patterns => do
    if ← pattern.occursIn line then return true else anyOccurs line patterns

/-- Whether a line ends a build. -/
def Setup.isMarker (setup : Setup) (line : String) : Except Pattern.CrossedGroup Bool :=
  anyOccurs line setup.markers

/-- Why a line of a run cannot be read. -/
inductive LineFault where
  | numeral (fault : LongNumeral)
  | crossedGroup (fault : Pattern.CrossedGroup)
deriving DecidableEq

/-- The wording of a fault. -/
def LineFault.message : LineFault → String
  | numeral fault => fault.message
  | crossedGroup fault => fault.message

/-- The draft that notes belong to: none, one that still waits for a place, or the latest of those
reported in a file. -/
inductive Focus where
  | nothing
  | held (draft : Diagnostic)
  | reported (file : String)
deriving DecidableEq

/-- The diagnostics of a run by file, in the order in which they were reported. -/
abbrev Reports := FileMap (List Diagnostic)

/-- The diagnostics reported in a file. -/
def Reports.of (reports : Reports) (file : String) : List Diagnostic :=
  (reports.get? file).getD []

/-- The reports with one more diagnostic, under its file. -/
def Reports.add (reports : Reports) (d : Diagnostic) : Reports :=
  reports.set d.file (reports.of d.file ++ [d])

/-- What the lines of a run have come to so far. -/
structure Progress where
  focus : Focus
  reports : Reports

/-- Nothing has been read. -/
def Progress.start : Progress :=
  ⟨.nothing, .empty⟩

/-- The note that a line reports. -/
def Line.note (line : Line) : Note :=
  ⟨line.file, line.range, Wording.normalize line.message⟩

/-- The diagnostic that a line starts. -/
def Line.draft (line : Line) : Diagnostic where
  file := line.file
  range := line.range
  severity := line.severity
  message := Wording.normalize line.message
  source := .textual
  notes := []
  code := none

/-- What one line means for a run. -/
inductive Verdict where
  /-- An empty line. -/
  | blank
  /-- A line that reports nothing. -/
  | prose
  /-- A note without a draft. -/
  | orphan (note : Line)
  /-- A note that its draft has already. -/
  | repeatedNote (note : Note)
  /-- One more note for the latest draft of a file. -/
  | noted (file : String) (note : Note)
  /-- A note that supplies the place of a held draft. -/
  | rescued (draft : Diagnostic) (note : Note)
  /-- A problem that was reported before. -/
  | repeated (draft : Diagnostic)
  /-- A problem in a file that can be resolved. -/
  | reported (draft : Diagnostic)
  /-- A problem in a file that cannot be resolved. -/
  | held (draft : Diagnostic)

namespace Progress

/-- What a note means. -/
def judgeNote (setup : Setup) (progress : Progress) (line : Line) : Verdict :=
  match progress.focus with
  | .nothing => .orphan line
  | .held draft => .rescued draft line.note
  | .reported file =>
    match (progress.reports.of file).getLast? with
    | none => .orphan line
    | some draft =>
      if setup.dropRepeats && draft.notes.contains line.note then .repeatedNote line.note
      else .noted file line.note

/-- What a problem line means. -/
def judgeProblem (setup : Setup) (progress : Progress) (line : Line) : Verdict :=
  let draft := line.draft
  if setup.dropRepeats && (progress.reports.of draft.file).any (·.sameReport draft) then
    .repeated draft
  else if setup.resolves draft.file then .reported draft
  else .held draft

/-- What a line means. -/
def judge (setup : Setup) (progress : Progress) (text : String) : Except LongNumeral Verdict :=
  if text.isEmpty then .ok .blank
  else
    (Line.read? text).map fun
      | none => .prose
      | some line =>
        if line.isNote then progress.judgeNote setup line else progress.judgeProblem setup line

end Progress

/-- A held draft at the place that a note supplies. -/
def rescue (draft : Diagnostic) (note : Note) : Diagnostic :=
  { draft with file := note.file, range := note.range, notes := draft.notes ++ [note] }

/-- Diagnostics with one more note on the last of them. -/
def noteLast (note : Note) : List Diagnostic → List Diagnostic
  | [] => []
  | [d] => [{ d with notes := d.notes ++ [note] }]
  | d :: ds => d :: noteLast note ds

/-- Carries out what a line means. -/
def Progress.record (progress : Progress) : Verdict → Progress
  | .blank => progress
  | .prose => progress
  | .orphan _ => progress
  | .repeatedNote _ => progress
  | .noted file note =>
    { progress with
      reports := progress.reports.set file (noteLast note (progress.reports.of file)) }
  | .rescued draft note =>
    let placed := rescue draft note
    ⟨.reported placed.file, progress.reports.add placed⟩
  -- notes after a repeated problem belong to nothing
  | .repeated _ => { progress with focus := .nothing }
  | .reported draft => ⟨.reported draft.file, progress.reports.add draft⟩
  | .held draft => { progress with focus := .held draft }

/-- How reading lines ended: there was no marker yet, there was one, or a line could not be read. -/
inductive Ending where
  | unfinished
  | marker
  | fault (fault : LineFault)
deriving DecidableEq

/-- A line as it is read: without what decorates it for a terminal. -/
def plainLine (raw : List Char) : String :=
  String.ofList (Terminal.strip raw)

/-- Reads complete lines up to the first marker or fault. -/
def Progress.readLines (setup : Setup) (progress : Progress) : List (List Char) → Progress × Ending
  | [] => (progress, .unfinished)
  | raw :: lines =>
    let line := plainLine raw
    match setup.isMarker line with
    | .error fault => (progress, .fault (.crossedGroup fault))
    | .ok true => (progress, .marker)
    | .ok false =>
      match progress.judge setup line with
      | .error fault => (progress, .fault (.numeral fault))
      | .ok verdict => (progress.record verdict).readLines setup lines

/-- A run: its output is still being read, it is complete, or it was given up. -/
inductive Run where
  | reading (unfinished : List Char) (progress : Progress)
  | completed (reports : Reports)
  | abandoned

namespace Run

/-- A run of which nothing has been read. -/
def start : Run :=
  .reading [] .start

/-- Whether nothing more is read. -/
def isFinished : Run → Bool
  | reading .. => false
  | completed _ => true
  | abandoned => true

/-- Whether the run was given up. -/
def isAbandoned : Run → Bool
  | abandoned => true
  | _ => false

/-- What a complete run reported. -/
def reports? : Run → Option Reports
  | completed reports => some reports
  | _ => none

/-- Reads a chunk of output. A fault loses the lines after the one that caused it and keeps what the
lines before it came to. -/
def feed (setup : Setup) (chunk : String) : Run → Run × Option LineFault
  | reading unfinished progress =>
    let broken := breakLines (unfinished ++ chunk.toList)
    match progress.readLines setup broken.1 with
    | (progress, .unfinished) => (.reading broken.2 progress, none)
    | (progress, .marker) => (.completed progress.reports, none)
    -- the unfinished line is kept, the lines after the fault are not
    | (progress, .fault fault) => (.reading broken.2 progress, some fault)
  | run => (run, none)

/-- Ends a run. An unfinished line is not read. -/
def close : Run → Run
  | reading _ progress => .completed progress.reports
  | run => run

/-- Gives a run up. -/
def abandon : Run → Run
  | reading .. => .abandoned
  | run => run

/-- What a step of a run made known: the reports, if the step completed it. -/
def announced? (before after : Run) : Option Reports :=
  if before.isFinished then none else after.reports?

/-- Reads chunks up to the first fault. -/
def feedAll (setup : Setup) (run : Run) : List String → Except LineFault Run
  | [] => .ok run
  | chunk :: chunks =>
    match run.feed setup chunk with
    | (next, none) => next.feedAll setup chunks
    | (_, some fault) => .error fault

end Run

/-- The reports of a run whose whole output is given in chunks. -/
def readChunks (setup : Setup) (chunks : List String) : Except LineFault Reports :=
  (Run.start.feedAll setup chunks).map fun run => (run.close.reports?).getD .empty

end Reconcile.Report
