import Reconcile.Log.Entry
import Reconcile.Report.Run
import Reconcile.Text.Quoted

/-!
# What the log says of a run

Each step of a run has its log entries, told from the same verdicts that `Report.Run` carries out:
why a line came to nothing, which draft was rescued, how a run ended.
-/

namespace Reconcile.Report

open Log Text

/-- An entry of the run log. -/
def remark (level : Level) (place : Nat) (message : String) : Entry :=
  ⟨level, ⟨"diagmerge.parser.stream", place⟩, message⟩

/-- What the log says of a line with a verdict. -/
def Verdict.entries (line : String) : Verdict → List Entry
  | .blank => []
  | .prose => [remark .trace 224 ("Ignoring non-diagnostic line: " ++ quoted line)]
  | .orphan note => [remark .trace 234 ("Discarding orphaned note: " ++ quoted note.message)]
  | .repeatedNote note => [remark .trace 241 ("Discarding duplicate note: " ++ quoted note.message)]
  | .noted _ _ => []
  | .rescued draft note =>
    [remark .debug 251 ("Rescued diagnostic " ++ quoted draft.message ++ " at " ++ note.file)]
  | .repeated draft =>
    [remark .trace 264 ("Discarding duplicate diagnostic: " ++ quoted draft.message)]
  | .reported _ => []
  | .held draft => [remark .trace 274 ("Holding diagnostic at unresolved location " ++ draft.file)]

namespace Progress

/-- What the log says when a run completes. -/
def closingEntries (progress : Progress) : List Entry :=
  let dropped := match progress.focus with
    | .held draft =>
      [remark .debug 194
        ("Discarding unresolved diagnostic " ++ quoted draft.message ++ " at " ++ draft.file)]
    | _ => []
  let lists := progress.reports.entries.map Prod.snd
  dropped ++
    [remark .debug 204
      ("Run complete: " ++ toString lists.flatten.length ++ " diagnostic(s) in "
        ++ toString progress.reports.size ++ " file(s)")]

/-- What the log says of complete lines. -/
def lineEntries (setup : Setup) (progress : Progress) : List (List Char) → List Entry
  | [] => []
  | raw :: lines =>
    let line := plainLine raw
    match setup.isMarker line with
    | .error _ => []
    | .ok true =>
      remark .debug 165 ("Build completion marker: " ++ quoted line) :: progress.closingEntries
    | .ok false =>
      match progress.judge setup line with
      | .error _ => []
      | .ok verdict => verdict.entries line ++ (progress.record verdict).lineEntries setup lines

end Progress

namespace Run

/-- What the log says of a chunk. -/
def feedEntries (setup : Setup) (chunk : String) : Run → List Entry
  | reading unfinished progress =>
    progress.lineEntries setup (breakLines (unfinished ++ chunk.toList)).1
  | _ =>
    [remark .trace 157 ("Ignoring " ++ toString chunk.length ++ " chars fed after run end")]

/-- What the log says of the end of a run. -/
def closeEntries : Run → List Entry
  | reading unfinished progress =>
    (if unfinished.isEmpty then []
      else
        [remark .trace 179
          ("Dropping unterminated fragment at close: " ++ quoted (String.ofList unfinished))])
      ++ progress.closingEntries
  | _ => []

/-- What the log says of a run that is given up. -/
def abandonEntries : Run → List Entry
  | reading .. => [remark .debug 186 "Disposing stream parser before completion"]
  | _ => []

end Run

end Reconcile.Report
