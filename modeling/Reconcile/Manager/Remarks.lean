import Reconcile.Manager
import Reconcile.Report.Remarks
import Reconcile.Store.Remarks

/-!
# What the log says of the manager

Each event has its log entries, told in the order in which the event does its work and cut short
where the event is.
-/

namespace Reconcile.Manager

open Log

/-- An entry of the manager log. -/
def remark (level : Level) (place : Nat) (message : String) : Entry :=
  ⟨level, ⟨"diagmerge.engine.manager", place⟩, message⟩

/-- What the log says of publishing a file. -/
def publishEntries (world : Surroundings) (m : Manager) (file : String) : List Entry :=
  if world.refuses m.board.calls file then []
  else
    [remark .trace 242 ("Published " ++ toString (m.merged file).length ++ " diagnostic(s) for "
      ++ file)]

/-- What the log says of publishing files in order. -/
def publishAllEntries (world : Surroundings) (m : Manager) : List String → List Entry
  | [] => []
  | file :: files =>
    match m.publish world file with
    | (next, none) => m.publishEntries world file ++ next.publishAllEntries world files
    | (_, some _) => []

/-- What the log says of a submission. -/
def submitEntries (world : Surroundings) (m : Manager) (file : String) (source : Source)
    (ds : List Diagnostic) : List Entry :=
  if m.disposed then []
  else
    let key := canonical file
    m.store.ingestEntries key source ds
      ++ publishEntries world { m with store := (m.store.ingest key source ds).1 } key

/-- What the log says of submissions in order. -/
def submitAllEntries (world : Surroundings) (m : Manager) :
    List (String × List Diagnostic) → List Entry
  | [] => []
  | (file, ds) :: reports =>
    m.submitEntries world file .textual ds ++
      match m.submit world file .textual ds with
      | (next, none) => next.submitAllEntries world reports
      | (_, some _) => []

/-- What the log says of a deleted file. -/
def deleteEntries (m : Manager) (path : String) : List Entry :=
  let extension := String.ofList (Text.lower (Path.extensionChars path.toList))
  if m.disposed then []
  else if !m.settings.extensions.contains extension then
    [remark .trace 178 ("Ignoring deletion of non-source file " ++ path)]
  else if !m.store.reports.contains (canonical path) then []
  else [remark .debug 185 ("Dropped diagnostics of deleted file " ++ canonical path)]

/-- A policy as the log names it. -/
def policyName (policy : Option Policy) : String :=
  (policy.map Policy.key).getD "None"

/-- What the log says of other settings and a policy. -/
def reconfigureUnderEntries (world : Surroundings) (m : Manager) (settings : Settings)
    (policy : Option Policy) : List Entry :=
  if m.disposed then []
  else
    (m.under settings policy).publishAllEntries world m.store.files ++
      if (m.reconfigureUnder world settings policy).2.isSome then []
      else [remark .debug 204 ("Configuration updated; policy=" ++ policyName policy)]

/-- What the log says of other settings. -/
def reconfigureEntries (world : Surroundings) (m : Manager) (settings : Settings) : List Entry :=
  m.reconfigureUnderEntries world settings (some settings.policy)

/-- What the log says of another policy. -/
def policyEntries (world : Surroundings) (m : Manager) (policy : Option Policy) : List Entry :=
  m.reconfigureUnderEntries world (m.settingsFor policy) policy

/-- What the log says of beginning a run. -/
def beginEntries (world : Surroundings) (m : Manager) : List Entry :=
  if m.disposed then []
  else
    match m.policy with
    | none => []
    | some policy =>
      if !policy.collectsTextual then
        [remark .debug 152 ("Policy " ++ policy.key ++ " ignores compiler output")]
      else
        Report.markerEntries m.settings.markers ++
          match m.setup world with
          | .error _ => []
          | .ok _ =>
            [remark .debug 162 ("Compiler run started ("
              ++ toString (m.beginRun world).1.active.length ++ " active)")]

/-- What the log says of applying the reports of a run. -/
def applyEntries (world : Surroundings) (m : Manager) (reports : Report.Reports) : List Entry :=
  if m.disposed then []
  else
    let stripped := { m with store := m.store.removeSource .textual }
    stripped.publishAllEntries world stripped.store.files
      ++ (match stripped.publishAll world stripped.store.files with
        | (next, none) => next.submitAllEntries world reports.entries
        | (_, some _) => [])
      ++ if (m.applyRun world reports).2.isSome then
        [remark .error 254 "Failed to apply compiler diagnostics"]
      else []

/-- What the log says of bringing a run to a later state. -/
def advanceEntries (world : Surroundings) (m : Manager) (number : Nat)
    (before after : Report.Run) : List Entry :=
  match Report.Run.announced? before after with
  | some reports => (m.withRun number after).applyEntries world reports
  | none => []

/-- What the log says of a chunk. -/
def feedEntries (world : Surroundings) (m : Manager) (number : Nat) (chunk : String) :
    List Entry :=
  match m.runs[number]? with
  | none => []
  | some managed =>
    managed.run.feedEntries managed.setup chunk
      ++ m.advanceEntries world number managed.run (managed.run.feed managed.setup chunk).1

/-- What the log says of the end of a run. -/
def closeEntries (world : Surroundings) (m : Manager) (number : Nat) : List Entry :=
  match m.runs[number]? with
  | none => []
  | some managed =>
    managed.run.closeEntries ++ m.advanceEntries world number managed.run managed.run.close

/-- What the log says of giving up a run. -/
def abandonEntries (m : Manager) (number : Nat) : List Entry :=
  match m.run? number with
  | some run => run.abandonEntries
  | none => []

/-- What the log says of disposal. -/
def disposeEntries (m : Manager) : List Entry :=
  if m.disposed then []
  else m.active.flatMap m.abandonEntries ++ [remark .debug 221 "Diagnostics manager disposed"]

end Reconcile.Manager
