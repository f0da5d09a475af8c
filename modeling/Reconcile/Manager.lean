import Reconcile.Board
import Reconcile.Merge
import Reconcile.Report.Run
import Reconcile.Settings
import Reconcile.Store

/-!
# The manager

The manager takes in what the producers report, merges it file by file, and publishes the result on
a board. It keeps three things in step: the store, the lists it published last, and the board. Every
event is a function from a manager to the next one; an event that publishes may be cut short by a
board that refuses a file.

Compiler output comes in runs. A run is begun, fed and ended by whoever holds its number; when it
completes, its reports replace everything the compiler had reported before.
-/

namespace Reconcile

open Text

/-- What the manager cannot decide by itself: which files can be resolved, and which files the board
refuses after given calls. -/
structure Surroundings where
  resolves : String → Bool
  refuses : List Call → String → Bool

/-- The board refused to show a file. -/
structure Refusal where
  file : String
deriving DecidableEq

/-- A run and what it is read against. -/
structure ManagedRun where
  setup : Report.Setup
  run : Report.Run

/-- Why a run cannot be begun. -/
inductive BeginFault where
  /-- No policy says whether compiler output is collected. -/
  | noPolicy
  /-- The markers of the settings cannot be read. -/
  | marker (excess : Pattern.Excess)

/-- The wording of a fault. -/
def BeginFault.message : BeginFault → String
  | noPolicy => "No policy is in force."
  | marker excess => excess.message

/-- The state of reconciliation. The policy in force is that of the settings unless another one, or
none, was set since. `runs` holds every run that was begun, and `active` the numbers of those that
disposal gives up. -/
structure Manager where
  settings : Settings
  policy : Option Policy
  store : Store
  published : FileMap (List Diagnostic)
  board : Board
  runs : List ManagedRun
  active : List Nat
  disposed : Bool

namespace Manager

/-- The identity under which the diagnostics of a path are kept. -/
def canonical (path : String) : String :=
  Path.normalize path

/-- A manager that has seen nothing. -/
def start (settings : Settings) : Manager where
  settings
  policy := some settings.policy
  store := .empty settings.normalization
  published := .empty
  board := .empty
  runs := []
  active := []
  disposed := false

/-- The diagnostics last published for a path. -/
def publishedFor (m : Manager) (path : String) : List Diagnostic :=
  (m.published.get? (canonical path)).getD []

/-- The diagnostics stored for a path. -/
def storedFor (m : Manager) (path : String) : List Diagnostic :=
  m.store.get (canonical path)

/-! ## Publishing -/

/-- The diagnostics to publish for a file. Without a policy, those of both producers are. -/
def merged (m : Manager) (file : String) : List Diagnostic :=
  merge (m.policy.getD .unionAll) (m.store.get file)

/-- Publishes what is stored for a file. The manager takes note of the list before the board
does. -/
def publish (world : Surroundings) (m : Manager) (file : String) : Manager × Option Refusal :=
  let noted := { m with published := m.published.set file (m.merged file) }
  if world.refuses m.board.calls file then
    ({ noted with board := m.board.refuse file }, some ⟨file⟩)
  else ({ noted with board := m.board.set file (m.merged file) }, none)

/-- Publishes files in order, up to the first that the board refuses. -/
def publishAll (world : Surroundings) (m : Manager) : List String → Manager × Option Refusal
  | [] => (m, none)
  | file :: files =>
    match m.publish world file with
    | (next, none) => next.publishAll world files
    | refused => refused

/-! ## Events -/

/-- Replaces what a producer reports for a file, and publishes the file. -/
def submit (world : Surroundings) (m : Manager) (file : String) (source : Source)
    (ds : List Diagnostic) : Manager × Option Refusal :=
  if m.disposed then (m, none)
  else
    let key := canonical file
    publish world { m with store := (m.store.ingest key source ds).1 } key

/-- Submits the compiler's reports for files in order, up to the first that the board refuses. -/
def submitAll (world : Surroundings) (m : Manager) :
    List (String × List Diagnostic) → Manager × Option Refusal
  | [] => (m, none)
  | (file, ds) :: reports =>
    match m.submit world file .textual ds with
    | (next, none) => next.submitAll world reports
    | refused => refused

/-- Forgets a deleted source file. Tells whether there was anything to forget. -/
def deleteFile (m : Manager) (path : String) : Manager × Bool :=
  let extension := String.ofList (lower (Path.extensionChars path.toList))
  let key := canonical path
  if m.disposed || !m.settings.extensions.contains extension || !m.store.reports.contains key then
    (m, false)
  else
    ({ m with
        store := m.store.remove key
        published := m.published.erase key
        board := m.board.delete key }, true)

/-- The manager under other settings and a policy, with nothing published. -/
def under (m : Manager) (settings : Settings) (policy : Option Policy) : Manager :=
  { m with
    settings
    policy
    store := { m.store with normalization := settings.normalization }
    board := m.board.clear
    published := .empty }

/-- Applies other settings and a policy, and publishes every stored file anew. -/
def reconfigureUnder (world : Surroundings) (m : Manager) (settings : Settings)
    (policy : Option Policy) : Manager × Option Refusal :=
  if m.disposed then (m, none)
  else publishAll world (m.under settings policy) m.store.files

/-- Applies other settings, and publishes every stored file anew. -/
def reconfigure (world : Surroundings) (m : Manager) (settings : Settings) :
    Manager × Option Refusal :=
  m.reconfigureUnder world settings (some settings.policy)

/-- The settings with a policy, if there is one. -/
def settingsFor (m : Manager) (policy : Option Policy) : Settings :=
  (policy.map m.settings.withPolicy).getD m.settings

/-- Applies another policy, or none. -/
def setPolicy (world : Surroundings) (m : Manager) (policy : Option Policy) :
    Manager × Option Refusal :=
  m.reconfigureUnder world (m.settingsFor policy) policy

/-- Drops everything that is stored and published. -/
def clear (m : Manager) : Manager :=
  { m with board := m.board.clear, published := .empty, store := m.store.clear }

/-! ## Runs -/

/-- The run of a number. -/
def run? (m : Manager) (number : Nat) : Option Report.Run :=
  m.runs[number]?.map ManagedRun.run

/-- Whether a run is still being read. -/
def isUnfinished (m : Manager) (number : Nat) : Bool :=
  (m.run? number).any (!·.isFinished)

/-- What runs are read against under the present settings. -/
def setup (world : Surroundings) (m : Manager) : Except Pattern.Excess Report.Setup :=
  (Report.readMarkers m.settings.markers).map fun markers =>
    { resolves := world.resolves, markers, dropRepeats := m.settings.dropRepeats }

/-- Begins a run and yields its number; no run is begun when compiler output is not collected. -/
def beginRun (world : Surroundings) (m : Manager) : Manager × Except BeginFault (Option Nat) :=
  if m.disposed then (m, .ok none)
  else
    match m.policy with
    | none => (m, .error .noPolicy)
    | some policy =>
      if !policy.collectsTextual then (m, .ok none)
      else
        match m.setup world with
        | .error excess => (m, .error (.marker excess))
        | .ok setup =>
          let number := m.runs.length
          -- runs that have ended need not be given up later
          ({ m with
              runs := m.runs ++ [⟨setup, .start⟩]
              active := m.active.filter m.isUnfinished ++ [number] }, .ok (some number))

/-- The manager with a run brought to a later state. -/
def withRun (m : Manager) (number : Nat) (run : Report.Run) : Manager :=
  { m with runs := m.runs.modify number fun managed => { managed with run } }

/-- Applies the reports of a complete run. Files that it does not mention are healed: the compiler's
old records are dropped everywhere first. -/
def applyRun (world : Surroundings) (m : Manager) (reports : Report.Reports) :
    Manager × Option Refusal :=
  if m.disposed then (m, none)
  else
    -- healed first and published, then reported: a file is published once for each
    let stripped := { m with store := m.store.removeSource .textual }
    match stripped.publishAll world stripped.store.files with
    | (next, none) => next.submitAll world reports.entries
    | refused => refused

/-- Brings a run to a later state and applies its reports if that completed it. A board that refuses
a file cuts the application short, and nothing more comes of it. -/
def advance (world : Surroundings) (m : Manager) (number : Nat) (before after : Report.Run) :
    Manager :=
  match Report.Run.announced? before after with
  | some reports => ((m.withRun number after).applyRun world reports).1
  | none => m.withRun number after

/-- Feeds a chunk of compiler output to a run. -/
def feed (world : Surroundings) (m : Manager) (number : Nat) (chunk : String) :
    Manager × Option Report.LineFault :=
  match m.runs[number]? with
  | none => (m, none)
  | some managed =>
    let fed := managed.run.feed managed.setup chunk
    (m.advance world number managed.run fed.1, fed.2)

/-- Ends a run. -/
def close (world : Surroundings) (m : Manager) (number : Nat) : Manager :=
  match m.runs[number]? with
  | none => m
  | some managed => m.advance world number managed.run managed.run.close

/-- Gives up a run. -/
def abandon (m : Manager) (number : Nat) : Manager :=
  match m.runs[number]? with
  | none => m
  | some managed => m.withRun number managed.run.abandon

/-- Stops reacting to events: gives up the active runs and drops everything. -/
def dispose (m : Manager) : Manager :=
  if m.disposed then m
  else
    let ended := m.active.foldl abandon m
    { ended.clear with active := [], disposed := true }

end Manager

end Reconcile
