import Reconcile.CommandLine.Settings
import Reconcile.Diagnostic.Payload
import Reconcile.Json.Printer
import Reconcile.Json.Reader
import Reconcile.Manager.Remarks

/-!
# Reconciling a log

The main command reads the diagnostics of the language service from a file and those of the compiler
from a log, has a manager reconcile them, and prints what is published, file by file in the order of
their names. It ends with a code of its own when an error is among them.
-/

namespace Reconcile.CommandLine

open Text Terminal

/-- What the command is asked to do. -/
structure Reconciliation where
  log : String
  structured : Option String
  settings : SettingsRequest
  format : OutputFormat
  chunkSize : Nat

/-! ## Reading -/

/-- Why the diagnostics of the language service cannot be had. -/
inductive StructuredFault where
  | unreadable (obstacle : Obstacle)
  | notUtf8 (fault : Utf8.Fault)
  | notJson (text : List Char) (fault : Json.Fault)
  | notTable
  | notList (file : String)
  | payload (file : String) (error : PayloadError)

/-- The lists of payloads in a table, each read as diagnostics of the file it stands for. -/
def readPayloads : Fields → Except StructuredFault (List (String × List Diagnostic))
  | [] => .ok []
  | (file, .list payloads) :: fields =>
    match Payload.diagnostics file payloads with
    | .error error => .error (.payload file error)
    | .ok ds => (readPayloads fields).map ((file, ds) :: ·)
  | (file, _) :: _ => .error (.notList file)

/-- The diagnostics of the language service in a file. -/
def readStructured (look : Lookup) (path : String) :
    Except StructuredFault (List (String × List Diagnostic)) :=
  match look.bytes path with
  | .error obstacle => .error (.unreadable obstacle)
  | .ok bytes =>
    match Utf8.decode bytes with
    | .error fault => .error (.notUtf8 fault)
    | .ok chars =>
      let text := plainLineEnds chars
      match Json.readChars text with
      | .error fault => .error (.notJson text fault)
      | .ok (.table fields) => readPayloads fields
      | .ok _ => .error .notTable

/-- What comes of a command whose structured diagnostics cannot be had. -/
def StructuredFault.outcome (coloured : Bool) (path : String) : StructuredFault → Outcome
  | unreadable obstacle =>
    .failure coloured .ioError ("Cannot read " ++ path ++ ": " ++ obstacle.message path)
  | notUtf8 fault => .crashed (.notUtf8 fault)
  | notJson _ (.numeral fault) => .crashed (.numeral fault)
  | notJson _ (.nesting container) => .crashed (.nesting container)
  | notJson text fault =>
    .failure coloured .dataError ("Invalid JSON in " ++ path ++ ": " ++ fault.message text)
  | notTable =>
    .failure coloured .dataError (path ++ ": expected an object mapping files to diagnostics")
  | notList file =>
    .failure coloured .dataError (path ++ ": diagnostics of '" ++ file ++ "' must be a list")
  | payload file error =>
    .failure coloured .dataError (path ++ ": " ++ file ++ ": " ++ error.message)

/-- The text of a log: bytes that are no text are replaced, and every line end is a line feed. -/
def logText (bytes : List UInt8) : List Char :=
  plainLineEnds (Utf8.decodeLenient bytes)

/-- A text in pieces of `size` characters, the last of which may be shorter. -/
def pieces (size : Nat) (text : List Char) : List String :=
  if text = [] || size = 0 then []
  else String.ofList (text.take size) :: pieces size (text.drop size)
termination_by text.length
decreasing_by
  next h =>
    simp only [Bool.or_eq_true, decide_eq_true_eq, not_or] at h
    have : 0 < text.length := List.length_pos_iff.2 h.1
    rw [List.length_drop]
    omega

/-- The greatest size of a piece that can be asked for. -/
def pieceLimit : Nat := 0x7fffffffffffffff

/-- The bytes of the log: those of the input for a dash, and those of a file otherwise. -/
def logBytes (look : Lookup) (input : List UInt8) (log : String) : Except Obstacle (List UInt8) :=
  if log = "-" then .ok input else look.bytes log

/-! ## Reconciling -/

/-- How far reconciliation has come: the manager, what was said, and the outcome if it has
failed. -/
structure Stage where
  manager : Manager
  said : List Utterance
  failed : Option Outcome

/-- Feeds pieces of a log to a run until it is finished. -/
def feedPieces (world : Surroundings) (number : Nat) (stage : Stage) : List String → Stage
  | [] => stage
  | piece :: rest =>
    if !stage.manager.isUnfinished number then stage
    else
      let fed := stage.manager.feed world number piece
      let said := stage.said ++ logged (stage.manager.feedEntries world number piece)
      match fed.2 with
      | some fault => ⟨fed.1, said, some (.crashed (.line fault))⟩
      | none => feedPieces world number ⟨fed.1, said, none⟩ rest

/-- Feeds the whole log to a run and ends the run. -/
def feedLog (world : Surroundings) (look : Lookup) (input : List UInt8) (coloured : Bool)
    (request : Reconciliation) (number : Nat) (stage : Stage) : Stage :=
  match logBytes look input request.log with
  | .error obstacle =>
    let outcome :=
      -- a log that is not there has an exit code of its own
      if obstacle = .missing then
        Outcome.failure coloured .fileNotFound ("No such file: " ++ request.log)
      else
        Outcome.failure coloured .ioError ("Cannot read " ++ request.log ++ ": "
          ++ obstacle.message request.log)
    ⟨stage.manager.abandon number, stage.said ++ logged (stage.manager.abandonEntries number),
      some outcome⟩
  | .ok bytes =>
    if pieceLimit < request.chunkSize then { stage with failed := some (.crashed .chunkTooLong) }
    else
      let fed := feedPieces world number stage (pieces request.chunkSize (logText bytes))
      match fed.failed with
      | some _ => fed
      | none =>
        ⟨fed.manager.close world number,
          fed.said ++ logged (fed.manager.closeEntries world number), none⟩

/-- Submits the diagnostics of the language service, file by file. -/
def submitStructured (world : Surroundings) (stage : Stage) :
    List (String × List Diagnostic) → Stage
  | [] => stage
  | (file, ds) :: rest =>
    submitStructured world
      ⟨(stage.manager.submit world file .structured ds).1,
        stage.said ++ logged (stage.manager.submitEntries world file .structured ds), none⟩ rest

/-- Reads the log in a run, unless the policy leaves compiler output aside. -/
def runLog (world : Surroundings) (look : Lookup) (input : List UInt8) (coloured : Bool)
    (request : Reconciliation) (stage : Stage) : Stage :=
  let begun := stage.manager.beginRun world
  let said := stage.said ++ logged (stage.manager.beginEntries world)
  match begun.2 with
  | .ok (some number) => feedLog world look input coloured request number ⟨begun.1, said, none⟩
  | .ok none =>
    let entry : Log.Entry :=
      ⟨.info, ⟨"diagmerge.cli.commands.parse", 238⟩,
        "Policy " ++ begun.1.settings.policy.key ++ " ignores compiler output"⟩
    ⟨begun.1, said ++ [.log entry], none⟩
  | .error fault => ⟨begun.1, said, some (.crashed (.begin fault))⟩

/-! ## Printing -/

/-- What is published, without files that have nothing, in the order of the names of the files. -/
def publishedLists (m : Manager) : List (String × List Diagnostic) :=
  (m.published.entries.filter fun entry => !entry.2.isEmpty).mergeSort fun a b => a.1 ≤ b.1

/-- A place in a file as it is printed; lines and characters count from one. -/
def placeText (file : String) (position : Position) : Except LongNumeral String := do
  let line ← writeNumeral (position.line + 1)
  let character ← writeNumeral (position.character + 1)
  return file ++ ":" ++ line ++ ":" ++ character

/-- The lines of a diagnostic. -/
def diagnosticLines (console : Console) (file : String) (d : Diagnostic) :
    List (Except LongNumeral String) :=
  let severity := console.styled ⟨some d.severity.printedHue, true, false⟩ d.severity.name
  let head := (placeText file d.range.start).map fun place =>
    place ++ ": " ++ severity ++ ": " ++ d.message ++ " [" ++ d.source.tag ++ "]"
  let notes := d.notes.map fun note =>
    (placeText note.file note.range.start).map fun place =>
      "    note: " ++ place ++ ": " ++ note.message
  let links := match d.code with
    | some ⟨value, some target, _⟩ =>
      if 1 < console.detail && !target.isEmpty then ["    " ++ value ++ ": " ++ target] else []
    | _ => []
  head :: notes ++ links.map .ok

/-- How many diagnostics have a severity. -/
def countOf (severity : Severity) (ds : List Diagnostic) : Nat :=
  (ds.filter (·.severity = severity)).length

/-- The line that counts what is published. -/
def summaryLine (console : Console) (published : List (String × List Diagnostic)) : String :=
  let ds := published.flatMap Prod.snd
  console.styled ⟨none, true, false⟩
    (toString (countOf .error ds) ++ " error(s), " ++ toString (countOf .warning ds)
      ++ " warning(s), " ++ toString (countOf .information ds + countOf .hint ds) ++ " other in "
      ++ toString published.length ++ " file(s)")

/-- The lines up to the first that cannot be written, and what is wrong with that one. -/
def writableLines : List (Except LongNumeral String) → List String × Option LongNumeral
  | [] => ([], none)
  | .error fault :: _ => ([], some fault)
  | .ok line :: lines =>
    let (written, fault) := writableLines lines
    (line :: written, fault)

/-- What is published, for people, up to the first line that cannot be written. -/
def asText (console : Console) (published : List (String × List Diagnostic)) :
    List Utterance × Option LongNumeral :=
  let lines := published.flatMap fun (file, ds) => ds.flatMap (diagnosticLines console file)
  let summary := if 0 < console.detail then [.ok (summaryLine console published)] else []
  let (written, fault) := writableLines (lines ++ summary)
  (written.map console.print, fault)

/-- What is published, as one value. -/
def asValue (policy : Policy) (published : List (String × List Diagnostic)) : Value :=
  .table [("policy", .text policy.key),
    ("diagnostics", .table (published.map fun (file, ds) =>
      (file, .list (ds.map Diagnostic.toValue))))]

/-- What is published, in a format, and what cut the printing short. -/
def printed (console : Console) (format : OutputFormat) (policy : Policy)
    (published : List (String × List Diagnostic)) : List Utterance × Option LongNumeral :=
  match format with
  | .text => asText console published
  | .json => ([console.print (Json.indented (asValue policy published))], none)
  | .ndjson =>
    ((published.flatMap Prod.snd).map fun d => console.print (Json.compact d.toValue), none)

/-- Whether an error is among what is published. -/
def hasError (published : List (String × List Diagnostic)) : Bool :=
  published.any fun (_, ds) => ds.any (·.severity = .error)

/-! ## The command -/

/-- Prints what a manager published, once it is disposed of. -/
def conclude (console : Console) (format : OutputFormat) (policy : Policy) (stage : Stage) :
    Outcome :=
  let said := stage.said ++ logged stage.manager.disposeEntries
  match stage.failed with
  | some outcome => outcome.after said
  | none =>
    let published := publishedLists stage.manager
    match printed console format policy published with
    | (lines, some fault) => (Outcome.crashed (.numeral fault)).after (said ++ lines)
    | (lines, none) =>
      { said := said ++ lines
        exit := if hasError published then ExitCode.diagnosticsError.number else 0
        crash := none }

/-- Reconciles under given settings. -/
def Reconciliation.under (request : Reconciliation) (look : Lookup) (input : List UInt8)
    (console : Console) (settings : Settings) (structured : List (String × List Diagnostic)) :
    Outcome :=
  let world : Surroundings := ⟨look.exists?, fun _ _ => false⟩
  let submitted := submitStructured world ⟨.start settings, [], none⟩ structured
  conclude console request.format settings.policy
    (runLog world look input console.coloured request submitted)

/-- Reconciles the diagnostics of the language service with those of a log. -/
def Reconciliation.run (request : Reconciliation) (look : Lookup) (input : List UInt8)
    (console : Console) : Outcome :=
  match request.settings.load look console with
  | (said, .error crash) => (Outcome.crashed crash).after said
  | (said, .ok settings) =>
    match request.structured with
    | none => (request.under look input console settings []).after said
    | some path =>
      match readStructured look path with
      | .error fault => (fault.outcome console.coloured path).after said
      | .ok structured => (request.under look input console settings structured).after said

end Reconcile.CommandLine
