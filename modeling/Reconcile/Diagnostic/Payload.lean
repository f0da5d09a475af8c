import Reconcile.Diagnostic
import Reconcile.Value.Basic

/-!
# Payloads

A payload is a diagnostic written as a document value, the form in which the language service hands
diagnostics over and in which machine output lists them. `Payload.diagnostic` reads what
`Diagnostic.toValue` writes, and is more lenient: the end of a range, the severity, the source, the
notes and the code may be left out, and a code may be a bare name or number.
-/

namespace Reconcile

/-- What is wrong with a payload. `place` says where in the payload. -/
inductive PayloadError where
  | wrongField (place key kind : String) (got : Value)
  | notTable (place : String) (got : Value)
  | noFile (got : Value)
  | unknownSeverity (got : Value)
  | notesNotList
  | targetNotText (got : Value)

/-- The wording of a payload error. -/
def PayloadError.message : PayloadError → String
  | wrongField place key kind got =>
    place ++ ": expected '" ++ key ++ "' to be " ++ kind ++ ", got " ++ got.shown
  | notTable place got => place ++ ": expected an object, got " ++ got.shown
  | noFile got => "diagnostic: missing 'file' (got " ++ got.shown ++ ")"
  | unknownSeverity got => "diagnostic: unknown severity " ++ got.shown
  | notesNotList => "diagnostic: 'related_information' must be a list"
  | targetNotText got => "code: expected 'target' to be str, got " ++ got.shown

/-- An optional text as a value. -/
def Value.ofText? : Option String → Value
  | some content => .text content
  | none => .null

namespace Payload

/-- The fields of a table. -/
def fields (place : String) : Value → Except PayloadError Fields
  | .table fields => .ok fields
  | got => .error (.notTable place got)

/-- The text of a field that must be there. -/
def textField (place : String) (fields : Fields) (key : String) : Except PayloadError String :=
  match fields.get key with
  | .text text => .ok text
  | got => .error (.wrongField place key "str" got)

/-- The integer of a field that must be there. -/
def integerField (place : String) (fields : Fields) (key : String) : Except PayloadError Int :=
  match fields.get key with
  | .integer integer => .ok integer
  | got => .error (.wrongField place key "int" got)

/-- Reads a position. -/
def position (place : String) (value : Value) : Except PayloadError Position := do
  let data ← fields place value
  let line ← integerField place data "line"
  let character ← integerField place data "character"
  return ⟨line, character⟩

/-- Reads a range; one without an end is the empty range at its start. -/
def range (place : String) (value : Value) : Except PayloadError Range := do
  let data ← fields place value
  let start ← position (place ++ ".start") (data.get "start")
  match data.get "end" with
  | .null => return ⟨start, start⟩
  | value => do
    let stop ← position (place ++ ".end") value
    return ⟨start, stop⟩

/-- Reads a note. -/
def note (place : String) (value : Value) : Except PayloadError Note := do
  let data ← fields place value
  let file ← textField place data "file"
  let range ← range (place ++ ".range") (data.get "range")
  let message ← textField place data "message"
  return ⟨file, range, message⟩

/-- Reads notes, the first of which is number `index`. -/
def notesFrom (index : Nat) : List Value → Except PayloadError (List Note)
  | [] => .ok []
  | value :: values => do
    let first ← note ("related_information[" ++ toString index ++ "]") value
    let others ← notesFrom (index + 1) values
    return first :: others

/-- Reads the notes of a diagnostic, none if there is no such field. -/
def notes (data : Fields) : Except PayloadError (List Note) :=
  match data.lookup "related_information" with
  | none => .ok []
  | some (.list values) => notesFrom 0 values
  | some _ => .error .notesNotList

/-- Reads the severity of a diagnostic, an error if there is no such field. -/
def severity (data : Fields) : Except PayloadError Severity :=
  match data.lookup "severity" with
  | none => .ok .error
  | some got =>
    match got with
    | .text name =>
      match Severity.ofName? name with
      | some severity => .ok severity
      | none => .error (.unknownSeverity got)
    | _ => .error (.unknownSeverity got)

/-- Reads the source of a diagnostic, `default` if there is none. -/
def source (default : Source) (data : Fields) : Source :=
  match data.get "source" with
  | .null => default
  | value => Source.ofTag value.plain

/-- Reads the target of a code. -/
def target (data : Fields) : Except PayloadError (Option String) :=
  match data.get "target" with
  | .null => .ok none
  | .text target => .ok (some target)
  | got => .error (.targetNotText got)

/-- Reads the code of a diagnostic. -/
def code : Value → Except PayloadError (Option Code)
  | .null => .ok none
  | .text value => .ok (some ⟨value, none, false⟩)
  | .integer value => .ok (some ⟨toString value, none, false⟩)
  | value => do
    let data ← fields "code" value
    let target ← target data
    let name := ((data.lookup "value").getD (.text "")).plain
    return some ⟨name, target, (data.get "actionable").truth⟩

/-- Reads the file of a diagnostic, `fallback` if there is no such field. -/
def file (fallback : Option String) (data : Fields) : Except PayloadError String :=
  match (data.lookup "file").getD (.ofText? fallback) with
  | .text file => if file.isEmpty then .error (.noFile (.text file)) else .ok file
  | got => .error (.noFile got)

/-- Reads a diagnostic. `fallback` is the file of a payload that names none, and `default` the
source of one that names none. -/
def diagnostic (fallback : Option String) (default : Source) (value : Value) :
    Except PayloadError Diagnostic := do
  let data ← fields "diagnostic" value
  let file ← file fallback data
  let message ← textField "diagnostic" data "message"
  let severity ← severity data
  let notes ← notes data
  let code ← code (data.get "code")
  let range ← range "diagnostic.range" (data.get "range")
  return { file, range, severity, message, source := source default data, notes, code }

/-- Reads the diagnostics of a file. -/
def diagnostics (file : String) (values : List Value) : Except PayloadError (List Diagnostic) :=
  values.mapM (diagnostic (some file) .structured)

end Payload

/-- A position as a payload. -/
def Position.toValue (p : Position) : Value :=
  .table [("line", .integer p.line), ("character", .integer p.character)]

/-- A range as a payload. -/
def Range.toValue (r : Range) : Value :=
  .table [("start", r.start.toValue), ("end", r.stop.toValue)]

/-- A note as a payload. -/
def Note.toValue (n : Note) : Value :=
  .table [("file", .text n.file), ("range", n.range.toValue), ("message", .text n.message)]

/-- A code as a payload. -/
def Code.toValue (c : Code) : Value :=
  .table [("value", .text c.value), ("target", .ofText? c.target),
    ("actionable", .flag c.actionable)]

/-- A diagnostic as a payload; it has a code field only if it has a code. -/
def Diagnostic.toValue (d : Diagnostic) : Value :=
  .table (
    [("file", .text d.file), ("range", d.range.toValue), ("severity", .text d.severity.name),
      ("message", .text d.message), ("source", .text d.source.tag),
      ("related_information", .list (d.notes.map Note.toValue))]
    ++ match d.code with
      | some code => [("code", code.toValue)]
      | none => [])

end Reconcile
