import Reconcile.CommandLine.Arguments
import Reconcile.CommandLine.Help
import Reconcile.CommandLine.Reconciliation
import Reconcile.Log.Printer

/-!
# Invocations

An invocation is the list of arguments that the program is called with. The options of the group
come first and decide on colour, detail and the log; then a command is named, and its own arguments
follow. Each step can end the invocation: with a help page, with a complaint about its usage, or
with a crash.

`outcome` is what the program does, as a function of the arguments and the circumstances: the files,
the input and the environment. `Outcome.output` and `Outcome.complaints` are what of it is seen.
-/

namespace Reconcile.CommandLine

open Text

/-- What an invocation finds outside: the files, the input and the environment. -/
structure Circumstances where
  look : Lookup
  input : List UInt8
  environment : Environment

/-! ## The options of the commands -/

/-- The option that asks for help, which every command has. -/
def helpOption : OptionSpec := ⟨["-h", "--help"], false⟩

/-- The options of the group. -/
def groupOptions : List OptionSpec :=
  [⟨["-q", "--quiet"], false⟩, ⟨["-v", "--verbose"], false⟩, ⟨["--no-color"], false⟩,
    ⟨["--color"], true⟩, helpOption]

/-- The options that say where settings come from. -/
def settingsOptions : List OptionSpec :=
  [⟨["--config"], true⟩, ⟨["--no-config"], false⟩]

/-- The options of a command. -/
def Command.options : Command → List OptionSpec
  | .group => groupOptions
  | .parse =>
    [⟨["--structured"], true⟩, ⟨["--policy"], true⟩, ⟨["--format"], true⟩,
      ⟨["--chunk-size"], true⟩] ++ settingsOptions ++ [helpOption]
  | .dumpConfig => settingsOptions ++ [helpOption]
  | .version => [⟨["--format"], true⟩, helpOption]

/-- How many plain arguments a command takes at most; the group passes them on. -/
def Command.plainLimit : Command → Option Nat
  | .group => none
  | .parse => some 1
  | .dumpConfig => some 0
  | .version => some 0

/-! ## Reading values -/

/-- What stands against a value: a complaint about it, or a crash while it was looked at. -/
inductive Objection where
  | complaint (reason : String)
  | crash (crash : Crash)

/-- The objection to a path that should lead to a file that is there. -/
def missingFile? (look : Lookup) (path : String) : Option Objection :=
  if Path.hasNull path then some (.crash .nullByte)
  else
    match look path with
    | .ok (.file _) => none
    | .ok .directory => some (.complaint ("File " ++ quoted path ++ " is a directory."))
    | .error _ => some (.complaint ("File " ++ quoted path ++ " does not exist."))

/-- The objection to a path that must not lead to a directory. -/
def directory? (look : Lookup) (path : String) : Option Objection :=
  if Path.hasNull path then some (.crash .nullByte)
  else
    match look path with
    | .ok .directory => some (.complaint ("File " ++ quoted path ++ " is a directory."))
    | _ => none

/-- The size of the pieces in which a log is read, where none is chosen. -/
def standardChunkSize : Nat := 4096

/-- The size of pieces, or the complaint about it. -/
def readChunkSize (value : String) : Except String Nat :=
  match readInteger? value with
  | none => .error (quoted value ++ " is not a valid integer range.")
  | some size =>
    if size < 1 then .error (toString size ++ " is not in the range x>=1.") else .ok size.toNat

/-- The complaint in a reading, if it failed. -/
def complaintOf {α : Type} : Except String α → Option Objection
  | .ok _ => none
  | .error reason => some (.complaint reason)

/-- The objection to the values of an option that was given. -/
def optionObjection? (look : Lookup) (scanned : Scanned) (name : String) : Option Objection :=
  let last := (scanned.value? name).getD ""
  if name = "--color" then complaintOf (colourChoice.read last)
  else if name = "--policy" then complaintOf (policyChoice.read last)
  else if name = "--format" then complaintOf (formatChoice.read last)
  else if name = "--chunk-size" then complaintOf (readChunkSize last)
  else if name = "--structured" then missingFile? look last
  else if name = "--config" then (scanned.values name).findSome? (missingFile? look)
  else none

/-- The objection to the log that a command is given. -/
def logObjection? (look : Lookup) (command : Command) (scanned : Scanned) : Option Objection :=
  match command, scanned.plain with
  | .parse, log :: _ => if log = "-" then none else directory? look log
  | _, _ => none

/-- An objection to the value of a parameter; a complaint names the parameter. -/
def Objection.to (parameter : String) : Objection → Objection
  | .complaint reason => .complaint ("Invalid value for '" ++ parameter ++ "': " ++ reason)
  | .crash cause => .crash cause

/-- The objection to the values that a command is given: options in the order in which they were
given, then the log. -/
def valueObjection? (look : Lookup) (command : Command) (scanned : Scanned) : Option Objection :=
  let wrong (name : String) : Option Objection :=
    (optionObjection? look scanned name).map (Objection.to name)
  match scanned.names.findSome? wrong with
  | some objection => some objection
  | none => (logObjection? look command scanned).map (Objection.to "[LOG]")

/-- The complaint about plain arguments that a command does not take. -/
def extraComplaint? (command : Command) (plain : List String) : Option String :=
  match command.plainLimit with
  | none => none
  | some limit =>
    match plain.drop limit with
    | [] => none
    | [argument] => some ("Got unexpected extra argument (" ++ argument ++ ")")
    | arguments => some ("Got unexpected extra arguments (" ++ " ".intercalate arguments ++ ")")

/-- The outcome of options that cannot be taken apart. An unknown option comes with the usage of the
command; what is wrong with a known one stands alone and is never coloured. -/
def ScanFault.outcome (command : Command) (coloured : Bool) (fault : ScanFault) : Outcome :=
  match fault with
  | .noSuchOption _ _ => .misuse coloured (command.complaint fault.message)
  | _ => .misuse false ("Error: " ++ fault.message ++ "\n")

/-- The outcome of an objection to a value. -/
def Objection.outcome (command : Command) (coloured : Bool) : Objection → Outcome
  | .complaint reason => .misuse coloured (command.complaint reason)
  | .crash cause => .crashed cause

/-- The arguments of a command taken apart and checked, or the outcome that ends it: help comes
before wrong values, and those before superfluous arguments. -/
def Command.read (command : Command) (coloured : Bool) (look : Lookup) (arguments : List String) :
    Except Outcome Scanned :=
  match scan command.options (command = .group) arguments with
  | .error fault => .error (fault.outcome command coloured)
  | .ok scanned =>
    if scanned.has "--help" then .error (.success [.out (command.help ++ "\n")])
    else
      match valueObjection? look command scanned with
      | some objection => .error (objection.outcome command coloured)
      | none =>
        match extraComplaint? command scanned.plain with
        | some complaint => .error (.misuse coloured (command.complaint complaint))
        | none => .ok scanned

/-! ## The commands -/

/-- The format that is asked for. -/
def formatOf (scanned : Scanned) : OutputFormat :=
  ((scanned.value? "--format").bind formatChoice.read?).getD .text

/-- Where the settings come from that are asked for. -/
def settingsOf (scanned : Scanned) : SettingsRequest where
  named := scanned.values "--config"
  discovering := !scanned.has "--no-config"
  policy := (scanned.value? "--policy").bind policyChoice.read?

/-- The reconciliation that is asked for. -/
def reconciliationOf (scanned : Scanned) : Reconciliation where
  log := scanned.plain.head?.getD "-"
  structured := (scanned.value? "--structured").map Path.tidy
  settings := settingsOf scanned
  format := formatOf scanned
  chunkSize :=
    match (scanned.value? "--chunk-size").map readChunkSize with
    | some (.ok size) => size
    | _ => standardChunkSize

/-- Prints the version. -/
def showVersion (console : Console) (format : OutputFormat) : Outcome :=
  if format.isMachine then
    .success [console.print (Json.compact (.table [("version", .text programVersion)]))]
  else
    let number := console.styled ⟨none, true, false⟩ programVersion
    if 0 < console.detail then
      .success [console.print (console.styled ⟨none, true, true⟩ "DiagMerge version:\n"),
        console.print ("    " ++ number)]
    else .success [console.print number]

/-- What a command does whose arguments have been read. -/
def Command.execute (command : Command) (here : Circumstances) (console : Console)
    (scanned : Scanned) : Outcome :=
  match command with
  | .group =>
    .success [console.print "Hint: use 'diagmerge parse LOG' to reconcile a compiler log.",
      console.print "", console.print Command.group.help]
  | .parse => (reconciliationOf scanned).run here.look here.input console
  | .dumpConfig => dumpSettings here.look console (settingsOf scanned)
  | .version => showVersion console (formatOf scanned)

/-- The colour mode that the options of the group ask for. -/
def colourModeOf (scanned : Scanned) : ColourMode :=
  if scanned.has "--no-color" then .never
  else ((scanned.value? "--color").bind colourChoice.read?).getD .auto

/-- The console that the options of the group ask for, or the outcome that ends the invocation. -/
def consoleOf (here : Circumstances) (scanned : Scanned) : Except Outcome Console :=
  match resolveVerbosity (scanned.count "--verbose") (scanned.count "--quiet") with
  | none => .error (.failure false .usageError verbosityComplaint)
  | some level =>
    match Log.readThreshold (here.environment.threshold.getD "") with
    | .error fault => .error (.crashed (.threshold fault))
    | .ok _ =>
      .ok ⟨resolveColour (some (colourModeOf scanned)) none false here.environment,
        detailAt level⟩

/-- The command that the plain arguments of the group name, and its arguments; the group itself if
there are none. Plain arguments that name no command are read as options of the group once more
before that is complained about. -/
def chooseCommand (here : Circumstances) (plain : List String) :
    Except Outcome (Command × List String) :=
  match plain with
  | [] => .ok (.group, [])
  | name :: arguments =>
    match Command.named.lookup name with
    | some command => .ok (command, arguments)
    | none =>
      match Command.group.read false here.look plain with
      | .error outcome => .error outcome
      | .ok _ =>
        let similar := closest name (Command.named.map Prod.fst)
        .error (.misuse false (Command.group.complaint
          ("No such command " ++ quoted name ++ "." ++ similarHint similar)))

/-- The command that an invocation comes to, with its console and its arguments, or the outcome that
ends the invocation before. -/
def resolve (here : Circumstances) (arguments : List String) :
    Except Outcome (Command × Console × Scanned) := do
  let scanned ← Command.group.read false here.look arguments
  let (command, rest) ← chooseCommand here scanned.plain
  let console ← consoleOf here scanned
  match command with
  | .group => return (.group, console, scanned)
  | command => return (command, console, ← command.read console.coloured here.look rest)

/-- What the program does with its arguments. -/
def outcome (here : Circumstances) (arguments : List String) : Outcome :=
  match resolve here arguments with
  | .ok (command, console, scanned) => command.execute here console scanned
  | .error outcome => outcome

/-! ## What is needed from outside -/

/-- The paths that can be looked up before a log is read: those of the settings files, and whatever
an argument names, alone or after an equals sign. -/
def pathsNamed (arguments : List String) : List String :=
  let named := arguments.flatMap fun argument =>
    match (splitAtEquals argument.toList).2 with
    | some value => [argument, String.ofList value]
    | none => [argument]
  [".", Settings.projectFile, Settings.ownFile] ++ named ++ named.map Path.tidy

/-- The paths that the lines of a log report. -/
def pathsReported (log : List UInt8) : List String :=
  (breakLines (logText log)).1.filterMap fun raw =>
    match Report.Line.read? (Report.plainLine raw) with
    | .ok (some line) => some line.file
    | _ => none

/-- The log that an invocation reads, if it comes to reading one. -/
def logRead? (here : Circumstances) (arguments : List String) : Option String :=
  match resolve here arguments with
  | .ok (.parse, _, scanned) => some (reconciliationOf scanned).log
  | _ => none

/-! ## What is seen -/

/-- How the log is printed in an environment. -/
def logPrinter (environment : Environment) : Log.Printer :=
  match Log.readThreshold (environment.threshold.getD "") with
  | .ok named => ⟨Log.thresholdOr named, false⟩
  | .error _ => ⟨Log.critical, false⟩

/-- What an utterance puts out. -/
def Utterance.output : Utterance → String
  | out text => text
  | _ => ""

/-- What an utterance puts out beside the output. -/
def Utterance.complaint (printer : Log.Printer) : Utterance → String
  | out _ => ""
  | err text => text
  | log entry => printer.printEntry entry

/-- The text of the output. -/
def Outcome.output (outcome : Outcome) : String :=
  String.join (outcome.said.map Utterance.output)

/-- The text of warnings, errors and the log. -/
def Outcome.complaints (outcome : Outcome) (environment : Environment) : String :=
  String.join (outcome.said.map (Utterance.complaint (logPrinter environment)))

end Reconcile.CommandLine
