import Reconcile.Text.Quoted
import Reconcile.Text.Similarity

/-!
# Arguments

A command line is a list of arguments. An argument that starts with a dash is an option: a long one
may carry its value after an equals sign, several short ones may share a dash, and an option that
takes a value takes the next argument if it carries none. Two dashes end the options. Whatever is no
option is a plain argument; a command that has subcommands stops reading at the first of these.

`scan` takes the arguments apart by the options a command knows. It does not read the values; the
options found keep the order in which they were given. An option that is not known is complained
about together with the known ones that it resembles.
-/

namespace Reconcile.CommandLine

open Text

/-- An option that a command knows: its spellings, the longest last, and whether it takes a
value. -/
structure OptionSpec where
  spellings : List String
  takesValue : Bool

/-- The name of an option: its long spelling. -/
def OptionSpec.name (spec : OptionSpec) : String :=
  (spec.spellings.getLast?).getD ""

/-- An option that was given, under its name, with its value if it takes one. -/
structure Given where
  name : String
  value : String
deriving DecidableEq

/-- What is wrong with the options of a command line. -/
inductive ScanFault where
  | noSuchOption (spelling : String) (similar : List String)
  | missingValue (spelling : String)
  | needlessValue (spelling : String)
deriving DecidableEq

/-- The hint at known words that resemble one that is not known. -/
def similarHint : List String → String
  | [] => ""
  | [word] => " Did you mean " ++ quoted word ++ "?"
  | words => " (Did you mean one of: " ++ ", ".intercalate (words.map quoted) ++ "?)"

/-- The wording of a fault. -/
def ScanFault.message : ScanFault → String
  | noSuchOption spelling similar =>
    "No such option " ++ quoted spelling ++ "." ++ similarHint similar
  | missingValue spelling => "Option '" ++ spelling ++ "' requires an argument."
  | needlessValue spelling => "Option '" ++ spelling ++ "' does not take a value."

/-- A command line taken apart: the options given, and the plain arguments. -/
structure Scanned where
  given : List Given
  plain : List String
deriving DecidableEq

/-- The option of a spelling. -/
def findOption (specs : List OptionSpec) (spelling : String) : Option OptionSpec :=
  specs.find? (·.spellings.contains spelling)

/-- Whether a spelling is a long one: more than a dash and one character. -/
def isLongSpelling (spelling : List Char) : Bool :=
  2 < spelling.length

/-- The long spellings among which a long option is looked up. -/
def longSpellings (specs : List OptionSpec) : List String :=
  (specs.flatMap OptionSpec.spellings).filter (isLongSpelling ·.toList)

/-- An argument before and after its first equals sign. -/
def splitAtEquals (argument : List Char) : List Char × Option (List Char) :=
  let front := argument.takeWhile (· != '=')
  match argument.drop front.length with
  | [] => (front, none)
  | _ :: value => (front, some value)

/-- A long option: the options that it gives, and the arguments after it. -/
def longOption (spec : OptionSpec) (spelling : String) (value : Option String)
    (rest : List String) : Except ScanFault (List Given × List String) :=
  match spec.takesValue, value, rest with
  | true, some value, rest => .ok ([⟨spec.name, value⟩], rest)
  | true, none, value :: rest => .ok ([⟨spec.name, value⟩], rest)
  | true, none, [] => .error (.missingValue spelling)
  | false, some _, _ => .error (.needlessValue spelling)
  | false, none, rest => .ok ([⟨spec.name, ""⟩], rest)

/-- The short options that share a dash: the options that they give, and the arguments after
them. -/
def shortOptions (specs : List OptionSpec) : List Char → List String →
    Except ScanFault (List Given × List String)
  | [], rest => .ok ([], rest)
  | c :: letters, rest =>
    let spelling := String.ofList ['-', c]
    match findOption specs spelling with
    | none => .error (.noSuchOption spelling [])
    | some spec =>
      if spec.takesValue then
        longOption spec spelling
          -- the letters after an option that takes a value are its value
          (if letters.isEmpty then none else some (String.ofList letters)) rest
      else
        (shortOptions specs letters rest).map fun (given, rest) => (⟨spec.name, ""⟩ :: given, rest)

/-- One argument that is an option: the options that it gives, and the arguments after it. -/
def optionArgument (specs : List OptionSpec) (argument : List Char) (rest : List String) :
    Except ScanFault (List Given × List String) :=
  let (front, value) := splitAtEquals argument
  let spelling := String.ofList front
  match if isLongSpelling front then findOption specs spelling else none with
  | some spec => longOption spec spelling (value.map String.ofList) rest
  | none =>
    match argument with
    -- only after two dashes is the argument a long option beyond doubt
    | '-' :: '-' :: _ => .error (.noSuchOption spelling (closest spelling (longSpellings specs)))
    | _ => shortOptions specs (argument.drop 1) rest

/-- Takes a command line apart. `stops` tells that the first plain argument ends the options. Every
round uses up an argument, so their number bounds the rounds. -/
def scanFor (specs : List OptionSpec) (stops : Bool) :
    (rounds : Nat) → List String → Except ScanFault Scanned
  | 0, _ => .ok ⟨[], []⟩
  | _, [] => .ok ⟨[], []⟩
  | rounds + 1, argument :: rest =>
    match argument.toList with
    | ['-', '-'] => .ok ⟨[], rest⟩
    | '-' :: c :: others => do
      let (given, rest) ← optionArgument specs ('-' :: c :: others) rest
      let scanned ← scanFor specs stops rounds rest
      return { scanned with given := given ++ scanned.given }
    | _ =>
      if stops then .ok ⟨[], argument :: rest⟩
      else do
        let scanned ← scanFor specs stops rounds rest
        return { scanned with plain := argument :: scanned.plain }

/-- Takes a command line apart. -/
def scan (specs : List OptionSpec) (stops : Bool) (arguments : List String) :
    Except ScanFault Scanned :=
  scanFor specs stops arguments.length arguments

namespace Scanned

/-- How often an option was given. -/
def count (scanned : Scanned) (name : String) : Nat :=
  (scanned.given.filter (·.name = name)).length

/-- Whether an option was given. -/
def has (scanned : Scanned) (name : String) : Bool :=
  scanned.given.any (·.name = name)

/-- The values of an option, in order. -/
def values (scanned : Scanned) (name : String) : List String :=
  (scanned.given.filter (·.name = name)).map Given.value

/-- The last value of an option, which is the one that holds. -/
def value? (scanned : Scanned) (name : String) : Option String :=
  (scanned.values name).getLast?

/-- The names of the options that were given, each once, in order. -/
def names (scanned : Scanned) : List String :=
  (scanned.given.map Given.name).eraseDups

end Scanned

end Reconcile.CommandLine
