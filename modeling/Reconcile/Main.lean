import Reconcile.CommandLine.Invocation

/-!
# The program

Looks up what an invocation needs from outside, has `CommandLine.outcome` say what comes of it, and
prints that. Looking up goes in two rounds, because the paths that a log reports are known only once
the log has been read.
-/

namespace Reconcile

open CommandLine

/-- The obstacle that the system reports. Some of its calls report the number of an error
negated. -/
def obstacleOf (error : IO.Error) : Obstacle :=
  let number := match error with
    | .noFileOrDirectory _ number _ => number.toInt32
    | .inappropriateType _ number _ => number.toInt32
    | .invalidArgument _ number _ => number.toInt32
    | _ => 0
  .ofNumber number.toInt.natAbs

/-- Looks up a path. -/
def lookUp (path : String) : IO (String × Except Obstacle Found) := do
  try
    let bytes ← IO.FS.readBinFile path
    return (path, .ok (.file bytes.toList))
  catch error =>
    match obstacleOf error with
    | .isDirectory => return (path, .ok .directory)
    | obstacle => return (path, .error obstacle)

/-- Everything that is left of a stream. -/
partial def readAll (stream : IO.FS.Stream) (before : ByteArray) : IO ByteArray := do
  let bytes ← stream.read 65536
  if bytes.isEmpty then return before else readAll stream (before ++ bytes)

/-- The environment of the program. -/
def readEnvironment : IO Environment := do
  return {
    forceColour := ← IO.getEnv "FORCE_COLOR"
    noColour := ← IO.getEnv "NO_COLOR"
    threshold := ← IO.getEnv "DIAGMERGE_LOG_LEVEL" }

/-- Prints an utterance where it belongs. -/
def say (printer : Log.Printer) : Utterance → IO Unit
  | .out text => IO.print text
  | utterance => IO.eprint (utterance.complaint printer)

/-- Does what an invocation asks for. -/
def perform (arguments : List String) : IO UInt32 := do
  let environment ← readEnvironment
  let named ← (pathsNamed arguments).mapM lookUp
  let before : Circumstances := ⟨.ofList named, [], environment⟩
  let input ← if logRead? before arguments = some "-"
    then (·.toList) <$> readAll (← IO.getStdin) .empty
    else pure []
  let log := match logRead? before arguments with
    | some path => (logBytes before.look input path).toOption.getD []
    | none => []
  let reported ← (pathsReported log).mapM lookUp
  let result := outcome ⟨.ofList (named ++ reported), input, environment⟩ arguments
  result.said.forM (say (logPrinter environment))
  match result.crash with
  | some crash => IO.eprintln crash.message
  | none => pure ()
  return result.exit.toUInt32

end Reconcile

/-- Runs the program with its arguments. -/
def main (arguments : List String) : IO UInt32 :=
  Reconcile.perform arguments
