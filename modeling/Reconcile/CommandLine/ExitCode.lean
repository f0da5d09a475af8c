/-!
# Exit codes

The exit code tells scripts how a command ended: in success, with errors among the published
diagnostics, or with a failure of a given kind.
-/

namespace Reconcile.CommandLine

/-- How a command ended. -/
inductive ExitCode where
  | success
  | diagnosticsError
  | usageError
  | dataError
  | fileNotFound
  | ioError
  | configError
  | unexpectedError
deriving DecidableEq

namespace ExitCode

/-- Every exit code, the smallest number first. -/
def all : List ExitCode :=
  [success, diagnosticsError, usageError, dataError, fileNotFound, ioError, configError,
    unexpectedError]

/-- The name of an exit code. -/
def name : ExitCode → String
  | success => "SUCCESS"
  | diagnosticsError => "DIAGNOSTICS_ERROR"
  | usageError => "USAGE_ERROR"
  | dataError => "DATA_ERROR"
  | fileNotFound => "FILE_NOT_FOUND"
  | ioError => "IO_ERROR"
  | configError => "CONFIG_ERROR"
  | unexpectedError => "UNEXPECTED_ERROR"

/-- The number of an exit code. -/
def number : ExitCode → Nat
  | success => 0
  | diagnosticsError => 1
  | usageError => 64
  | dataError => 65
  | fileNotFound => 66
  | ioError => 74
  | configError => 78
  | unexpectedError => 255

end ExitCode

end Reconcile.CommandLine
