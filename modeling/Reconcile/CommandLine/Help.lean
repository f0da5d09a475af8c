/-!
# Help

What each command says about itself: its usage line, which also heads the complaints about wrong
usage, and its help page.
-/

namespace Reconcile.CommandLine

/-- The commands: the group that holds the others, and the others. -/
inductive Command where
  | group
  | parse
  | dumpConfig
  | version
deriving DecidableEq

namespace Command

/-- The words by which a command is called. -/
def path : Command → String
  | group => "cli"
  | parse => "cli parse"
  | dumpConfig => "cli dump-config"
  | version => "cli version"

/-- The subcommands by name. -/
def named : List (String × Command) :=
  [("parse", parse), ("dump-config", dumpConfig), ("version", version)]

/-- The usage line of a command. -/
def usage : Command → String
  | group => "Usage: cli [OPTIONS] [COMMAND] [ARGS]..."
  | parse => "Usage: cli parse [OPTIONS] [LOG]"
  | dumpConfig => "Usage: cli dump-config [OPTIONS]"
  | version => "Usage: cli version [OPTIONS]"

/-- The lines of the help page of a command below its usage line. -/
def helpLines : Command → List String
  | group => [
      "",
      "  DiagMerge: reconcile compiler and language-service diagnostics.",
      "",
      "Options:",
      "  -q, --quiet        Suppress non-essential output.",
      "  -v, --verbose      Increase verbosity. Specify up to three times for more",
      "                     detail.",
      "  --no-color         Disable color output (equivalent to --color=never).",
      "  --color COLORMODE  Color output: auto (default), always, or never.",
      "  -h, --help         Show this message and exit.",
      "",
      "Commands:",
      "  dump-config  Dump the final merged DiagMerge configuration as TOML.",
      "  parse        Parse a compiler log and print the reconciled diagnostics...",
      "  version      Show the current version of DiagMerge."]
  | parse => [
      "",
      "  Parse a compiler log and print the reconciled diagnostics per file.",
      "",
      "Options:",
      "  --structured FILE           JSON file with language-service diagnostics",
      "                              (\x7bfile: [diagnostic, ...]\x7d).",
      "  --policy COLLECTIONPOLICY   Collection policy (structured-base, textual-base,",
      "                              structured-only, textual-only, union-all).",
      "  --format OUTPUTFORMAT       Output format (text, json, ndjson).",
      "  --chunk-size INTEGER RANGE  Number of characters fed to the parser per chunk.",
      "                              [default: 4096; x>=1]",
      "  --config FILE               Additional config file(s) to load and merge.",
      "  --no-config                 Ignore diagmerge.toml / pyproject.toml in the",
      "                              working directory.",
      "  -h, --help                  Show this message and exit.",
      "",
      "  Use '-' (the default) to read the log from STDIN."]
  | dumpConfig => [
      "",
      "  Dump the final merged DiagMerge configuration as TOML.",
      "",
      "Options:",
      "  --config FILE  Additional config file(s) to load and merge.",
      "  --no-config    Ignore diagmerge.toml / pyproject.toml in the working",
      "                 directory.",
      "  -h, --help     Show this message and exit.",
      "",
      "  Output is wrapped between '# === BEGIN ===' and '# === END ===' markers."]
  | version => [
      "",
      "  Show the current version of DiagMerge.",
      "",
      "Options:",
      "  --format OUTPUTFORMAT  Output format (text, json, ndjson).",
      "  -h, --help             Show this message and exit."]

/-- The help page of a command. -/
def help (command : Command) : String :=
  "\n".intercalate (command.usage :: command.helpLines)

/-- The complaint about wrong usage of a command. -/
def complaint (command : Command) (text : String) : String :=
  command.usage ++ "\nTry '" ++ command.path ++ " --help' for help.\n\nError: " ++ text ++ "\n"

end Command

/-- The version of the program. -/
def programVersion : String := "0.3.0"

end Reconcile.CommandLine
