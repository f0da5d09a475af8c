import Reconcile.CommandLine.Console
import Reconcile.Toml.Printer

/-!
# The settings of a command

A command runs under the standard settings, with those of the files it finds or is given over them,
and its own options over those. What is wrong with the files is told as warnings before anything
else.
-/

namespace Reconcile.CommandLine

/-- Where a command takes its settings from. -/
structure SettingsRequest where
  named : List String
  discovering : Bool
  policy : Option Policy

namespace SettingsRequest

/-- The files that a request asks to load. -/
def files (request : SettingsRequest) (look : Lookup) :
    Except Settings.LoadFault (List String) :=
  Settings.filesToLoad look "." request.discovering request.named

/-- The layer that the options of a command make. -/
def override (request : SettingsRequest) : Draft :=
  { Draft.empty with policy := request.policy }

/-- The settings that a command runs under, and what is said while they are loaded. -/
def load (request : SettingsRequest) (look : Lookup) (console : Console) :
    List Utterance × Except Crash Settings :=
  let files := request.files look
  let loading := logged (Draft.tableEntries Settings.standard.toTable
    ++ Settings.loadEntries look (files.toOption.getD []))
  match files.bind (Settings.load look) with
  | .error fault => (loading, .error (.settings fault))
  | .ok draft =>
    let settings := (draft.merge request.override).freeze
    let warnings := settings.warnings.map fun warning => console.warn ("Warning: " ++ warning)
    let choice : Log.Entry :=
      ⟨.debug, ⟨"diagmerge.cli.cmd_common", 66⟩,
        "Effective collection policy: " ++ settings.policy.key⟩
    (loading ++ warnings ++ [.log choice], .ok settings)

end SettingsRequest

/-- The settings as a document between two marks. -/
def settingsDocument (console : Console) (settings : Settings) : List Utterance :=
  let document := (Toml.document settings.toTable).toList
  let body := (document.reverse.dropWhile (· == '\n')).reverse
  [console.print "# === BEGIN ===", console.print (String.ofList body),
    console.print "# === END ==="]

/-- A path as the log lists it among others. -/
def listedPath (path : String) : String :=
  "PosixPath(" ++ Text.quoted path ++ ")"

/-- Several paths as the log lists them. -/
def listedPaths : List String → String
  | [path] => "(" ++ listedPath path ++ ",)"
  | paths => "(" ++ ", ".intercalate (paths.map listedPath) ++ ")"

/-- Prints the settings in force. -/
def dumpSettings (look : Lookup) (console : Console) (request : SettingsRequest) : Outcome :=
  match request.load look console with
  | (said, .error crash) => (Outcome.crashed crash).after said
  | (said, .ok settings) =>
    let sources : Log.Entry :=
      ⟨.debug, ⟨"diagmerge.cli.commands.dump_config", 56⟩,
        "Effective config sources: " ++ listedPaths settings.files⟩
    .success (said ++ [.log sources] ++ settingsDocument console settings)

end Reconcile.CommandLine
