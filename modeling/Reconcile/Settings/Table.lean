import Reconcile.Log.Entry
import Reconcile.Settings
import Reconcile.Value.Basic

/-!
# Settings as tables

A configuration file holds settings as a table of sections. Reading is lenient: a value of the wrong
kind is left out and reported in the log, an unknown policy or an invalid marker is reported in the
warnings of the layer as well. `Draft.ofTable` reads a layer, `Draft.tableEntries` is what the log
says of reading it, and `Draft.toTable` writes a layer back.
-/

namespace Reconcile

open Log Text

namespace Fields

/-- An entry of the log of table access. -/
def remark (place : Nat) (message : String) : Entry :=
  ⟨.warning, ⟨"diagmerge.config.loaders", place⟩, message⟩

/-- What the log says of a value that is not of the kind it should be. -/
def mistyped (place : Nat) (wanted key : String) (got : Value) : Entry :=
  remark place
    ("Expected a " ++ wanted ++ " for '" ++ key ++ "', got " ++ got.shown ++ "; ignoring")

/-- A section of a table; empty when there is none. -/
def sectionOf (table : Fields) (key : String) : Fields :=
  match table.get key with
  | .table fields => fields
  | _ => []

/-- What the log says of taking a section. -/
def sectionEntries (table : Fields) (key : String) : List Entry :=
  match table.get key with
  | .table _ => []
  | .null => []
  | got =>
    [remark 119 ("Expected a table for '" ++ key ++ "', got " ++ got.kind ++ "; ignoring")]

/-- A flag of a table. -/
def flag? (table : Fields) (key : String) : Option Bool :=
  match table.get key with
  | .flag flag => some flag
  | _ => none

/-- What the log says of taking a flag. -/
def flagEntries (table : Fields) (key : String) : List Entry :=
  match table.get key with
  | .flag _ => []
  | .null => []
  | got => [mistyped 130 "boolean" key got]

/-- A text of a table. -/
def text? (table : Fields) (key : String) : Option String :=
  match table.get key with
  | .text text => some text
  | _ => none

/-- What the log says of taking a text. -/
def textEntries (table : Fields) (key : String) : List Entry :=
  match table.get key with
  | .text _ => []
  | .null => []
  | got => [mistyped 141 "string" key got]

/-- The text that a value is. -/
def itemText? : Value → Option String
  | .text text => some text
  | _ => none

/-- The texts of a list in a table; items of other kinds are left out. -/
def texts? (table : Fields) (key : String) : Option (List String) :=
  match table.get key with
  | .list items => some (items.filterMap itemText?)
  | _ => none

/-- What the log says of taking a list of texts. -/
def textsEntries (table : Fields) (key : String) : List Entry :=
  match table.get key with
  | .list items =>
    (items.filter fun item => (itemText? item).isNone).map fun item =>
      remark 161 ("Ignoring non-string entry " ++ item.shown ++ " in '" ++ key ++ "'")
  | .null => []
  | got => [mistyped 154 "list" key got]

end Fields

namespace Draft

/-- What is wrong with a policy that is not known. -/
def policyWarning (spelling : String) : String :=
  "Unknown diagnostics.collection value '" ++ spelling ++ "' (expected one of: "
    ++ ", ".intercalate (Policy.all.map Policy.key) ++ ")"

/-- What is wrong with a marker that has a fault. -/
def markerWarning (text : String) (fault : Pattern.Fault) : String :=
  "Invalid parser.completion_patterns regex '" ++ text ++ "' ignored: " ++ fault.message text

/-- The markers of a layer that have no fault. A list of which nothing is left is as good as
none. -/
def usableMarkers? (texts : List String) : Except Pattern.Excess (Option (List String)) :=
  (Report.readMarkers texts).map fun markers =>
    if markers.isEmpty && !texts.isEmpty then none else some (markers.map Pattern.text)

/-- The extensions of a layer: without leading dots, in lower case, and those that are nothing but
dots left out. -/
def usableExtensions (texts : List String) : List String :=
  (texts.filter fun text => text.toList.any (· != '.')).map fun text =>
    String.ofList (lower (text.toList.dropWhile (· == '.')))

/-- The warnings of a policy spelling, if there is one. -/
def policyWarnings (spelling : Option String) : List String :=
  match spelling with
  | some spelling => if (Policy.parse? spelling).isSome then [] else [policyWarning spelling]
  | none => []

/-- The warnings of a list of markers, up to the first that ends the reading. -/
def markerWarnings : List String → List String
  | [] => []
  | text :: texts =>
    match Pattern.read text with
    | .ok _ => markerWarnings texts
    | .error (.fault fault) => markerWarning text fault :: markerWarnings texts
    | .error (.excess _) => []

/-- The layer that a table holds. -/
def ofTable (table : Fields) (files : List String) : Except Pattern.Excess Draft := do
  let diagnostics := table.sectionOf "diagnostics"
  let parser := table.sectionOf "parser"
  let workspace := table.sectionOf "workspace"
  let links := table.sectionOf "links"
  let policy := diagnostics.text? "collection"
  let listed := parser.texts? "completion_patterns"
  let markers ← match listed with
    | some texts => usableMarkers? texts
    | none => pure none
  return {
    policy := policy.bind Policy.parse?
    repairLinks := diagnostics.flag? "repair_documentation_links"
    dropRepeats := diagnostics.flag? "dedupe_compiler_duplicates"
    markers
    extensions := (workspace.texts? "source_extensions").map usableExtensions
    hosts := links.texts? "documentation_hosts"
    suffixes := links.texts? "documentation_suffixes"
    files
    warnings := policyWarnings policy ++ markerWarnings (listed.getD []) }

/-- An entry of the settings log. -/
def remark (level : Level) (place : Nat) (message : String) : Entry :=
  ⟨level, ⟨"diagmerge.config.model", place⟩, message⟩

/-- What the log says of a section of settings. -/
def sectionEntries (place : Nat) (table : Fields) (key : String) : List Entry :=
  table.sectionEntries key
    ++ [remark .trace place
      ("TOML [" ++ key ++ "]: " ++ (Value.table (table.sectionOf key)).shown)]

/-- What the log says of reading a layer from a table, up to a marker that ends the reading. -/
def tableEntries (table : Fields) : List Entry :=
  let diagnostics := table.sectionOf "diagnostics"
  let parser := table.sectionOf "parser"
  let workspace := table.sectionOf "workspace"
  let links := table.sectionOf "links"
  sectionEntries 176 table "diagnostics"
    ++ sectionEntries 178 table "parser"
    ++ sectionEntries 180 table "workspace"
    ++ sectionEntries 182 table "links"
    ++ diagnostics.textEntries "collection"
    ++ (policyWarnings (diagnostics.text? "collection")).map (remark .warning 196)
    ++ diagnostics.flagEntries "repair_documentation_links"
    ++ diagnostics.flagEntries "dedupe_compiler_duplicates"
    ++ parser.textsEntries "completion_patterns"
    ++ (markerWarnings ((parser.texts? "completion_patterns").getD [])).map (remark .warning 219)
    ++ match ofTable table [] with
      | .error _ => []
      | .ok _ =>
        workspace.textsEntries "source_extensions"
          ++ links.textsEntries "documentation_hosts"
          ++ links.textsEntries "documentation_suffixes"

/-- A list of texts as a value. -/
def textsValue (texts : List String) : Value :=
  .list (texts.map .text)

/-- A setting as a field, null when it is left open. -/
def field (key : String) (value : Option Value) : String × Value :=
  (key, value.getD .null)

/-- The layer as a table; a setting that is left open is null. -/
def toTable (draft : Draft) : Fields :=
  [("diagnostics", .table [
      field "collection" (draft.policy.map fun policy => .text policy.key),
      field "repair_documentation_links" (draft.repairLinks.map .flag),
      field "dedupe_compiler_duplicates" (draft.dropRepeats.map .flag)]),
    ("parser", .table [field "completion_patterns" (draft.markers.map textsValue)]),
    ("workspace", .table [field "source_extensions" (draft.extensions.map textsValue)]),
    ("links", .table [
      field "documentation_hosts" (draft.hosts.map textsValue),
      field "documentation_suffixes" (draft.suffixes.map textsValue)])]

end Draft

/-- The settings as a table. -/
def Settings.toTable (settings : Settings) : Fields :=
  settings.thaw.toTable

end Reconcile
