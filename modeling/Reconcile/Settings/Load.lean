import Reconcile.FileTree
import Reconcile.Settings.Table
import Reconcile.Text.Lines
import Reconcile.Text.Utf8
import Reconcile.Toml.Assembly

/-!
# Loading settings

Settings are found in two files of a directory, the project file and the tool's own file, and in any
files named by hand. A file that cannot be read or does not follow the grammar counts as empty and
is reported in the log. Bytes that are not UTF-8, a key that stands twice in one table, a section
that is defined again inside another, a marker that ends the reading of markers, and a path that
cannot be looked up at all are faults that stop the loading.
-/

namespace Reconcile.Settings

open Log Text

/-- What stops the loading of settings. -/
inductive LoadFault where
  | notUtf8 (fault : Utf8.Fault)
  | nullByte
  | unreachable (obstacle : Obstacle) (path : String)
  | keyTwice (key : String)
  | redefinition
  | numeral (fault : LongNumeral)
  | marker (excess : Pattern.Excess)

/-- The complaint about a path that holds the null character. -/
def nullByteMessage : String := "embedded null byte"

/-- The wording of a fault. -/
def LoadFault.message : LoadFault → String
  | notUtf8 fault => fault.message
  | nullByte => nullByteMessage
  | unreachable obstacle path => obstacle.message path
  | keyTwice key => "Key \"" ++ key ++ "\" already exists."
  | redefinition => "Redefinition of an existing table"
  | numeral fault => fault.message
  | marker excess => excess.message

/-- The name of the project file, which holds the settings of many tools. -/
def projectFile : String := "pyproject.toml"

/-- The sections of the project file that lead to our settings. -/
def projectSections : List String := ["tool", "diagmerge"]

/-- The name of the tool's own settings file. -/
def ownFile : String := "diagmerge.toml"

/-- Whether a path leads to a file. -/
def isFile (look : Lookup) (path : String) : Except LoadFault Bool :=
  (look.isFile? path).mapError (.unreachable · path)

/-- The settings files of a directory, or of the directory of a file; the later one has
precedence. -/
def discover (look : Lookup) (start : String) : Except LoadFault (List String) := do
  let start := Path.tidy start
  let directory := if ← isFile look start then Path.parent start else start
  ([projectFile, ownFile].map (Path.inside directory)).filterM (isFile look)

/-- What came of reading the document in a file. -/
inductive Document where
  | table (fields : Fields)
  | unreadable (obstacle : Obstacle)
  | malformed
  | fault (fault : LoadFault)

/-- Reads the document in a file. -/
def document (look : Lookup) (path : String) : Document :=
  if Path.hasNull path then .fault .nullByte else
  match look.bytes path with
  | .error obstacle => .unreadable obstacle
  | .ok bytes =>
    match Utf8.decode bytes with
    | .error fault => .fault (.notUtf8 fault)
    | .ok chars =>
      match Toml.read (String.ofList (plainLineEnds chars)) with
      | .ok fields => .table fields
      | .error (.keyTwice key) => .fault (.keyTwice key)
      | .error .redefinition => .fault .redefinition
      | .error _ => .malformed

/-- The names of the sections that lead to the settings in a file. -/
def sectionsOf (path : String) : List String :=
  if Path.fileName path = projectFile then projectSections else []

/-- The table that a file holds; empty when there is none to be had. -/
def table (look : Lookup) (path : String) : Except LoadFault Fields :=
  match document look path with
  | .table fields => .ok ((sectionsOf path).foldl Fields.sectionOf fields)
  | .unreadable _ => .ok []
  | .malformed => .ok []
  | .fault fault => .error fault

/-- What the log says of following sections into a table. -/
def followEntries (fields : Fields) : List String → List Log.Entry
  | [] => []
  | key :: keys => fields.sectionEntries key ++ followEntries (fields.sectionOf key) keys

/-- An entry of the loading log. -/
def remark (place : Nat) (message : String) : Log.Entry :=
  ⟨.error, ⟨"diagmerge.config.loaders", place⟩, message⟩

/-- What the log says of taking the table from a file. -/
def documentEntries (look : Lookup) (path : String) : List Log.Entry :=
  match document look path with
  | .table fields => followEntries fields (sectionsOf path)
  | .unreadable obstacle =>
    [remark 100 ("Error loading TOML from " ++ path ++ ": " ++ obstacle.message path)]
  | .malformed => [remark 103 ("Error decoding TOML from " ++ path)]
  | .fault _ => []

/-- The layer that a file holds. -/
def layer (look : Lookup) (path : String) : Except LoadFault Draft := do
  (Draft.ofTable (← table look path) [path]).mapError .marker

/-- What the log says of loading a layer. -/
def layerEntries (look : Lookup) (path : String) : List Log.Entry :=
  documentEntries look path ++
    match table look path with
    | .error _ => []
    | .ok fields =>
      Draft.remark .debug 244
          ("Loaded config from " ++ path ++ ": " ++ (Value.table fields).shown)
        :: Draft.tableEntries fields

/-- A draft with the layers of files over it, in order. -/
def loadOver (look : Lookup) (draft : Draft) (paths : List String) : Except LoadFault Draft :=
  paths.foldlM (fun lower path => (layer look path).map lower.merge) draft

/-- What the log says of loading layers, up to the first fault. -/
def loadEntries (look : Lookup) : List String → List Log.Entry
  | [] => []
  | path :: paths =>
    layerEntries look path ++
      match layer look path with
      | .ok _ => loadEntries look paths
      | .error _ => []

/-- The files to load: those that are discovered, if they are wanted, and then those named by
hand. -/
def filesToLoad (look : Lookup) (start : String) (discovering : Bool) (named : List String) :
    Except LoadFault (List String) := do
  let found ← if discovering then discover look start else pure []
  return found ++ named.map Path.tidy

/-- The standard settings with the layers of files over them. -/
def load (look : Lookup) (paths : List String) : Except LoadFault Draft :=
  loadOver look .standard paths

/-- Finds out whether the log can tell of the layers of files, all of whose entries are written out:
a table with a number that is too long to be written is a fault then. -/
def loggable (look : Lookup) : List String → Except LoadFault Unit
  | [] => .ok ()
  | path :: paths => do
    if (Value.table (← table look path)).isWritable then
      let _ ← layer look path
      loggable look paths
    else .error (.numeral .written)

end Reconcile.Settings
