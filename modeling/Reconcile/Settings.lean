import Reconcile.Diagnostic.Normal
import Reconcile.Policy
import Reconcile.Report.Marker

/-!
# Settings

Settings come in layers: the standard ones, those of configuration files, those given by hand. A
layer is a draft, in which every setting may be left open. Layers are merged so that the last one
that sets a value wins; freezing a draft fills what is still open with the standard settings.
-/

namespace Reconcile

/-- The settings in force. -/
@[ext] structure Settings where
  policy : Policy
  repairLinks : Bool
  dropRepeats : Bool
  markers : List String
  extensions : List String
  hosts : List String
  suffixes : List String
  files : List String
  warnings : List String
deriving DecidableEq

/-- One layer of settings. A setting that is `none` is left to the layers below. The files are those
the layer was read from, and the warnings what was wrong with them. -/
@[ext] structure Draft where
  policy : Option Policy
  repairLinks : Option Bool
  dropRepeats : Option Bool
  markers : Option (List String)
  extensions : Option (List String)
  hosts : Option (List String)
  suffixes : Option (List String)
  files : List String
  warnings : List String
deriving DecidableEq

namespace Settings

/-- The settings that hold where none is made. -/
def standard : Settings where
  policy := .standard
  repairLinks := true
  dropRepeats := true
  markers := Report.standardMarkers
  extensions := ["swift", "c", "cpp", "h", "hpp", "m", "mm"]
  hosts := LinkRules.standard.hosts
  suffixes := LinkRules.standard.suffixes
  files := []
  warnings := []

/-- The settings with another policy. -/
def withPolicy (settings : Settings) (policy : Policy) : Settings :=
  { settings with policy }

/-- How diagnostics are normalized under the settings. -/
def normalization (settings : Settings) : Normalization :=
  ⟨settings.repairLinks, ⟨settings.hosts, settings.suffixes⟩⟩

/-- The settings as a layer that sets everything. -/
def thaw (settings : Settings) : Draft where
  policy := some settings.policy
  repairLinks := some settings.repairLinks
  dropRepeats := some settings.dropRepeats
  markers := some settings.markers
  extensions := some settings.extensions
  hosts := some settings.hosts
  suffixes := some settings.suffixes
  files := settings.files
  warnings := settings.warnings

end Settings

namespace Draft

/-- The layer that sets nothing. -/
def empty : Draft :=
  ⟨none, none, none, none, none, none, none, [], []⟩

/-- The layer of the standard settings. -/
def standard : Draft :=
  Settings.standard.thaw

/-- The layer with another one over it: what the upper layer sets holds. -/
def merge (lower upper : Draft) : Draft where
  policy := upper.policy <|> lower.policy
  repairLinks := upper.repairLinks <|> lower.repairLinks
  dropRepeats := upper.dropRepeats <|> lower.dropRepeats
  markers := upper.markers <|> lower.markers
  extensions := upper.extensions <|> lower.extensions
  hosts := upper.hosts <|> lower.hosts
  suffixes := upper.suffixes <|> lower.suffixes
  files := lower.files ++ upper.files
  warnings := lower.warnings ++ upper.warnings

/-- The settings of a layer, the standard ones where it sets none. -/
def freeze (draft : Draft) : Settings where
  policy := draft.policy.getD Settings.standard.policy
  repairLinks := draft.repairLinks.getD Settings.standard.repairLinks
  dropRepeats := draft.dropRepeats.getD Settings.standard.dropRepeats
  markers := draft.markers.getD Settings.standard.markers
  extensions := draft.extensions.getD Settings.standard.extensions
  hosts := draft.hosts.getD Settings.standard.hosts
  suffixes := draft.suffixes.getD Settings.standard.suffixes
  files := draft.files
  warnings := draft.warnings

/-- Thawed settings freeze to themselves. -/
@[simp] theorem freeze_thaw (settings : Settings) : settings.thaw.freeze = settings := rfl

end Draft

end Reconcile
