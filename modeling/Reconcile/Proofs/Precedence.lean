import Mathlib.Data.List.Basic
import Mathlib.Data.List.Induction
import Reconcile.Settings.Load

/-!
# The last layer wins

Settings are put together from layers, two of which are merged at a time. Which two are merged first
makes no difference, and what comes of it can be said of each setting by itself: the last layer that
sets it decides, whatever the value, and the standard settings do where no layer sets it.

* `last_layer_wins`: merging is associative, the empty layer changes nothing on either side, any
  stack of layers freezes to the settings that `Prevail` among them, and settings that are thawed
  freeze to themselves.
* `load_prevails`: settings that are loaded from files are those that prevail among the standard ones
  and the layers of the files.

The seven settings are treated alike. All that a field of a draft has to do is to be open in the empty
layer and to be taken from the upper of two layers unless it is open there (`IsSetting`).
-/

namespace Reconcile

/-! ## Merging -/

namespace Draft

theorem merge_assoc (a b c : Draft) : (a.merge b).merge c = a.merge (b.merge c) := by
  simp only [merge, Option.orElse_eq_orElse, Option.orElse_eq_or, Option.or_assoc,
    List.append_assoc]

theorem empty_merge (draft : Draft) : empty.merge draft = draft := by
  simp only [merge, empty, Option.orElse_eq_orElse, Option.orElse_eq_or, Option.or_none,
    List.nil_append]

theorem merge_empty (draft : Draft) : draft.merge empty = draft := by
  simp only [merge, empty, Option.orElse_eq_orElse, Option.orElse_eq_or, Option.none_or,
    List.append_nil]

end Draft

/-- Layers on top of each other, with brackets that say which are merged first. -/
inductive Stack where
  | empty
  | layer (draft : Draft)
  | joined (lower upper : Stack)

namespace Stack

/-- The layers of a stack, the lowest first. -/
def layers : Stack → List Draft
  | empty => []
  | layer draft => [draft]
  | joined lower upper => lower.layers ++ upper.layers

/-- What the layers of a stack are merged to. -/
def merged : Stack → Draft
  | empty => .empty
  | layer draft => draft
  | joined lower upper => lower.merged.merge upper.merged

/-- Layers over a draft come to what they are merged to over the draft. -/
theorem foldl_merge_layers (stack : Stack) (draft : Draft) :
    stack.layers.foldl Draft.merge draft = draft.merge stack.merged := by
  induction stack generalizing draft with
  | empty => exact (Draft.merge_empty draft).symm
  | layer upper => rfl
  | joined lower upper hlower hupper =>
    rw [layers, List.foldl_append, hlower, hupper, Draft.merge_assoc, merged]

/-- The brackets make no difference. -/
theorem merged_eq_foldl (stack : Stack) : stack.merged = stack.layers.foldl Draft.merge .empty := by
  rw [foldl_merge_layers, Draft.empty_merge]

end Stack

/-! ## One setting -/

/-- A field of drafts that is set by the layers on top. -/
structure Draft.IsSetting {α : Type} (setting : Draft → Option α) : Prop where
  empty : setting .empty = none
  merge : ∀ lower upper : Draft, setting (lower.merge upper) = (setting upper <|> setting lower)

/-- A value prevails among layers if the last of the layers that set it sets it so; if there is none,
the standard value does. -/
def Prevails {α : Type} (setting : Draft → Option α) (layers : List Draft) (standard value : α) :
    Prop :=
  (∃ below layer above, layers = below ++ layer :: above ∧ setting layer = some value ∧
      ∀ later ∈ above, setting later = none) ∨
    ((∀ layer ∈ layers, setting layer = none) ∧ value = standard)

section Prevails

variable {α : Type} {setting : Draft → Option α} {layers : List Draft} {standard : α}

theorem prevails_nil : Prevails setting [] standard standard :=
  Or.inr ⟨List.forall_mem_nil _, rfl⟩

/-- A layer on top decides if it sets the value. -/
theorem prevails_concat_of_some {layer : Draft} {value : α} (h : setting layer = some value) :
    Prevails setting (layers ++ [layer]) standard value :=
  Or.inl ⟨layers, layer, [], rfl, h, List.forall_mem_nil _⟩

/-- A layer on top that does not set the value leaves it as it is. -/
theorem Prevails.concat_of_none {layer : Draft} {value : α}
    (h : Prevails setting layers standard value) (hopen : setting layer = none) :
    Prevails setting (layers ++ [layer]) standard value := by
  rcases h with ⟨below, decisive, above, rfl, hset, habove⟩ | ⟨hunset, rfl⟩
  · refine Or.inl ⟨below, decisive, above ++ [layer], by simp, hset, fun later hlater => ?_⟩
    rcases List.mem_append.mp hlater with hlater | hlater
    · exact habove later hlater
    · rw [List.mem_singleton.mp hlater, hopen]
  · refine Or.inr ⟨fun other hother => ?_, rfl⟩
    rcases List.mem_append.mp hother with hother | hother
    · exact hunset other hother
    · rw [List.mem_singleton.mp hother, hopen]

/-- What layers come to in one setting is what prevails among them. -/
theorem Draft.IsSetting.prevails_foldl (h : Draft.IsSetting setting) (layers : List Draft)
    (standard : α) :
    Prevails setting layers standard
      ((setting (layers.foldl Draft.merge .empty)).getD standard) := by
  induction layers using List.reverseRecOn with
  | nil =>
    rw [List.foldl_nil, h.empty]
    exact prevails_nil
  | append_singleton layers layer ih =>
    rw [List.foldl_concat, h.merge]
    cases hlayer : setting layer with
    | none => exact ih.concat_of_none hlayer
    | some value => exact prevails_concat_of_some hlayer

end Prevails

/-! ## All settings -/

/-- Settings prevail among layers if each of them does, the standard settings standing in for what no
layer sets. The files and the warnings are those of all layers, in order. -/
structure Settings.Prevail (settings : Settings) (layers : List Draft) : Prop where
  policy : Prevails Draft.policy layers standard.policy settings.policy
  repairLinks : Prevails Draft.repairLinks layers standard.repairLinks settings.repairLinks
  dropRepeats : Prevails Draft.dropRepeats layers standard.dropRepeats settings.dropRepeats
  markers : Prevails Draft.markers layers standard.markers settings.markers
  extensions : Prevails Draft.extensions layers standard.extensions settings.extensions
  hosts : Prevails Draft.hosts layers standard.hosts settings.hosts
  suffixes : Prevails Draft.suffixes layers standard.suffixes settings.suffixes
  files : settings.files = layers.flatMap Draft.files
  warnings : settings.warnings = layers.flatMap Draft.warnings

namespace Draft

/-- What layers gather is what each of them brings, in order. -/
theorem foldl_merge_eq_flatMap (gathered : Draft → List String) (hempty : gathered .empty = [])
    (hmerge : ∀ lower upper : Draft, gathered (lower.merge upper) = gathered lower ++ gathered upper)
    (layers : List Draft) : gathered (layers.foldl merge .empty) = layers.flatMap gathered := by
  induction layers using List.reverseRecOn with
  | nil => exact hempty
  | append_singleton layers layer ih =>
    rw [List.foldl_concat, hmerge, ih, List.flatMap_append, List.flatMap_singleton]

theorem prevail_freeze_foldl (layers : List Draft) :
    (layers.foldl merge .empty).freeze.Prevail layers where
  policy := IsSetting.prevails_foldl ⟨rfl, fun _ _ => rfl⟩ layers _
  repairLinks := IsSetting.prevails_foldl ⟨rfl, fun _ _ => rfl⟩ layers _
  dropRepeats := IsSetting.prevails_foldl ⟨rfl, fun _ _ => rfl⟩ layers _
  markers := IsSetting.prevails_foldl ⟨rfl, fun _ _ => rfl⟩ layers _
  extensions := IsSetting.prevails_foldl ⟨rfl, fun _ _ => rfl⟩ layers _
  hosts := IsSetting.prevails_foldl ⟨rfl, fun _ _ => rfl⟩ layers _
  suffixes := IsSetting.prevails_foldl ⟨rfl, fun _ _ => rfl⟩ layers _
  files := foldl_merge_eq_flatMap Draft.files rfl (fun _ _ => rfl) layers
  warnings := foldl_merge_eq_flatMap Draft.warnings rfl (fun _ _ => rfl) layers

/-- **The last layer wins.** Merging layers is associative, and the empty layer changes nothing below
or above another. However the layers of a stack are bracketed, they freeze to the settings that prevail
among them: each is that of the last layer that sets it, or the standard one if no layer does. Settings
that are thawed freeze to themselves. -/
theorem last_layer_wins :
    (∀ a b c : Draft, (a.merge b).merge c = a.merge (b.merge c)) ∧
      (∀ draft : Draft, empty.merge draft = draft ∧ draft.merge empty = draft) ∧
      (∀ stack : Stack, stack.merged = stack.layers.foldl merge .empty ∧
        stack.merged.freeze.Prevail stack.layers) ∧
      ∀ settings : Settings, settings.thaw.freeze = settings := by
  refine ⟨merge_assoc, fun draft => ⟨empty_merge draft, merge_empty draft⟩, fun stack => ?_,
    freeze_thaw⟩
  refine ⟨stack.merged_eq_foldl, ?_⟩
  rw [stack.merged_eq_foldl]
  exact prevail_freeze_foldl stack.layers

/-- What is set to `false` or to no value at all is set. -/
example :
    let lower := { empty with repairLinks := some true, markers := some ["^Done"] }
    let upper := { empty with repairLinks := some false, markers := some [] }
    let settings := (lower.merge (upper.merge empty)).freeze
    settings.repairLinks = false ∧ settings.markers = [] ∧ settings.dropRepeats = true := by
  decide

end Draft

/-! ## Settings from files -/

namespace Settings

/-- Loading layers over a draft merges them all, if each can be read. -/
theorem loadOver_eq (look : Lookup) (draft : Draft) (paths : List String) :
    loadOver look draft paths =
      (paths.mapM (layer look)).map fun layers => layers.foldl Draft.merge draft := by
  induction paths generalizing draft with
  | nil => rfl
  | cons path paths ih =>
    rw [loadOver, List.foldlM_cons, List.mapM_cons]
    cases layer look path with
    | error fault => rfl
    | ok upper =>
      refine (ih (draft.merge upper)).trans ?_
      cases paths.mapM (layer look) <;> rfl

/-- What is loaded from files prevails among the standard settings and the layers of the files. -/
theorem load_prevails {look : Lookup} {paths : List String} {draft : Draft}
    (h : load look paths = .ok draft) :
    ∃ layers, paths.mapM (layer look) = .ok layers ∧
      draft.freeze.Prevail (Draft.standard :: layers) := by
  rw [load, loadOver_eq] at h
  cases hlayers : paths.mapM (layer look) with
  | error fault => rw [hlayers] at h; cases h
  | ok layers =>
    rw [hlayers] at h
    cases h
    exact ⟨layers, rfl, Draft.prevail_freeze_foldl (Draft.standard :: layers)⟩

end Settings

end Reconcile
