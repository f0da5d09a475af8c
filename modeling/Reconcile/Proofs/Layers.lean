import Mathlib.Data.List.TakeWhile
import Mathlib.Data.Option.Basic
import Reconcile.Settings.Table
import Reconcile.Toml.Printer

/-!
# Settings are read back

Reading a layer of settings from a table changes what stands there: a policy may be spelled in many
ways, extensions lose their dots and capitals, markers that cannot be read are left out. What comes
of it is written back as a table by `Settings.toTable`. This file shows that the table reads as the
same settings, without a warning, whichever layers the settings were put together from
(`settings_read_back`).

Reading leaves alone what it has made: a policy is named by its key (`parse?_key`), a marker that was
read can be read again (`Pattern.IsReadable`), an extension has no dots or capitals left to lose
(`Draft.IsBareExtension`). That the markers and extensions of a draft are of this kind is the
invariant `Draft.Tidy`: every layer has it, merging keeps it, and so does filling in what was left
open.
-/

namespace Reconcile

open Text

/-! ## Policies -/

theorem Policy.parse?_key (policy : Policy) : parse? policy.key = some policy := by
  have hall : (all.map fun policy => parse? policy.key) = all.map some := by decide +kernel
  have hmem : policy ∈ all := by cases policy <;> decide
  exact List.map_inj_left.mp hall policy hmem

/-! ## Markers -/

/-- Whether a text can be read as a pattern. -/
def Pattern.IsReadable (text : String) : Prop :=
  ∃ pattern, Pattern.read text = .ok pattern

theorem map_eq_ok_iff {ε α β : Type} {x : Except ε α} {f : α → β} {b : β} :
    x.map f = .ok b ↔ ∃ a, x = .ok a ∧ f a = b := by
  cases x <;> simp [Except.map]

theorem Pattern.text_of_read {text : String} {pattern : Pattern}
    (h : Pattern.read text = .ok pattern) : pattern.text = text := by
  obtain ⟨program, -, rfl⟩ := map_eq_ok_iff.mp h
  rfl

open Pattern

theorem Report.isReadable_of_mem_readMarkers {texts : List String} {markers : List Pattern}
    (h : readMarkers texts = .ok markers) {marker : Pattern} (hmem : marker ∈ markers) :
    IsReadable marker.text := by
  induction texts generalizing markers with
  | nil => cases h; cases hmem
  | cons text texts ih =>
    rw [readMarkers] at h
    split at h
    next pattern hread =>
      obtain ⟨others, hrest, rfl⟩ := map_eq_ok_iff.mp h
      rcases List.mem_cons.mp hmem with rfl | hmem
      · exact ⟨marker, by rw [text_of_read hread]; exact hread⟩
      · exact ih hrest hmem
    next => exact ih h hmem
    next => cases h

/-- Of texts that can all be read, none is left out. -/
theorem Report.readMarkers_of_isReadable {texts : List String}
    (h : ∀ text ∈ texts, IsReadable text) :
    ∃ markers, readMarkers texts = .ok markers ∧ markers.map Pattern.text = texts := by
  induction texts with
  | nil => exact ⟨[], rfl, rfl⟩
  | cons text texts ih =>
    rw [List.forall_mem_cons] at h
    obtain ⟨⟨pattern, hread⟩, hrest⟩ := h
    obtain ⟨markers, hmarkers, htexts⟩ := ih hrest
    refine ⟨pattern :: markers, ?_, ?_⟩
    · rw [readMarkers, hread, hmarkers]
      rfl
    · rw [List.map_cons, htexts, text_of_read hread]

namespace Draft

theorem isReadable_of_usableMarkers? {texts usable : List String}
    (h : usableMarkers? texts = .ok (some usable)) : ∀ text ∈ usable, IsReadable text := by
  obtain ⟨markers, hread, hkept⟩ := map_eq_ok_iff.mp h
  split at hkept
  next => cases hkept
  next =>
    cases hkept
    intro text htext
    obtain ⟨marker, hmem, rfl⟩ := List.mem_map.mp htext
    exact Report.isReadable_of_mem_readMarkers hread hmem

theorem usableMarkers?_of_isReadable {texts : List String} (h : ∀ text ∈ texts, IsReadable text) :
    usableMarkers? texts = .ok (some texts) := by
  obtain ⟨markers, hread, htexts⟩ := Report.readMarkers_of_isReadable h
  rw [usableMarkers?, hread, Except.map, htexts, if_neg]
  -- a list that is not empty does not become empty
  subst htexts
  cases markers <;> simp

theorem markerWarnings_of_isReadable {texts : List String} (h : ∀ text ∈ texts, IsReadable text) :
    markerWarnings texts = [] := by
  induction texts with
  | nil => rfl
  | cons text texts ih =>
    rw [List.forall_mem_cons] at h
    obtain ⟨⟨pattern, hread⟩, hrest⟩ := h
    rw [markerWarnings, hread]
    exact ih hrest

/-! ## Extensions -/

theorem dot_not_mem_lowerChar {c : Char} (h : c ≠ '.') : '.' ∉ lowerChar c := by
  intro hmem
  rcases mapCase_eq_self_or lowerRuns lowerExpansions c with hself | himages
  · rw [lowerChar, hself, List.mem_singleton] at hmem
    exact h hmem.symm
  · exact absurd (himages _ hmem) (by decide +kernel)

/-- A text that does not begin with a dot does not do so in lower case. -/
theorem exists_lower_cons {c : Char} (h : c ≠ '.') (rest : List Char) :
    ∃ d ds, lower (c :: rest) = d :: ds ∧ d ≠ '.' := by
  rw [lower, lowerAfter]
  split
  next =>
    refine ⟨_, _, rfl, ?_⟩
    split <;> decide
  next =>
    have hne : lowerChar c ≠ [] := mapCase_ne_nil (by decide)
    obtain ⟨d, ds, heq⟩ := List.exists_cons_of_ne_nil hne
    refine ⟨d, ds ++ lowerAfter [c] rest, by rw [heq]; rfl, ?_⟩
    rintro rfl
    exact dot_not_mem_lowerChar h (heq ▸ List.mem_cons_self ..)

/-- An extension as reading leaves it: there is a first character, which is no dot, and all are in
lower case. -/
def IsBareExtension (text : String) : Prop :=
  text.toList.head?.any (· != '.') = true ∧ lower text.toList = text.toList

instance (text : String) : Decidable (IsBareExtension text) :=
  inferInstanceAs (Decidable (_ ∧ _))

theorem isBareExtension_of_mem_usableExtensions {texts : List String} {text : String}
    (h : text ∈ usableExtensions texts) : IsBareExtension text := by
  obtain ⟨raw, hraw, rfl⟩ := List.mem_map.mp h
  obtain ⟨c, hc, hother⟩ := List.any_eq_true.mp (List.mem_filter.mp hraw).2
  have hne : raw.toList.dropWhile (· == '.') ≠ [] := by
    rw [Ne, List.dropWhile_eq_nil_iff]
    intro hdots
    rw [bne, hdots c hc] at hother
    cases hother
  obtain ⟨first, rest, heq⟩ := List.exists_cons_of_ne_nil hne
  have hfirst : first ≠ '.' := by
    have hhead := List.head_dropWhile_not (· == '.') hne
    simpa [heq] using hhead
  obtain ⟨d, ds, hlower, hd⟩ := exists_lower_cons hfirst rest
  rw [IsBareExtension, String.toList_ofList, heq, lower_lower, hlower]
  exact ⟨by simpa using hd, rfl⟩

/-- Extensions that are as reading leaves them stay as they are. -/
theorem usableExtensions_of_isBareExtension {texts : List String}
    (h : ∀ text ∈ texts, IsBareExtension text) : usableExtensions texts = texts := by
  have hcons : ∀ text ∈ texts, ∃ d ds, text.toList = d :: ds ∧ (d == '.') = false := by
    intro text htext
    have hhead := (h text htext).1
    cases hchars : text.toList with
    | nil => rw [hchars] at hhead; cases hhead
    | cons d ds =>
      rw [hchars] at hhead
      exact ⟨d, ds, rfl, by simpa using hhead⟩
  have hkept : texts.filter (fun text => text.toList.any (· != '.')) = texts := by
    rw [List.filter_eq_self]
    intro text htext
    obtain ⟨d, ds, heq, hd⟩ := hcons text htext
    rw [heq, List.any_cons, bne, hd]
    rfl
  rw [usableExtensions, hkept]
  refine (List.map_congr_left fun text htext => ?_).trans (List.map_id texts)
  obtain ⟨d, ds, heq, hd⟩ := hcons text htext
  have hdrop : text.toList.dropWhile (· == '.') = text.toList := by
    rw [heq, List.dropWhile_cons_of_neg (by rw [hd]; decide)]
  rw [hdrop, (h text htext).2, String.ofList_toList]
  rfl

/-! ## Drafts -/

/-- The markers and the extensions that a draft sets are as reading leaves them. -/
structure Tidy (draft : Draft) : Prop where
  markers : ∀ texts, draft.markers = some texts → ∀ text ∈ texts, IsReadable text
  extensions : ∀ texts, draft.extensions = some texts → ∀ text ∈ texts, IsBareExtension text

/-- A layer that is read from a table is tidy. -/
theorem tidy_ofTable {table : Fields} {files : List String} {draft : Draft}
    (h : ofTable table files = .ok draft) : draft.Tidy := by
  have hextensions : ∀ listed texts, Option.map usableExtensions listed = some texts →
      ∀ text ∈ texts, IsBareExtension text := by
    intro listed texts hlisted text htext
    obtain ⟨raw, -, rfl⟩ := Option.map_eq_some_iff.mp hlisted
    exact isBareExtension_of_mem_usableExtensions htext
  rw [ofTable] at h
  dsimp only at h
  split at h
  next texts _ =>
    cases husable : usableMarkers? texts with
    | error excess => rw [husable] at h; cases h
    | ok usable =>
      rw [husable] at h
      cases h
      refine ⟨?_, hextensions _⟩
      intro kept hkept
      obtain rfl : usable = some kept := hkept
      exact isReadable_of_usableMarkers? husable
  next =>
    cases h
    refine ⟨?_, hextensions _⟩
    intro kept hkept
    cases hkept

theorem Tidy.merge {lower upper : Draft} (hlower : lower.Tidy) (hupper : upper.Tidy) :
    (lower.merge upper).Tidy where
  markers texts h := by
    rcases (Option.orElse_eq_some ..).mp h with h | ⟨-, h⟩
    · exact hupper.markers texts h
    · exact hlower.markers texts h
  extensions texts h := by
    rcases (Option.orElse_eq_some ..).mp h with h | ⟨-, h⟩
    · exact hupper.extensions texts h
    · exact hlower.extensions texts h

theorem tidy_standard : standard.Tidy where
  markers texts h := by
    cases h
    have hall : Report.standardMarkers.all (fun text => (Pattern.read text).isOk) = true := by
      decide +kernel
    intro text htext
    have hok := List.all_eq_true.mp hall text htext
    cases hread : Pattern.read text with
    | error error => rw [hread] at hok; cases hok
    | ok pattern => exact ⟨pattern, hread⟩
  extensions texts h := by
    cases h
    decide +kernel

/-- What a draft leaves open is filled with tidy settings. -/
theorem Tidy.freeze {draft : Draft} (h : draft.Tidy) : draft.freeze.thaw.Tidy where
  markers texts heq := by
    cases heq
    show ∀ text ∈ draft.markers.getD Settings.standard.markers, IsReadable text
    cases hmarkers : draft.markers with
    | none => exact tidy_standard.markers _ rfl
    | some texts => exact h.markers texts hmarkers
  extensions texts heq := by
    cases heq
    show ∀ text ∈ draft.extensions.getD Settings.standard.extensions, IsBareExtension text
    cases hextensions : draft.extensions with
    | none => exact tidy_standard.extensions _ rfl
    | some texts => exact h.extensions texts hextensions

/-! ## Tables -/

theorem itemsWithoutNulls_texts (texts : List String) :
    Toml.itemsWithoutNulls (texts.map Value.text) = texts.map .text := by
  induction texts with
  | nil => rfl
  | cons text texts ih =>
    rw [List.map_cons, Toml.itemsWithoutNulls, ih]
    rfl

/-- Settings leave nothing open, so their table has no nulls. -/
theorem fieldsWithoutNulls_toTable (settings : Settings) :
    Toml.fieldsWithoutNulls settings.toTable = settings.toTable := by
  simp [Settings.toTable, Settings.thaw, toTable, field, textsValue, Toml.fieldsWithoutNulls,
    Toml.withoutNulls, Value.isNull, itemsWithoutNulls_texts]

theorem filterMap_itemText? (texts : List String) :
    (texts.map Value.text).filterMap Fields.itemText? = texts := by
  induction texts with
  | nil => rfl
  | cons text texts ih =>
    rw [List.map_cons, List.filterMap_cons, ih]
    rfl

/-- The table of tidy settings reads as the settings, without a warning. -/
theorem ofTable_toTable {settings : Settings} (h : settings.thaw.Tidy) (files : List String) :
    ofTable settings.toTable files = .ok { settings.thaw with files, warnings := [] } := by
  let table := settings.toTable
  have hpolicy : (table.sectionOf "diagnostics").text? "collection" = some settings.policy.key :=
    rfl
  have hmarkers : (table.sectionOf "parser").texts? "completion_patterns" = some settings.markers :=
    congrArg some (filterMap_itemText? _)
  have hextensions : (table.sectionOf "workspace").texts? "source_extensions" =
      some settings.extensions := congrArg some (filterMap_itemText? _)
  have hhosts : (table.sectionOf "links").texts? "documentation_hosts" = some settings.hosts :=
    congrArg some (filterMap_itemText? _)
  have hsuffixes : (table.sectionOf "links").texts? "documentation_suffixes" =
      some settings.suffixes := congrArg some (filterMap_itemText? _)
  have hreadable : ∀ text ∈ settings.markers, IsReadable text := h.markers _ rfl
  have hwarnings : policyWarnings (some settings.policy.key) = [] := by
    rw [policyWarnings, Policy.parse?_key]
    rfl
  rw [ofTable]
  dsimp only
  rw [hpolicy, hmarkers, hextensions, hhosts, hsuffixes]
  dsimp only [Option.bind_some, Option.map_some, Option.getD_some]
  rw [usableMarkers?_of_isReadable hreadable, Policy.parse?_key, hwarnings,
    usableExtensions_of_isBareExtension (h.extensions _ rfl), markerWarnings_of_isReadable hreadable]
  rfl

/-! ## Layers -/

/-- What drafts are put together from: layers that are read from tables, laid one over another in
any way. -/
inductive IsLayered : Draft → Prop where
  | table {table : Fields} {files : List String} {draft : Draft} :
    ofTable table files = .ok draft → IsLayered draft
  | merge {lower upper : Draft} : IsLayered lower → IsLayered upper → IsLayered (lower.merge upper)

/-- The standard settings are a layer that is read from a table. -/
theorem isLayered_standard : IsLayered standard :=
  .table (ofTable_toTable (show Settings.standard.thaw.Tidy from tidy_standard) [])

theorem IsLayered.tidy {draft : Draft} (h : draft.IsLayered) : draft.Tidy := by
  induction h with
  | table h => exact tidy_ofTable h
  | merge _ _ hlower hupper => exact hlower.merge hupper

/-- **Settings are read back.** Let any drafts that are read from tables be merged, the standard one
among them or not, and be frozen. The table of these settings, without nulls, can be read, and reads
as the same settings, apart from the files it came from and without a warning. -/
theorem settings_read_back {draft : Draft} (h : draft.IsLayered) (files : List String) :
    ∃ again, ofTable (Toml.fieldsWithoutNulls draft.freeze.toTable) files = .ok again ∧
      again.warnings = [] ∧ again.freeze = { draft.freeze with files, warnings := [] } := by
  rw [fieldsWithoutNulls_toTable, ofTable_toTable h.tidy.freeze]
  exact ⟨_, rfl, rfl, rfl⟩

/-- A layer with an old name of a policy, an extension in capitals and behind dots, and a marker that
cannot be read, over the standard one. -/
theorem settings_read_back_of_two_layers :
    let table : Fields := [("diagnostics", .table [("collection", .text " Keep_All ")]),
      ("workspace", .table [("source_extensions", .list [.text "..SWIFT", .text ".", .flag true])]),
      ("parser", .table [("completion_patterns", .list [.text "(", .text "^Done"])])]
    ∃ layer, ofTable table ["own.toml"] = .ok layer ∧ (standard.merge layer).IsLayered ∧
      let settings := (standard.merge layer).freeze
      (settings.extensions, settings.markers) = (["swift"], ["^Done"]) ∧
      ∃ again, ofTable (Toml.fieldsWithoutNulls settings.toTable) [] = .ok again ∧
        again.warnings = [] ∧ again.freeze = { settings with files := [], warnings := [] } := by
  intro table
  have hread : (ofTable table ["own.toml"]).toOption.map (fun layer =>
      let settings := (standard.merge layer).freeze
      (settings.extensions, settings.markers)) = some (["swift"], ["^Done"]) := by decide +kernel
  cases hlayer : ofTable table ["own.toml"] with
  | error excess => rw [hlayer] at hread; cases hread
  | ok layer =>
    rw [hlayer] at hread
    have hlayered : (standard.merge layer).IsLayered := .merge isLayered_standard (.table hlayer)
    exact ⟨layer, rfl, hlayered, Option.some.inj hread, settings_read_back hlayered []⟩

end Draft

end Reconcile
