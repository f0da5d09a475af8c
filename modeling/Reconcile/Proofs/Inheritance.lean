import Reconcile.Proofs.Layers

/-!
# Markers that are inherited

A layer may list markers none of which is of any use: entries that are no texts, and texts that are
no patterns. Such a list should count as none, so that the markers of the layers below stay in force.

* `unusable_markers_inherited_iff`: it does exactly if at least one entry is a text and all texts are
  merely faulty. If no entry is a text at all, the list counts as empty, and no markers are left
  whatever the layers below set; if a text goes beyond what the reader of patterns copes with, the
  layer cannot be read.
* `numbers_disable_markers`: a list with nothing but a number leaves no markers.

Entries that are no texts are left out before the texts are read as patterns, so a list of them alone
looks as if it had been empty.
-/

namespace Reconcile

open Pattern

/-- Whether a text breaks the rules of patterns, but goes beyond nothing that their reader copes
with. -/
def Pattern.IsFaulty (text : String) : Prop :=
  ∃ fault, Pattern.read text = .error (.fault fault)

/-- Of texts that are all faulty no marker is left. -/
theorem Report.readMarkers_of_isFaulty {texts : List String} (h : ∀ text ∈ texts, IsFaulty text) :
    readMarkers texts = .ok [] := by
  induction texts with
  | nil => rfl
  | cons text texts ih =>
    rw [List.forall_mem_cons] at h
    obtain ⟨⟨fault, hread⟩, hrest⟩ := h
    rw [readMarkers, hread]
    exact ih hrest

/-- Of texts that are not readable and not all faulty, one ends the reading. -/
theorem Report.readMarkers_of_not_isFaulty {texts : List String}
    (hunusable : ∀ text ∈ texts, ¬ IsReadable text) (h : ¬ ∀ text ∈ texts, IsFaulty text) :
    ∃ excess, readMarkers texts = .error excess := by
  induction texts with
  | nil => exact absurd (List.forall_mem_nil _) h
  | cons text texts ih =>
    rw [List.forall_mem_cons] at hunusable h
    rw [readMarkers]
    split
    next pattern hread => exact absurd ⟨pattern, hread⟩ hunusable.1
    next fault hread => exact ih hunusable.2 fun hrest => h ⟨⟨fault, hread⟩, hrest⟩
    next excess _ => exact ⟨excess, rfl⟩

namespace Draft

/-- A list of which nothing is left counts as none, but for the list that was empty before. -/
theorem usableMarkers?_of_isFaulty {texts : List String} (h : ∀ text ∈ texts, IsFaulty text) :
    usableMarkers? texts = .ok (if texts = [] then some [] else none) := by
  rw [usableMarkers?, Report.readMarkers_of_isFaulty h]
  cases texts <;> rfl

theorem usableMarkers?_of_not_isFaulty {texts : List String}
    (hunusable : ∀ text ∈ texts, ¬ IsReadable text) (h : ¬ ∀ text ∈ texts, IsFaulty text) :
    ∃ excess, usableMarkers? texts = .error excess := by
  obtain ⟨excess, hread⟩ := Report.readMarkers_of_not_isFaulty hunusable h
  refine ⟨excess, ?_⟩
  rw [usableMarkers?, hread]
  rfl

/-- The markers of the layer that a table holds, if it lists any. -/
theorem markers_ofTable {table : Fields} {texts : List String} (files : List String)
    (h : (table.sectionOf "parser").texts? "completion_patterns" = some texts) :
    (ofTable table files).map Draft.markers = usableMarkers? texts := by
  rw [ofTable]
  dsimp only
  rw [h]
  dsimp only
  cases usableMarkers? texts <;> rfl

/-! ## Layers below -/

theorem markers_freeze_merge (lower upper : Draft) :
    (lower.merge upper).freeze.markers =
      match upper.markers with
      | some markers => markers
      | none => lower.freeze.markers := by
  show (upper.markers <|> lower.markers).getD _ = _
  cases upper.markers <;> rfl

/-- Whether a table is read as a layer that leaves the markers to the layers below. -/
def Inherits (table : Fields) (files : List String) : Prop :=
  ∃ layer, ofTable table files = .ok layer ∧ layer.markers = none ∧
    ∀ lower : Draft, (lower.merge layer).freeze.markers = lower.freeze.markers

/-- Whether a table is read as a layer that leaves no markers, whatever the layers below set. -/
def Disables (table : Fields) (files : List String) : Prop :=
  ∃ layer, ofTable table files = .ok layer ∧ layer.markers = some [] ∧
    ∀ lower : Draft, (lower.merge layer).freeze.markers = []

theorem inherits_iff {table : Fields} {files : List String} :
    Inherits table files ↔ (ofTable table files).map Draft.markers = .ok none := by
  rw [map_eq_ok_iff]
  refine exists_congr fun layer => and_congr_right fun _ => and_iff_left_of_imp fun hnone lower => ?_
  rw [markers_freeze_merge, hnone]

theorem disables_iff {table : Fields} {files : List String} :
    Disables table files ↔ (ofTable table files).map Draft.markers = .ok (some []) := by
  rw [map_eq_ok_iff]
  refine exists_congr fun layer => and_congr_right fun _ => and_iff_left_of_imp fun hnone lower => ?_
  rw [markers_freeze_merge, hnone]

theorem mem_filterMap_itemText?_iff {items : List Value} {text : String} :
    text ∈ items.filterMap Fields.itemText? ↔ .text text ∈ items := by
  rw [List.mem_filterMap]
  constructor
  · rintro ⟨item, hitem, heq⟩
    cases item with
    | text found =>
      cases heq
      exact hitem
    | _ => cases heq
  · exact fun hitem => ⟨_, hitem, rfl⟩

/-- **When useless markers are inherited.** Let a table list markers, none of which is a text that
can be read as a pattern. It leaves the markers to the layers below exactly if it lists a text and
every text that it lists is merely faulty. If it lists no text, it leaves no markers, whatever the
layers below set. If a text goes beyond what the reader copes with, there is no layer. -/
theorem unusable_markers_inherited_iff {table : Fields} {items : List Value} (files : List String)
    (hlist : (table.sectionOf "parser").get "completion_patterns" = .list items)
    (hunusable : ∀ text, .text text ∈ items → ¬ IsReadable text) :
    (Inherits table files ↔
        (∃ text, .text text ∈ items) ∧ ∀ text, .text text ∈ items → IsFaulty text) ∧
      ((¬ ∃ text, .text text ∈ items) → Disables table files) ∧
      ((¬ ∀ text, .text text ∈ items → IsFaulty text) →
        ∃ excess, ofTable table files = .error excess) := by
  let texts := items.filterMap Fields.itemText?
  have htexts : (table.sectionOf "parser").texts? "completion_patterns" = some texts := by
    rw [Fields.texts?, hlist]
  have hread : (ofTable table files).map Draft.markers = usableMarkers? texts :=
    markers_ofTable files htexts
  simp only [← mem_filterMap_itemText?_iff] at hunusable ⊢
  rw [inherits_iff, disables_iff, hread]
  by_cases hfaulty : ∀ text ∈ texts, IsFaulty text
  · rw [usableMarkers?_of_isFaulty hfaulty]
    by_cases hempty : texts = []
    · have hnone : ¬ ∃ text, text ∈ texts := by
        rintro ⟨text, htext⟩
        rw [hempty] at htext
        cases htext
      rw [if_pos hempty]
      refine ⟨iff_of_false (by simp) fun h => hnone h.1, fun _ => rfl, fun h => absurd hfaulty h⟩
    · have hsome : ∃ text, text ∈ texts := List.exists_mem_of_ne_nil _ hempty
      rw [if_neg hempty]
      exact ⟨iff_of_true rfl ⟨hsome, hfaulty⟩, fun h => absurd hsome h, fun h => absurd hfaulty h⟩
  · obtain ⟨excess, herror⟩ := usableMarkers?_of_not_isFaulty hunusable hfaulty
    rw [herror] at hread ⊢
    refine ⟨iff_of_false (by simp) fun h => hfaulty h.2, fun hnone => ?_, fun _ => ?_⟩
    · exact absurd (fun text htext => absurd ⟨text, htext⟩ hnone) hfaulty
    · cases htable : ofTable table files with
      | error excess' => exact ⟨excess', rfl⟩
      | ok layer =>
        rw [htable] at hread
        cases hread

/-- A pattern that is faulty and a flag are listed over markers that were set before. -/
theorem unusable_markers_inherited_iff_of_two_entries :
    let items : List Value := [.text "Build (complete", .flag true]
    let table : Fields := [("parser", .table [("completion_patterns", .list items)])]
    (∀ text, .text text ∈ items → ¬ IsReadable text) ∧
      Inherits table ["own.toml"] := by
  intro items table
  have hmessage : (match Pattern.read "Build (complete" with
      | .error (.fault fault) => some fault.position
      | _ => none) = some (some 6) := by decide +kernel
  have hfaulty : ∀ text, .text text ∈ items → IsFaulty text := by
    intro text htext
    rcases List.mem_cons.mp htext with heq | hrest
    · cases heq
      split at hmessage
      next fault hread => exact ⟨fault, hread⟩
      next => cases hmessage
    · cases List.mem_singleton.mp hrest
  have hunusable : ∀ text, .text text ∈ items → ¬ IsReadable text := by
    rintro text htext ⟨pattern, hread⟩
    obtain ⟨fault, hread'⟩ := hfaulty text htext
    rw [hread] at hread'
    cases hread'
  refine ⟨hunusable, ?_⟩
  have hlist : (table.sectionOf "parser").get "completion_patterns" = .list items := rfl
  obtain ⟨hinherits, -, -⟩ := unusable_markers_inherited_iff ["own.toml"] hlist hunusable
  exact hinherits.mpr ⟨⟨_, List.mem_cons_self ..⟩, hfaulty⟩

/-- A list of markers with nothing but a number leaves no markers, not even the standard ones. -/
theorem numbers_disable_markers :
    let table : Fields := [("parser", .table [("completion_patterns", .list [.integer 1])])]
    ∃ layer, ofTable table [] = .ok layer ∧ layer.markers = some [] ∧
      (standard.merge layer).freeze.markers = [] ∧ standard.freeze.markers ≠ [] := by
  intro table
  exact ⟨_, rfl, rfl, rfl, by decide⟩

end Draft

end Reconcile
