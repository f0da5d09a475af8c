import Reconcile.Proofs.History
import Reconcile.Proofs.Paths
import Reconcile.Proofs.Slots

/-!
# A manager stays coherent

A manager keeps three maps of files: what is stored, what was published last, and what the board
shows. Each event changes them one by one. This file shows that after every event they agree:

* `coherent_afterAll`: after every history on a board that refuses nothing, the published files are
  the stored files in the same order, each is the identity of its own path, what is published for it
  is the merge of what is stored for it, stored under its own name, and the board shows what was
  published. Changes of policy and settings leave the stored records as they are.

The invariant is `Coherent`. Its main clause says that what was published is a function of the store
and the policy, the `view`; so setting, erasing and clearing files need only commute with
`FileMap.mapValues`, and publishing all files anew is a `FileMap.refresh` with the same result.
-/

namespace Reconcile.Manager

/-- What has to be published, given what is stored and which policy is in force. -/
def view (m : Manager) : FileMap (List Diagnostic) :=
  m.store.reports.mapValues fun _ => merge (m.policy.getD .unionAll)

/-- The maps of a manager agree. -/
structure Coherent (m : Manager) : Prop where
  published : m.published = m.view
  shown : m.board.shown = m.published
  canonical : ∀ file ∈ m.store.files, canonical file = file
  filed : ∀ file, ∀ d ∈ m.store.get file, d.file = file

variable {m : Manager}

theorem files_view (m : Manager) : m.view.files = m.store.files :=
  FileMap.files_mapValues ..

/-- The view of a stored file is its merged list. -/
theorem get?_view {file : String} (h : file ∈ m.store.files) :
    m.view.get? file = some (m.merged file) := by
  have hsome := (FileMap.mem_files_iff _ _).mp h
  obtain ⟨ds, hds⟩ := Option.isSome_iff_exists.mp hsome
  rw [view, FileMap.get?_mapValues, merged, Store.get, hds]
  rfl

theorem get?_view_eq_none {file : String} (h : file ∉ m.store.files) : m.view.get? file = none := by
  rw [FileMap.get?_eq_none_iff, files_view]
  exact h

/-- Publishing every stored file anew yields the view, whatever was published for these files. -/
theorem refresh_eq_view {map : FileMap (List Diagnostic)}
    (h : map.files = m.store.files ∨ map = .empty) :
    map.refresh m.merged m.store.files = m.view := by
  apply FileMap.ext_get?
  · rw [files_view]
    rcases h with h | rfl
    · rw [FileMap.files_refresh_of_subset _ fun file hfile => h ▸ hfile, h]
    · exact FileMap.files_refresh_of_nodup _ m.store.reports.nodup
  · intro file
    rw [FileMap.get?_refresh]
    by_cases hmem : file ∈ m.store.files
    · rw [if_pos hmem, get?_view hmem]
    · rw [if_neg hmem, get?_view_eq_none hmem]
      rcases h with h | rfl
      · rw [FileMap.get?_eq_none_iff, h]
        exact hmem
      · rfl

/-! ## Events keep the maps together -/

theorem coherent_start (settings : Settings) : Coherent (start settings) where
  published := rfl
  shown := rfl
  canonical := by
    intro file hfile
    cases hfile
  filed := by
    intro file d hd
    cases hd

theorem Coherent.files (h : Coherent m) : m.published.files = m.store.files := by
  rw [h.published, files_view]

theorem Coherent.submit (h : Coherent m) (resolves : String → Bool) (file : String)
    (source : Source) (ds : List Diagnostic) :
    Coherent (m.submit (.willing resolves) file source ds).1 := by
  unfold Manager.submit
  split
  next => exact h
  next =>
    let ingested := { m with store := (m.store.ingest (Manager.canonical file) source ds).1 }
    have hview : m.published.set (Manager.canonical file)
        (ingested.merged (Manager.canonical file)) = ingested.view := by
      rw [h.published]
      refine Eq.trans ?_ (FileMap.mapValues_set ..).symm
      show m.view.set _ (merge _ _) = m.view.set _ (merge _ _)
      rw [Store.get_ingest, if_pos rfl]
    refine ⟨hview, ?_, ?_, ?_⟩
    · show m.board.shown.set _ _ = m.published.set _ _
      rw [h.shown]
    · intro f hf
      have hf' : f ∈ (m.store.ingest (Manager.canonical file) source ds).1.files := hf
      rw [Store.files_ingest] at hf'
      split at hf'
      next => exact h.canonical f hf'
      next =>
        rcases List.mem_append.mp hf' with hf' | hf'
        · exact h.canonical f hf'
        · rw [List.mem_singleton.mp hf']
          exact Path.normalize_normalize file
    · intro f d hd
      rcases Store.mem_get_ingest hd with hd | ⟨rfl, hfile⟩
      · exact h.filed f d hd
      · exact hfile

theorem Coherent.submitAll (h : Coherent m) (resolves : String → Bool)
    (reports : List (String × List Diagnostic)) :
    Coherent (m.submitAll (.willing resolves) reports).1 :=
  submitAll_induction h (fun _ hnext file ds => hnext.submit resolves file .textual ds) reports

/-- Publishing all stored files anew brings the maps together, if the store is in order and nothing
else was published. -/
theorem coherent_publishAll (resolves : String → Bool)
    (hfiles : m.published.files = m.store.files ∨ m.published = .empty)
    (hshown : m.board.shown = m.published)
    (hcanonical : ∀ file ∈ m.store.files, Manager.canonical file = file)
    (hfiled : ∀ file, ∀ d ∈ m.store.get file, d.file = file) :
    ∃ next, m.publishAll (.willing resolves) m.store.files = (next, none) ∧ Coherent next := by
  obtain ⟨board, heq, hboard⟩ := publishAll_willing resolves m m.store.files
  refine ⟨_, heq, refresh_eq_view hfiles, ?_, hcanonical, hfiled⟩
  show board.shown = m.published.refresh m.merged m.store.files
  rw [hboard, hshown]

theorem Coherent.reconfigureUnder (h : Coherent m) (resolves : String → Bool)
    (settings : Settings) (policy : Option Policy) :
    Coherent (m.reconfigureUnder (.willing resolves) settings policy).1 := by
  unfold Manager.reconfigureUnder
  split
  next => exact h
  next =>
    obtain ⟨next, heq, hnext⟩ := coherent_publishAll (m := m.under settings policy) resolves
      (Or.inr rfl) rfl h.canonical h.filed
    rw [show m.store.files = (m.under settings policy).store.files from rfl, heq]
    exact hnext

theorem Coherent.deleteFile (h : Coherent m) (path : String) :
    Coherent (m.deleteFile path).1 := by
  unfold Manager.deleteFile
  dsimp only
  split
  next => exact h
  next =>
    refine ⟨?_, ?_, ?_, ?_⟩
    · show m.published.erase _ = (m.store.reports.erase _).mapValues _
      rw [h.published, FileMap.mapValues_erase]
      rfl
    · show m.board.shown.erase _ = m.published.erase _
      rw [h.shown]
    · intro f hf
      have hf' : f ∈ (m.store.reports.erase (Manager.canonical path)).files := hf
      rw [FileMap.files_erase] at hf'
      exact h.canonical f (List.mem_filter.mp hf').1
    · intro f d hd
      have hd' : d ∈ ((m.store.reports.erase (Manager.canonical path)).get? f).getD [] := hd
      rw [FileMap.get?_erase] at hd'
      split at hd'
      next => cases hd'
      next => exact h.filed f d hd'

theorem coherent_clear (m : Manager) : Coherent m.clear where
  published := rfl
  shown := rfl
  canonical := by
    intro file hfile
    cases hfile
  filed := by
    intro file d hd
    cases hd

/-! ## Runs -/

theorem Coherent.applyRun (h : Coherent m) (resolves : String → Bool) (reports : Report.Reports) :
    Coherent (m.applyRun (.willing resolves) reports).1 := by
  unfold Manager.applyRun
  split
  next => exact h
  next =>
    have hstripped : (m.store.removeSource .textual).files = m.store.files :=
      Store.files_removeSource ..
    have hfiled : ∀ file, ∀ d ∈ (m.store.removeSource .textual).get file, d.file = file := by
      intro f d hd
      rw [Store.get_removeSource] at hd
      exact h.filed f d (List.mem_filter.mp hd).1
    obtain ⟨next, heq, hnext⟩ := coherent_publishAll
      (m := { m with store := m.store.removeSource .textual }) resolves
      (Or.inl (h.files.trans hstripped.symm)) h.shown
      (fun f hf => h.canonical f (hstripped ▸ hf)) hfiled
    dsimp only at heq ⊢
    rw [heq]
    exact hnext.submitAll resolves reports.entries

/-- What becomes of a run is no concern of the maps. -/
theorem Coherent.withRun (h : Coherent m) (number : Nat) (run : Report.Run) :
    Coherent (m.withRun number run) :=
  ⟨h.published, h.shown, h.canonical, h.filed⟩

theorem Coherent.advance (h : Coherent m) (resolves : String → Bool) (number : Nat)
    (before after : Report.Run) :
    Coherent (m.advance (.willing resolves) number before after) := by
  unfold Manager.advance
  split
  next reports _ => exact (h.withRun number after).applyRun resolves reports
  next => exact h.withRun number after

theorem Coherent.abandon (h : Coherent m) (number : Nat) : Coherent (m.abandon number) := by
  unfold Manager.abandon
  split
  next => exact h
  next => exact h.withRun number _

theorem Coherent.beginRun (h : Coherent m) (world : Surroundings) :
    Coherent (m.beginRun world).1 := by
  unfold Manager.beginRun
  repeat' split
  all_goals exact ⟨h.published, h.shown, h.canonical, h.filed⟩

theorem Coherent.dispose (h : Coherent m) : Coherent m.dispose := by
  unfold Manager.dispose
  split
  next => exact h
  next =>
    have hclear := coherent_clear (m.active.foldl Manager.abandon m)
    exact ⟨hclear.published, hclear.shown, hclear.canonical, hclear.filed⟩

/-- Every event keeps a manager coherent. -/
theorem Coherent.after (h : Coherent m) (resolves : String → Bool) (event : Event) :
    Coherent (m.after (.willing resolves) event) := by
  cases event with
  | submit file source ds => exact h.submit resolves file source ds
  | beginRun => exact h.beginRun _
  | feed number chunk =>
    show Coherent (m.feed (.willing resolves) number chunk).1
    unfold Manager.feed
    split
    next => exact h
    next => exact h.advance resolves number _ _
  | close number =>
    show Coherent (m.close (.willing resolves) number)
    unfold Manager.close
    split
    next => exact h
    next => exact h.advance resolves number _ _
  | abandon number => exact h.abandon number
  | deleteFile path => exact h.deleteFile path
  | setPolicy policy => exact h.reconfigureUnder resolves _ _
  | reconfigure settings => exact h.reconfigureUnder resolves _ _
  | clear => exact coherent_clear m
  | dispose => exact h.dispose

/-! ## After every history -/

/-- What is published for a path is the merge of what is stored for it, if anything is stored. -/
theorem Coherent.publishedFor_eq_merge (h : Coherent m) (path : String) :
    m.publishedFor path = merge (m.policy.getD .unionAll) (m.storedFor path) := by
  rw [Manager.publishedFor, h.published, view, FileMap.get?_mapValues, storedFor, Store.get]
  cases m.store.reports.get? (Manager.canonical path) with
  | none => exact (Merge.merge_nil _).symm
  | some ds => rfl

theorem Coherent.publishedFor (h : Coherent m) {file : String} (hfile : file ∈ m.published.files) :
    m.publishedFor file = merge (m.policy.getD .unionAll) (m.store.get file) := by
  rw [h.files] at hfile
  rw [h.publishedFor_eq_merge, storedFor, h.canonical file hfile]

/-- Publishing changes nothing that is stored. -/
theorem store_publishAll (world : Surroundings) (files : List String) (m : Manager) :
    (m.publishAll world files).1.store = m.store := by
  refine publishAll_induction (P := fun next => next.store = m.store) rfl ?_
  intro next hnext file _
  rw [publish]
  dsimp only
  split
  next => exact hnext
  next => exact hnext

/-- Another policy or other settings leave the stored records as they are. -/
theorem reports_reconfigureUnder (world : Surroundings) (m : Manager) (settings : Settings)
    (policy : Option Policy) :
    (m.reconfigureUnder world settings policy).1.store.reports = m.store.reports := by
  unfold reconfigureUnder
  split
  next => rfl
  next => rw [store_publishAll]; rfl

/-- **A manager stays coherent.** After every history on a board that refuses nothing: the published
files are the stored files in the same order; each is the identity of its own path, is published as
the merge of its stored records, and has only records under its own name; the board shows exactly
what was published; and changing the policy or the settings leaves the stored records alone. -/
theorem coherent_afterAll (resolves : String → Bool) (settings : Settings) (events : List Event) :
    let m := (start settings).afterAll (.willing resolves) events
    m.published.files = m.store.files ∧
      (∀ file ∈ m.published.files, canonical file = file ∧
        m.publishedFor file = merge (m.policy.getD .unionAll) (m.store.get file) ∧
        ∀ d ∈ m.store.get file, d.file = file) ∧
      m.board.shown.entries = m.published.entries ∧
      (∀ world policy, (m.setPolicy world policy).1.store.reports = m.store.reports) ∧
      ∀ world settings, (m.reconfigure world settings).1.store.reports = m.store.reports := by
  intro m
  have h : Coherent m := afterAll_induction (coherent_start settings)
    (fun _ event hm => hm.after resolves event) events
  refine ⟨h.files, ?_, by rw [h.shown], ?_, ?_⟩
  · intro file hfile
    exact ⟨h.canonical file (h.files ▸ hfile), h.publishedFor hfile, h.filed file⟩
  · intro world policy
    exact reports_reconfigureUnder world m _ _
  · intro world settings
    exact reports_reconfigureUnder world m _ _

end Reconcile.Manager
