import Reconcile.Proofs.Agenda
import Reconcile.Proofs.Lineage
import Reconcile.Proofs.Succession

/-!
# A board that refuses files

A board may refuse to show a file. No refusal leaves the application of a run, and the run is
complete all the same; but the first refusal ends the application, and what was still to be done is
left undone. The files are published in a fixed order: first those that are stored, then those of
the run.

* A file that is not refused and comes before the first refusal, or does not come at all, is stored,
  published and shown as if nothing had been refused.
* A file that comes after the first refusal loses the compiler's records, whatever the run reports
  for it, since all were dropped before the first file was published; and it is not published anew.

This is `applied_up_to_first_refusal`. `Contained` is what holds of the published files whatever a
board refused before: only files that are stored are published.
-/

namespace Reconcile.Manager

open Merge Report

/-! ## Only stored files are published -/

/-- Only files that are stored are published or shown. -/
def Contained (m : Manager) : Prop :=
  ∀ file, file ∉ m.store.files → m.published.get? file = none ∧ m.board.shown.get? file = none

variable {m : Manager} (world : Surroundings)

theorem contained_start (settings : Settings) : Contained (start settings) :=
  fun _ _ => ⟨rfl, rfl⟩

theorem Contained.publish (h : Contained m) {file : String} (hfile : file ∈ m.store.files) :
    Contained (m.publish world file).1 := by
  have hne : ∀ other, other ∉ m.store.files → other ≠ file := by
    rintro other hother rfl
    exact hother hfile
  rw [Manager.publish]
  dsimp only
  split
  next =>
    intro other hother
    exact ⟨(FileMap.get?_set_of_ne _ _ (hne other hother)).trans (h other hother).1,
      (h other hother).2⟩
  next =>
    intro other hother
    exact ⟨(FileMap.get?_set_of_ne _ _ (hne other hother)).trans (h other hother).1,
      (FileMap.get?_set_of_ne _ _ (hne other hother)).trans (h other hother).2⟩

theorem Contained.publishAll (h : Contained m) {files : List String}
    (hfiles : ∀ file ∈ files, file ∈ m.store.files) : Contained (m.publishAll world files).1 := by
  suffices hkept : Contained (m.publishAll world files).1 ∧
      (m.publishAll world files).1.store = m.store from hkept.1
  refine publishAll_induction (P := fun next => Contained next ∧ next.store = m.store) ⟨h, rfl⟩ ?_
  rintro next ⟨hnext, hstore⟩ file hfile
  obtain ⟨published, board, hframe⟩ := publish_frame world next file
  refine ⟨hnext.publish world (hstore ▸ hfiles file hfile), ?_⟩
  rw [hframe]
  exact hstore

theorem Contained.submit (h : Contained m) (path : String) (source : Source)
    (ds : List Diagnostic) : Contained (m.submit world path source ds).1 := by
  rw [Manager.submit]
  split
  next => exact h
  next =>
    let ingested := { m with store := (m.store.ingest (canonical path) source ds).1 }
    have hfiles : ∀ file, file ∈ ingested.store.files ↔
        file ∈ m.store.files ∨ file = canonical path := by
      intro file
      rw [show ingested.store.files = _ from Store.files_ingest ..]
      split
      next hmem => exact ⟨Or.inl, fun h => h.elim id fun heq => heq ▸ hmem⟩
      next => rw [List.mem_append, List.mem_singleton]
    have hingested : Contained ingested := fun file hfile =>
      h file fun hmem => hfile ((hfiles file).mpr (Or.inl hmem))
    exact hingested.publish world ((hfiles _).mpr (Or.inr rfl))

theorem Contained.submitAll (h : Contained m) (reports : List (String × List Diagnostic)) :
    Contained (m.submitAll world reports).1 :=
  submitAll_induction h (fun _ hnext path ds => hnext.submit world path .textual ds) reports

theorem Contained.applyRun (h : Contained m) (reports : Report.Reports) :
    Contained (m.applyRun world reports).1 := by
  rw [Manager.applyRun]
  split
  next => exact h
  next =>
    have hstripped : Contained { m with store := m.store.removeSource .textual } := by
      intro file hfile
      rw [Store.files_removeSource] at hfile
      exact h file hfile
    have hnext := hstripped.publishAll world
      (show ∀ file ∈ (m.store.removeSource .textual).files, file ∈ _ from fun _ hfile => hfile)
    dsimp only
    split
    next next heq =>
      rw [heq] at hnext
      exact hnext.submitAll world reports.entries
    next => exact hnext

theorem Contained.reconfigureUnder (h : Contained m) (settings : Settings)
    (policy : Option Policy) : Contained (m.reconfigureUnder world settings policy).1 := by
  rw [Manager.reconfigureUnder]
  split
  next => exact h
  next =>
    have hcleared : Contained (m.under settings policy) := fun _ _ => ⟨rfl, rfl⟩
    exact hcleared.publishAll world fun _ hfile => hfile

theorem Contained.deleteFile (h : Contained m) (path : String) :
    Contained (m.deleteFile path).1 := by
  rw [Manager.deleteFile]
  split
  next => exact h
  next =>
    intro file hfile
    show (m.published.erase (canonical path)).get? file = none ∧
      (m.board.shown.erase (canonical path)).get? file = none
    rw [FileMap.get?_erase, FileMap.get?_erase]
    split
    next => exact ⟨rfl, rfl⟩
    next hne =>
      refine h file fun hmem => hfile ?_
      show file ∈ (m.store.reports.erase (canonical path)).files
      rw [FileMap.files_erase]
      exact List.mem_filter.mpr ⟨hmem, by simpa using hne⟩

theorem contained_clear (m : Manager) : Contained m.clear :=
  fun _ _ => ⟨rfl, rfl⟩

/-- Every event keeps it so, whatever the board refuses. -/
theorem Contained.after (h : Contained m) (event : Event) : Contained (m.after world event) := by
  apply after_cases (P := Contained)
  case runs => exact fun _ _ => h
  case applied =>
    intro number reports _
    have hcompleted : Contained (m.withRun number (.completed reports)) := h
    exact hcompleted.applyRun world reports
  case submit => exact fun path source ds _ => h.submit world path source ds
  case deleteFile => exact fun path => h.deleteFile path
  case reconfigureUnder => exact fun settings policy => h.reconfigureUnder world settings policy
  case clear => exact contained_clear m
  case dispose =>
    intro _
    rw [dispose]
    split
    next => exact h
    next => exact contained_clear (m.active.foldl abandon m)

theorem contained_afterAll (settings : Settings) (events : List Event) :
    Contained ((start settings).afterAll world events) :=
  afterAll_induction (contained_start settings) (fun _ event h => h.after world event) events

/-! ## Before and after the first refusal -/

variable {reports : Report.Reports} {file : String} (resolves refused : String → Bool)

theorem map_file_agenda (hfiles : ∀ path ∈ reports.files, canonical path = path) :
    (m.agenda reports).map Task.file = m.store.files ++ reports.files := by
  have hentries : reports.entries.map (fun entry => canonical entry.1) = reports.files :=
    List.map_congr_left fun entry hentry => hfiles entry.1 (List.mem_map_of_mem hentry)
  rw [agenda, List.map_append, List.map_map, List.map_map, ← hentries]
  exact congrArg (· ++ _) (List.map_id' m.store.files)

/-- The report of a file is the last task for it. -/
theorem pairwise_agenda (hfiles : ∀ path ∈ reports.files, canonical path = path) :
    (m.agenda reports).Pairwise fun task later =>
      task.report? ≠ none → task.file ≠ later.file := by
  rw [agenda, List.pairwise_append, List.pairwise_map, List.pairwise_map]
  refine ⟨List.pairwise_of_forall fun _ _ hreport => absurd rfl hreport, ?_, ?_⟩
  · refine (List.pairwise_map.mp reports.nodup).imp_of_mem fun hentry hlater hne _ heq => hne ?_
    have hcanonical := hfiles _ (List.mem_map_of_mem hentry)
    exact (hcanonical.symm.trans heq).trans (hfiles _ (List.mem_map_of_mem hlater))
  · intro task htask
    obtain ⟨name, -, rfl⟩ := List.mem_map.mp htask
    exact fun _ _ hreport => absurd rfl hreport

theorem lastReport?_eq_none {tasks : List Task}
    (h : ∀ task ∈ tasks, task.file = file → task.report? = none) :
    lastReport? file tasks = none := by
  rw [lastReport?, List.getLast?_eq_none_iff, List.filterMap_eq_nil_iff]
  intro task htask
  obtain ⟨htask, hfile⟩ := List.mem_filter.mp htask
  exact h task htask (of_decide_eq_true hfile)

theorem acceptedTasks_append_dropWhile (tasks : List Task) :
    acceptedTasks refused tasks ++ tasks.dropWhile (!refused ·.file) = tasks :=
  List.takeWhile_append_dropWhile

/-- What is reported for a file that comes after the first refusal is not stored. -/
theorem lastReport?_of_mem_dropWhile (hfiles : ∀ path ∈ reports.files, canonical path = path)
    (h : file ∈ (m.store.files ++ reports.files).dropWhile (!refused ·)) :
    lastReport? file (acceptedTasks refused (m.agenda reports)) = none := by
  rw [← map_file_agenda hfiles, List.dropWhile_map] at h
  obtain ⟨later, hlater, rfl⟩ := List.mem_map.mp h
  have hpairwise := pairwise_agenda (m := m) hfiles
  rw [← acceptedTasks_append_dropWhile refused (m.agenda reports), List.pairwise_append]
    at hpairwise
  refine lastReport?_eq_none fun task htask heq => ?_
  by_contra hreport
  exact hpairwise.2.2 task htask later hlater hreport heq

/-- What is reported for a file that does not come after the first refusal is stored. -/
theorem lastReport?_of_not_mem_dropWhile (hfiles : ∀ path ∈ reports.files, canonical path = path)
    (h : file ∉ (m.store.files ++ reports.files).dropWhile (!refused ·)) :
    lastReport? file (acceptedTasks refused (m.agenda reports)) = reports.get? file := by
  rw [← map_file_agenda hfiles, List.dropWhile_map] at h
  have hnone : ((m.agenda reports).dropWhile (!refused ·.file)).filter (·.file = file) = [] :=
    List.filter_eq_nil_iff.mpr fun task htask heq =>
      h (List.mem_map.mpr ⟨task, htask, of_decide_eq_true heq⟩)
  rw [← lastReport?_agenda m hfiles]
  nth_rewrite 2 [← acceptedTasks_append_dropWhile refused (m.agenda reports)]
  rw [lastReport?, lastReport?, List.filter_append, hnone, List.append_nil]

theorem map_file_acceptedTasks (hfiles : ∀ path ∈ reports.files, canonical path = path) :
    (acceptedTasks refused (m.agenda reports)).map Task.file =
      (m.store.files ++ reports.files).takeWhile (!refused ·) := by
  rw [← map_file_agenda hfiles, List.takeWhile_map]
  rfl

/-! ## Applying a run -/

variable {refused}

/-- What is reported for a file that does not come after the first refusal is stored. -/
theorem slots_applyRun_before (hlive : m.disposed = false) (hsound : reports.Sound)
    (hfile : refused file = false)
    (h : file ∉ (m.store.files ++ reports.files).dropWhile (!refused ·)) :
    (m.applyRun (.refusing resolves refused) reports).1.store.slots file =
      (m.store.slots file).report .textual
        ((reports.of file).map Diagnostic.withDistinctNotes) := by
  rw [slots_applyRun_refusing resolves refused hlive reports file hfile,
    lastReport?_of_not_mem_dropWhile refused hsound.files h]
  exact congrArg _ (Store.generation_of_sound _ hsound file)

/-- What is reported for a file that comes after the first refusal is lost. -/
theorem slots_applyRun_after (hlive : m.disposed = false) (hsound : reports.Sound)
    (hfile : refused file = false)
    (h : file ∈ (m.store.files ++ reports.files).dropWhile (!refused ·)) :
    (m.applyRun (.refusing resolves refused) reports).1.store.slots file =
      (m.store.slots file).report .textual [] := by
  rw [slots_applyRun_refusing resolves refused hlive reports file hfile,
    lastReport?_of_mem_dropWhile refused hsound.files h]
  rfl

/-- The files before the first refusal are published and shown anew, and the others are not. -/
theorem lists_applyRun (hlive : m.disposed = false) (hsound : reports.Sound)
    (hfile : refused file = false) :
    let next := (m.applyRun (.refusing resolves refused) reports).1
    let list := merge (m.policy.getD .unionAll) (next.store.get file)
    if file ∈ (m.store.files ++ reports.files).takeWhile (!refused ·) then
      next.published.get? file = some list ∧ next.board.shown.get? file = some list
    else
      next.published.get? file = m.published.get? file ∧
        next.board.shown.get? file = m.board.shown.get? file := by
  obtain ⟨-, hpublished, hshown⟩ := performAll_refusing resolves refused
    { m with store := m.store.removeSource .textual } (m.agenda reports) file hfile
  rw [← applyRun_eq_performAll _ hlive, map_file_acceptedTasks refused hsound.files]
    at hpublished hshown
  split
  next h => exact ⟨hpublished.trans (if_pos h), hshown.trans (if_pos h)⟩
  next h => exact ⟨hpublished.trans (if_neg h), hshown.trans (if_neg h)⟩

/-- A file that does not come after the first refusal has the list of what is stored. -/
theorem lists_applyRun_before (hlive : m.disposed = false) (hcontained : Contained m)
    (hsound : reports.Sound) (hfile : refused file = false)
    (h : file ∉ (m.store.files ++ reports.files).dropWhile (!refused ·)) :
    let next := (m.applyRun (.refusing resolves refused) reports).1
    let list := merge (m.policy.getD .unionAll) (next.store.get file)
    (next.published.get? file).getD [] = list ∧ next.board.get file = list := by
  intro next list
  have hlists := lists_applyRun resolves hlive hsound hfile
  by_cases hmem : file ∈ (m.store.files ++ reports.files).takeWhile (!refused ·)
  · rw [if_pos hmem] at hlists
    rw [Board.get, hlists.1, hlists.2]
    exact ⟨rfl, rfl⟩
  · -- a file that does not come at all is not stored, and was not published
    rw [if_neg hmem] at hlists
    have hnot : file ∉ m.store.files ++ reports.files := by
      rw [← List.takeWhile_append_dropWhile (p := (!refused ·)) (l := _ ++ _), List.mem_append]
      exact fun hfile => hfile.elim hmem h
    rw [List.mem_append, not_or] at hnot
    obtain ⟨hpublished, hshown⟩ := hcontained file hnot.1
    have hempty : next.store.get file = [] := by
      refine List.eq_nil_iff_forall_not_mem.mpr fun d hd => ?_
      have hslot := Store.mem_slots.mpr ⟨hd, rfl⟩
      rw [slots_applyRun_before resolves hlive hsound hfile h, Report.Reports.of,
        (FileMap.get?_eq_none_iff ..).mpr hnot.2, Store.slots,
        Store.get_of_not_mem_files hnot.1] at hslot
      cases hsource : d.source <;> rw [hsource] at hslot <;> cases hslot
    rw [Board.get, hlists.1, hlists.2, hpublished, hshown,
      show list = [] from (congrArg _ hempty).trans (merge_nil _)]
    exact ⟨rfl, rfl⟩

/-- **A run is applied up to the first refusal.** After any history on any board, let an event
complete a run on a board that refuses some files. No fault comes of it, and the run is complete.
The stored files, and then those of the run, are published in order. For a file that is not refused,
the records of the language service stay. If it does not come after the first refusal, the
compiler's records are what the run reports for it, but for repeated notes, and what is published
and shown is the merge of what is stored. If it does, the compiler's records of it are lost; if it
came before the refusal as well it was published and shown so, and otherwise its list is the one
from before the run. -/
theorem applied_up_to_first_refusal (resolves refused : String → Bool) (before : Surroundings)
    (settings : Settings) (history : List Event) (event : Event) (number : Nat)
    (reports : Report.Reports) :
    let m := (start settings).afterAll before history
    let board := Surroundings.refusing resolves refused
    let next := m.after board event
    let order := m.store.files ++ reports.files
    let list := fun file => merge (m.policy.getD .unionAll) (next.store.get file)
    m.completes? event = some (number, reports) →
    (∀ chunk, event = .feed number chunk → (m.feed board number chunk).2 = none) ∧
      next.run? number = some (.completed reports) ∧
      ∀ file, refused file = false →
        ofSource .structured (next.store.get file) = ofSource .structured (m.store.get file) ∧
        (file ∉ order.dropWhile (!refused ·) →
          ofSource .textual (next.store.get file) =
            (reports.of file).map (fun d => { d with notes := distinctNotes d.notes }) ∧
          (next.published.get? file).getD [] = list file ∧ next.board.get file = list file) ∧
        (file ∈ order.dropWhile (!refused ·) →
          ofSource .textual (next.store.get file) = [] ∧
          if file ∈ order.takeWhile (!refused ·) then
            next.published.get? file = some (list file) ∧
              next.board.shown.get? file = some (list file)
          else
            next.published.get? file = m.published.get? file ∧
              next.board.shown.get? file = m.board.shown.get? file) := by
  intro m board next order list hcompletes
  have hlive : m.disposed = false :=
    (attended_afterAll before settings history).not_disposed_of_completes hcompletes
  have hrun : next.run? number = some (.completed reports) := run?_after_of_completes hcompletes
  have hsound : reports.Sound :=
    ((runsFollow_afterAll before _ history).trans (.after board m event)).sound hrun
  let completed := m.withRun number (.completed reports)
  have hcontained : Contained completed := contained_afterAll before settings history
  have hnext : next = (completed.applyRun board reports).1 := after_of_completes hcompletes
  refine ⟨?_, hrun, fun file hfile => ?_⟩
  · rintro chunk rfl
    rw [← Option.not_isSome_iff_eq_none, Option.isSome_iff_exists]
    rintro ⟨fault, hfault⟩
    rw [completes?_feed_of_fault hfault] at hcompletes
    cases hcompletes
  have hbefore := slots_applyRun_before (m := completed) resolves hlive hsound hfile
  have hafter := slots_applyRun_after (m := completed) resolves hlive hsound hfile
  have hlists := lists_applyRun (m := completed) resolves hlive hsound hfile
  have hfresh := lists_applyRun_before (m := completed) resolves hlive hcontained hsound hfile
  rw [show (completed.applyRun (.refusing resolves refused) reports).1 = next from hnext.symm]
    at hbefore hafter hlists hfresh
  refine ⟨?_, fun h => ⟨congrArg Slots.textual (hbefore h), hfresh h⟩,
    fun h => ⟨congrArg Slots.textual (hafter h), hlists⟩⟩
  by_cases h : file ∈ order.dropWhile (!refused ·)
  · exact congrArg Slots.structured (hafter h)
  · exact congrArg Slots.structured (hbefore h)

/-- A run that reports on three files, of which the board refuses the second, is applied to the
first and costs the third its records. -/
theorem applied_up_to_first_refusal_of_three :
    let refused := fun file => decide (file = "b.swift")
    let board := Surroundings.refusing (fun _ => true) refused
    let m := (start { Settings.standard with markers := [] }).afterAll board [.beginRun,
      .feed 0 "a.swift:1: error: lost\nb.swift:1: error: lost\nc.swift:1: error: lost\n"]
    let next := m.after board (.close 0)
    refused "a.swift" = false ∧ refused "c.swift" = false ∧
      ∃ reports, m.completes? (.close 0) = some (0, reports) ∧
        next.run? 0 = some (.completed reports) ∧
        ofSource .textual (next.store.get "a.swift") =
          (reports.of "a.swift").map (fun d => { d with notes := distinctNotes d.notes }) ∧
        ofSource .textual (next.store.get "c.swift") = [] := by
  intro refused board m next
  have hstored : m.store.files = [] := by decide +kernel
  have hcompletion : (m.completes? (.close 0)).map (fun completion =>
      (completion.1, completion.2.files)) = some (0, ["a.swift", "b.swift", "c.swift"]) := by
    decide +kernel
  obtain ⟨⟨number, reports⟩, hcompletes, heq⟩ := Option.map_eq_some_iff.mp hcompletion
  obtain ⟨rfl, hfiles⟩ := Prod.mk.inj heq
  obtain ⟨-, hrun, happlied⟩ := applied_up_to_first_refusal (fun _ => true) refused board
    { Settings.standard with markers := [] } _ (.close 0) 0 reports hcompletes
  rw [show m.store.files ++ reports.files = _ from congrArg₂ (· ++ ·) hstored hfiles] at happlied
  exact ⟨by decide, by decide, reports, hcompletes, hrun,
    ((happlied "a.swift" (by decide)).2.1 (by decide)).1,
    ((happlied "c.swift" (by decide)).2.2 (by decide)).1⟩

/-- A refusal is not local to its file: here the board refuses one file, and the records that the
complete run reports for another are lost. -/
theorem refusal_costs_another_file :
    let board := Surroundings.refusing (fun _ => true) fun file => decide (file = "a.swift")
    let m := (start { Settings.standard with markers := [] }).afterAll board [.beginRun,
      .feed 0 "a.swift:1: error: lost\nb.swift:1: error: lost\n"]
    let next := m.after board (.close 0)
    ∃ reports, next.run? 0 = some (.completed reports) ∧ reports.of "b.swift" ≠ [] ∧
      next.store.get "b.swift" = [] := by
  intro board m next
  have hreported : ((next.run? 0).bind Run.reports?).map (fun reports =>
      (reports.of "b.swift").isEmpty) = some false := by decide +kernel
  have hlost : next.store.get "b.swift" = [] := by decide +kernel
  obtain ⟨reports, hreports, hsome⟩ := Option.map_eq_some_iff.mp hreported
  obtain ⟨run, hrun, hcompleted⟩ := Option.bind_eq_some_iff.mp hreports
  cases run with
  | completed reports' =>
    cases hcompleted
    exact ⟨reports, hrun, by simpa using hsome, hlost⟩
  | reading unfinished progress => cases hcompleted
  | abandoned => cases hcompleted

end Reconcile.Manager
