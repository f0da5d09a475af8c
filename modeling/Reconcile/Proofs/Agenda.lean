import Mathlib.Data.List.Induction
import Mathlib.Data.List.TakeWhile
import Reconcile.Proofs.Frames
import Reconcile.Proofs.Slots

/-!
# The agenda of a complete run

Applying the reports of a run is a list of tasks. First every stored file, stripped of the
compiler's records, is published again; then the report for every file of the run is stored and the
file is published. The tasks are performed in order, up to the first whose file the board refuses.

* `applyRun_eq_performAll`: that is what `applyRun` does.
* `performAll_refusing`: for a file that is not refused, the tasks before the first refusal decide
  what is stored, published and shown.
* `slots_applyRun`: on a board that refuses nothing, the compiler's slot of a file holds what the
  run reports for it, and the slot of the language service is left alone; `slots_applyRun_refusing`
  says what it holds on any board.
-/

namespace Reconcile

/-- One task in applying a run: a file to publish, and what the compiler reports for it, if the task
brings a report. -/
structure Task where
  file : String
  report? : Option (List Diagnostic)

/-- The last report for a file among tasks. -/
def lastReport? (file : String) (tasks : List Task) : Option (List Diagnostic) :=
  ((tasks.filter (·.file = file)).filterMap Task.report?).getLast?

/-- The tasks before the first whose file is refused. -/
def acceptedTasks (refused : String → Bool) (tasks : List Task) : List Task :=
  tasks.takeWhile (!refused ·.file)

/-- Surroundings in which the board refuses some files, whenever they are set. -/
def Surroundings.refusing (resolves refused : String → Bool) : Surroundings where
  resolves
  refuses _ file := refused file

theorem lastReport?_concat (file : String) (tasks : List Task) (task : Task) :
    lastReport? file (tasks ++ [task]) =
      if task.file = file then task.report?.or (lastReport? file tasks)
      else lastReport? file tasks := by
  rw [lastReport?, lastReport?, List.filterMap_filter, List.filterMap_filter,
    getLast?_filterMap_concat]
  by_cases hfile : task.file = file
  · simp [hfile]
  · simp [hfile]

namespace Store

/-! ## Taking in reports -/

/-- The store with the report of a task. -/
def take (store : Store) (task : Task) : Store :=
  match task.report? with
  | none => store
  | some ds => (store.ingest task.file .textual ds).1

/-- The store with the reports of tasks. -/
def takeAll (store : Store) (tasks : List Task) : Store :=
  tasks.foldl take store

theorem takeAll_concat (store : Store) (tasks : List Task) (task : Task) :
    store.takeAll (tasks ++ [task]) = (store.takeAll tasks).take task :=
  List.foldl_concat ..

theorem normalization_takeAll (store : Store) (tasks : List Task) :
    (store.takeAll tasks).normalization = store.normalization := by
  induction tasks using List.reverseRecOn with
  | nil => rfl
  | append_singleton tasks task ih =>
    rw [takeAll_concat, take, ← ih]
    split <;> rfl

theorem get_take_of_ne (store : Store) {task : Task} {file : String} (h : file ≠ task.file) :
    (store.take task).get file = store.get file := by
  rw [take]
  split
  next => rfl
  next => rw [get_ingest, if_neg h]

theorem get_takeAll_of_not_mem (store : Store) {tasks : List Task} {file : String}
    (h : file ∉ tasks.map Task.file) : (store.takeAll tasks).get file = store.get file := by
  induction tasks generalizing store with
  | nil => rfl
  | cons task tasks ih =>
    rw [List.map_cons, List.mem_cons, not_or] at h
    exact (ih (store.take task) h.2).trans (get_take_of_ne store h.1)

/-- The last report for a file is what the compiler's slot comes to hold. -/
theorem slots_takeAll (store : Store) (tasks : List Task) (file : String) :
    (store.takeAll tasks).slots file =
      match lastReport? file tasks with
      | none => store.slots file
      | some ds => (store.slots file).report .textual (store.generation file .textual ds) := by
  induction tasks using List.reverseRecOn with
  | nil => rfl
  | append_singleton tasks task ih =>
    rw [takeAll_concat, lastReport?_concat, take]
    cases hreport : task.report? with
    | none =>
      dsimp only
      rw [ih, Option.none_or, ite_self]
    | some ds =>
      dsimp only
      rw [slots_ingest, Option.some_or]
      by_cases hfile : task.file = file
      · subst hfile
        rw [if_pos rfl, if_pos rfl, ih]
        have hgeneration : (store.takeAll tasks).generation task.file .textual ds =
            store.generation task.file .textual ds := by
          unfold generation normalized
          rw [normalization_takeAll]
        rw [hgeneration]
        split <;> rfl
      · rw [if_neg hfile, if_neg (fun h => hfile h.symm), ih]

end Store

namespace Manager

variable (world : Surroundings)

/-! ## Performing tasks -/

/-- Stores the report of a task and publishes its file. -/
def perform (m : Manager) (task : Task) : Manager × Option Refusal :=
  publish world { m with store := m.store.take task } task.file

/-- Performs tasks in order, up to the first whose file the board refuses. -/
def performAll (m : Manager) : List Task → Manager × Option Refusal
  | [] => (m, none)
  | task :: tasks =>
    match m.perform world task with
    | (next, none) => next.performAll tasks
    | refused => refused

/-- The tasks in applying the reports of a run. -/
def agenda (m : Manager) (reports : Report.Reports) : List Task :=
  m.store.files.map (⟨·, none⟩) ++
    reports.entries.map fun entry => ⟨canonical entry.1, some entry.2⟩

theorem performAll_append (m : Manager) (front back : List Task) :
    m.performAll world (front ++ back) =
      match m.performAll world front with
      | (next, none) => next.performAll world back
      | refused => refused := by
  induction front generalizing m with
  | nil => rfl
  | cons task front ih =>
    rw [List.cons_append, performAll, performAll]
    rcases m.perform world task with ⟨next, refusal | refusal⟩
    · exact ih next
    · rfl

theorem publishAll_eq_performAll (m : Manager) (files : List String) :
    m.publishAll world files = m.performAll world (files.map (⟨·, none⟩)) := by
  induction files generalizing m with
  | nil => rfl
  | cons file files ih =>
    rw [publishAll, List.map_cons, performAll, show m.perform world ⟨file, none⟩ =
      m.publish world file from rfl]
    rcases m.publish world file with ⟨next, refusal | refusal⟩
    · exact ih next
    · rfl

theorem submitAll_eq_performAll {m : Manager} (hlive : m.disposed = false)
    (reports : List (String × List Diagnostic)) :
    m.submitAll world reports =
      m.performAll world (reports.map fun entry => ⟨canonical entry.1, some entry.2⟩) := by
  induction reports generalizing m with
  | nil => rfl
  | cons entry reports ih =>
    obtain ⟨store, published, board, hframe⟩ := submit_frame world m entry.1 .textual entry.2
    have hsubmit : m.perform world ⟨canonical entry.1, some entry.2⟩ =
        m.submit world entry.1 .textual entry.2 := by
      rw [submit, if_neg (by rw [hlive]; decide)]
      rfl
    rw [submitAll, List.map_cons, performAll, hsubmit]
    rcases hnext : m.submit world entry.1 .textual entry.2 with ⟨next, refusal | refusal⟩
    · rw [hnext] at hframe
      exact ih (by rw [show next = _ from hframe]; exact hlive)
    · rfl

/-- Applying the reports of a run performs its agenda on the store without the compiler's records.
-/
theorem applyRun_eq_performAll {m : Manager} (hlive : m.disposed = false)
    (reports : Report.Reports) :
    m.applyRun world reports =
      performAll world { m with store := m.store.removeSource .textual } (m.agenda reports) := by
  obtain ⟨published, board, hframe⟩ := publishAll_frame world
    { m with store := m.store.removeSource .textual } m.store.files
  rw [applyRun, if_neg (by rw [hlive]; decide), agenda, performAll_append,
    ← publishAll_eq_performAll]
  dsimp only
  rw [Store.files_removeSource]
  rcases hnext : publishAll world { m with store := m.store.removeSource .textual } m.store.files
    with ⟨next, refusal | refusal⟩
  · rw [hnext] at hframe
    exact submitAll_eq_performAll world (by rw [show next = _ from hframe]; exact hlive) _
  · rfl

variable (resolves refused : String → Bool)

/-- For a file that is not refused, the tasks before the first refusal decide what is stored, and
whether the file is published and shown anew. -/
theorem performAll_refusing (m : Manager) (tasks : List Task) (file : String)
    (hfile : refused file = false) :
    let next := (m.performAll (.refusing resolves refused) tasks).1
    let accepted := acceptedTasks refused tasks
    next.store.get file = (m.store.takeAll accepted).get file ∧
      next.published.get? file =
        (if file ∈ accepted.map Task.file then
          some (merge (m.policy.getD .unionAll) (next.store.get file))
        else m.published.get? file) ∧
      next.board.shown.get? file =
        (if file ∈ accepted.map Task.file then
          some (merge (m.policy.getD .unionAll) (next.store.get file))
        else m.board.shown.get? file) := by
  induction tasks generalizing m with
  | nil => exact ⟨rfl, rfl, rfl⟩
  | cons task tasks ih =>
    let taken := { m with store := m.store.take task }
    by_cases hrefused : refused task.file = true
    · have hne : file ≠ task.file := by
        rintro rfl
        rw [hrefused] at hfile
        cases hfile
      have hperform : m.perform (.refusing resolves refused) task =
          ({ taken with
              published := m.published.set task.file (taken.merged task.file)
              board := m.board.refuse task.file }, some ⟨task.file⟩) :=
        if_pos hrefused
      have haccepted : acceptedTasks refused (task :: tasks) = [] :=
        List.takeWhile_cons_of_neg (by simpa using hrefused)
      rw [performAll, hperform, haccepted]
      exact ⟨Store.get_take_of_ne _ hne, FileMap.get?_set_of_ne _ _ hne, rfl⟩
    · let shown : Manager :=
        { taken with
          published := m.published.set task.file (taken.merged task.file)
          board := m.board.set task.file (taken.merged task.file) }
      have hperform : m.perform (.refusing resolves refused) task = (shown, none) :=
        if_neg hrefused
      have haccepted : acceptedTasks refused (task :: tasks) =
          task :: acceptedTasks refused tasks :=
        List.takeWhile_cons_of_pos (by simpa using hrefused)
      obtain ⟨hstore, hpublished, hboard⟩ := ih shown
      -- a file that no later task is about keeps the list that this one publishes
      have hkept : file ∉ (acceptedTasks refused tasks).map Task.file →
          taken.merged file = merge (m.policy.getD .unionAll)
            ((shown.performAll (.refusing resolves refused) tasks).1.store.get file) := by
        intro hmem
        rw [hstore, Store.get_takeAll_of_not_mem _ hmem]
        rfl
      rw [performAll, hperform, haccepted]
      refine ⟨hstore, ?_, ?_⟩
      · exact hpublished.trans (FileMap.get?_set_again _ fun heq hmem => heq ▸ hkept hmem)
      · exact hboard.trans (FileMap.get?_set_again _ fun heq hmem => heq ▸ hkept hmem)

/-- Files that go by their identity are reported once each. -/
theorem lastReport?_agenda (m : Manager) {reports : Report.Reports}
    (hfiles : ∀ path ∈ reports.files, canonical path = path) (file : String) :
    lastReport? file (m.agenda reports) = reports.get? file := by
  have hbare : ((m.store.files.map fun name => Task.mk name none).filter (·.file = file)).filterMap
      Task.report? = [] := by
    rw [List.filterMap_eq_nil_iff]
    intro task htask
    obtain ⟨_, -, rfl⟩ := List.mem_map.mp (List.mem_filter.mp htask).1
    rfl
  have hentries : reports.entries.filter (canonical ·.1 = file) =
      reports.entries.filter (·.1 = file) :=
    List.filter_congr fun entry hentry => by rw [hfiles entry.1 (List.mem_map_of_mem hentry)]
  have hreports : ((reports.entries.map fun entry =>
        Task.mk (canonical entry.1) (some entry.2)).filter (·.file = file)).filterMap Task.report? =
      (reports.get? file).toList := by
    rw [← FileMap.map_snd_filter_entries, ← hentries, List.filter_map, List.filterMap_map]
    exact congrFun List.filterMap_eq_map _
  rw [lastReport?, agenda, List.filter_append, List.filterMap_append, hbare, hreports]
  cases reports.get? file <;> rfl

/-- After a run, the compiler's slot of a file that is not refused holds what is reported for it
before the first refusal. -/
theorem slots_applyRun_refusing {m : Manager} (hlive : m.disposed = false)
    (reports : Report.Reports) (file : String) (hfile : refused file = false) :
    (m.applyRun (.refusing resolves refused) reports).1.store.slots file =
      (m.store.slots file).report .textual (m.store.generation file .textual
        ((lastReport? file (acceptedTasks refused (m.agenda reports))).getD [])) := by
  have hget := (performAll_refusing resolves refused
    { m with store := m.store.removeSource .textual } (m.agenda reports) file hfile).1
  have hslots : (m.applyRun (.refusing resolves refused) reports).1.store.slots file =
      ((m.store.removeSource .textual).takeAll
        (acceptedTasks refused (m.agenda reports))).slots file := by
    rw [applyRun_eq_performAll _ hlive, Store.slots, Store.slots]
    exact congrArg (fun ds => Slots.mk (Merge.ofSource _ ds) (Merge.ofSource _ ds)) hget
  rw [hslots, Store.slots_takeAll, Store.slots_removeSource]
  cases lastReport? file (acceptedTasks refused (m.agenda reports)) <;> rfl

/-- After a run, on a board that refuses nothing, the compiler's slot of a file holds what the run
reports for it. -/
theorem slots_applyRun {m : Manager} (hlive : m.disposed = false) {reports : Report.Reports}
    (hfiles : ∀ path ∈ reports.files, canonical path = path) (file : String) :
    (m.applyRun (.willing resolves) reports).1.store.slots file =
      (m.store.slots file).report .textual
        (m.store.generation file .textual (reports.of file)) := by
  have haccepted : acceptedTasks (fun _ => false) (m.agenda reports) = m.agenda reports :=
    List.takeWhile_eq_self_iff.mpr fun _ _ => rfl
  have hslots := slots_applyRun_refusing resolves (fun _ => false) hlive reports file rfl
  rw [haccepted, lastReport?_agenda m hfiles] at hslots
  exact hslots

end Manager

end Reconcile
