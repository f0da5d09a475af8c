import Mathlib.Data.List.Induction
import Reconcile.Proofs.Agenda
import Reconcile.Proofs.Lineage

/-!
# The last complete run wins

Several runs may be open at once, and be fed, ended and given up in any order. What they come to is
nevertheless simple: the compiler's records are those of the run that completed last, and no event
of a run touches the records of the language service (`last_run_wins`).

One event of a run either completes none and leaves the store as it is, or completes one, whose
reports replace all of the compiler's records (`slots_after_of_completes`). Nothing of an earlier
run is left, since every file is stripped first, and nothing of the run is lost, since no two of its
paths name the same file. So of many completions the last one counts (`slots_afterAll_runs`).
-/

namespace Reconcile

open Merge Report

/-- What the compiler reports is stored as it is, but for repeated notes. -/
theorem Store.generation_of_sound (store : Store) {reports : Reports} (h : reports.Sound)
    (file : String) :
    store.generation file .textual (reports.of file) =
      (reports.of file).map Diagnostic.withDistinctNotes := by
  rw [generation]
  refine List.map_congr_left fun d hd => ?_
  obtain ⟨hfile, hdraft⟩ := h.drafts file d hd
  rw [normalized, Diagnostic.normalize_of_isDraft hdraft, ← hfile, ← hdraft.source]
  rfl

namespace Manager

/-! ## The last completion -/

/-- The run that completes last in the course of events, with its reports. -/
def lastCompletion (world : Surroundings) (m : Manager) : List Event → Option (Nat × Reports)
  | [] => none
  | event :: events => ((m.after world event).lastCompletion world events).or (m.completes? event)

theorem afterAll_concat (world : Surroundings) (m : Manager) (events : List Event)
    (event : Event) :
    m.afterAll world (events ++ [event]) = (m.afterAll world events).after world event :=
  List.foldl_concat ..

/-- A completion takes precedence over those before it. -/
theorem lastCompletion_concat (world : Surroundings) (m : Manager) (events : List Event)
    (event : Event) :
    m.lastCompletion world (events ++ [event]) =
      ((m.afterAll world events).completes? event).or (m.lastCompletion world events) := by
  induction events generalizing m with
  | nil => exact Option.none_or.trans Option.or_none.symm
  | cons first events ih =>
    rw [List.cons_append, lastCompletion, ih, lastCompletion, Option.or_assoc]
    rfl

/-- The run that completed last is complete. -/
theorem run?_of_lastCompletion {world : Surroundings} {m : Manager} {events : List Event}
    {number : Nat} {reports : Reports}
    (h : m.lastCompletion world events = some (number, reports)) :
    (m.afterAll world events).run? number = some (.completed reports) := by
  induction events using List.reverseRecOn with
  | nil => cases h
  | append_singleton events event ih =>
    rw [lastCompletion_concat] at h
    rw [afterAll_concat]
    cases hcompletes : (m.afterAll world events).completes? event with
    | none =>
      rw [hcompletes, Option.none_or] at h
      exact (RunsFollow.after world _ event).run?_of_isFinished (ih h) rfl
    | some completion =>
      rw [hcompletes, Option.some_or] at h
      exact run?_after_of_completes (hcompletes.trans h)

/-! ## Events of runs -/

variable {settings : Settings} {m : Manager} {event : Event} {events : List Event}

/-- An event of a run that completes none leaves the store as it is. -/
theorem store_after_of_not_completes (world : Surroundings) (hrun : event.isOfRun = true)
    (h : m.completes? event = none) : (m.after world event).store = m.store := by
  obtain ⟨runs, active, heq⟩ := after_of_not_completes world hrun h
  rw [heq]

theorem disposed_afterAll_runs (world : Surroundings)
    (hruns : ∀ event ∈ events, event.isOfRun = true) :
    (m.afterAll world events).disposed = m.disposed := by
  induction events generalizing m with
  | nil => rfl
  | cons event events ih =>
    rw [List.forall_mem_cons] at hruns
    refine (ih hruns.2).trans (disposed_after ?_)
    rintro rfl
    cases hruns.1

variable (resolves : String → Bool)

/-- A completion replaces the compiler's records of every file by what the run reports there. -/
theorem slots_after_of_completes (hlive : m.disposed = false)
    (hreach : (start settings).RunsFollow m) {number : Nat} {reports : Reports}
    (h : m.completes? event = some (number, reports)) (file : String) :
    (m.after (.willing resolves) event).store.slots file =
      (m.store.slots file).report .textual
        ((reports.of file).map Diagnostic.withDistinctNotes) := by
  have hsound : reports.Sound :=
    (hreach.trans (.after (.willing resolves) m event)).sound (run?_after_of_completes h)
  have hlive' : (m.withRun number (.completed reports)).disposed = false := hlive
  rw [after_of_completes h, slots_applyRun resolves hlive' hsound.files]
  exact congrArg _ (Store.generation_of_sound _ hsound file)

/-- The slots of a file after events of runs. -/
theorem slots_afterAll_runs (hlive : m.disposed = false) (hreach : (start settings).RunsFollow m)
    (hruns : ∀ event ∈ events, event.isOfRun = true) (file : String) :
    (m.afterAll (.willing resolves) events).store.slots file =
      match m.lastCompletion (.willing resolves) events with
      | none => m.store.slots file
      | some (_, reports) =>
        (m.store.slots file).report .textual
          ((reports.of file).map Diagnostic.withDistinctNotes) := by
  induction events using List.reverseRecOn with
  | nil => rfl
  | append_singleton events event ih =>
    rw [List.forall_mem_append] at hruns
    have hfront := ih hruns.1
    rw [afterAll_concat, lastCompletion_concat]
    cases hcompletes : (m.afterAll (.willing resolves) events).completes? event with
    | none =>
      rw [store_after_of_not_completes _ (hruns.2 event (List.mem_singleton_self _)) hcompletes,
        Option.none_or]
      exact hfront
    | some completion =>
      rw [slots_after_of_completes resolves
        ((disposed_afterAll_runs (.willing resolves) hruns.1).trans hlive)
        (hreach.trans (runsFollow_afterAll _ m events)) hcompletes, hfront, Option.some_or]
      -- a second generation of the compiler leaves nothing of the first
      cases m.lastCompletion (.willing resolves) events <;> rfl

/-- **The last complete run wins.** In a manager that is not disposed, let runs be begun, fed, ended
and given up in any order. If one of them completed, then the one that completed last is complete
with its reports, and for every file the compiler's records are what it reported there, in order,
but for repeated notes. If none completed, the compiler's records are what they were. So a run that
is unfinished or given up contributes nothing; giving up a run, or feeding it what it cannot read,
changes nothing that is stored; and the records of the language service are what they were. -/
theorem last_run_wins (world : Surroundings) (history steps : List Event)
    (hlive : ((start settings).afterAll world history).disposed = false)
    (hruns : ∀ event ∈ steps, event.isOfRun = true) :
    let m := (start settings).afterAll world history
    let later := m.afterAll (.willing resolves) steps
    (match m.lastCompletion (.willing resolves) steps with
      | none => ∀ file,
        ofSource .textual (later.store.get file) = ofSource .textual (m.store.get file)
      | some (number, reports) =>
        later.run? number = some (.completed reports) ∧ ∀ file,
          ofSource .textual (later.store.get file) =
            (reports.of file).map fun d => { d with notes := distinctNotes d.notes }) ∧
      (∀ file, ofSource .structured (later.store.get file) =
        ofSource .structured (m.store.get file)) ∧
      (∀ number, (later.abandon number).store = later.store) ∧
      ∀ number chunk fault, (later.feed (.willing resolves) number chunk).2 = some fault →
        (later.feed (.willing resolves) number chunk).1.store = later.store := by
  intro m later
  have hslots := slots_afterAll_runs resolves hlive (runsFollow_afterAll world _ history) hruns
  refine ⟨?_, ?_, ?_, ?_⟩
  · cases hlast : m.lastCompletion (.willing resolves) steps with
    | none =>
      intro file
      have h := hslots file
      rw [hlast] at h
      exact congrArg Slots.textual h
    | some completion =>
      refine ⟨run?_of_lastCompletion hlast, fun file => ?_⟩
      have h := hslots file
      rw [hlast] at h
      exact congrArg Slots.textual h
  · intro file
    have h := congrArg Slots.structured (hslots file)
    refine h.trans ?_
    split <;> rfl
  · intro number
    exact store_after_of_not_completes (.willing resolves)
      (show (Event.abandon number).isOfRun = true from rfl) rfl
  · intro number chunk fault hfault
    exact store_after_of_not_completes (.willing resolves)
      (show (Event.feed number chunk).isOfRun = true from rfl) (completes?_feed_of_fault hfault)

/-- Of two runs that are open at once, the one that was begun first and is closed last wins. -/
theorem last_run_wins_of_two :
    let world := Surroundings.willing fun _ => true
    let m := (start { Settings.standard with markers := [] }).afterAll world [.beginRun, .beginRun]
    let steps := [.feed 0 "a.swift:1: error: lost\n", .feed 1 "b.swift:1: error: lost\n",
      Event.close 1, Event.close 0]
    let later := m.afterAll world steps
    m.disposed = false ∧ (∀ event ∈ steps, event.isOfRun = true) ∧
      ∃ reports, later.run? 0 = some (.completed reports) ∧ reports.files = ["a.swift"] ∧
        ∀ file, ofSource .textual (later.store.get file) =
          (reports.of file).map fun d => { d with notes := distinctNotes d.notes } := by
  intro world m steps later
  have hlive : m.disposed = false := disposed_afterAll_runs world (by decide)
  have hruns : ∀ event ∈ steps, event.isOfRun = true := by decide
  have hcompletion : (m.lastCompletion world steps).map (fun last => (last.1, last.2.files)) =
      some (0, ["a.swift"]) := by decide +kernel
  obtain ⟨⟨number, reports⟩, hlast, heq⟩ := Option.map_eq_some_iff.mp hcompletion
  obtain ⟨rfl, hfiles⟩ := Prod.mk.inj heq
  have hwins := (last_run_wins (fun _ => true) world [.beginRun, .beginRun] steps hlive hruns).1
  rw [hlast] at hwins
  exact ⟨hlive, hruns, reports, hwins.1, hfiles, hwins.2⟩

end Manager

end Reconcile
