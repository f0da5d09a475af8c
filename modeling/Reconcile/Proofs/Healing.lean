import Reconcile.Proofs.Coherence
import Reconcile.Proofs.Succession

/-!
# Healed problems stay healed

When the language service no longer reports a problem, the problem is healed: neither producer's
record of it is stored any longer, and none is published. It stays healed through every later event,
until one reports it anew: other policies and settings, deletions, runs and reports on other files
or other problems do not bring it back (`healed_stays_healed`).

That the problem is gone is said of the stored records, `Store.Lacks`. A generation of the language
service without the problem heals it (`Slots.lacks_report_of_healed`), and a generation of either
producer keeps it away if it does not report it (`Slots.Lacks.report`); every event comes down to
these two (`lacks_after`). What is published is among what is stored.
-/

namespace Reconcile

open Merge Report

/-! ## Slots that lack a problem -/

/-- No record is about a problem. -/
def Slots.Lacks (slots : Slots) (problem : Position × String) : Prop :=
  ∀ source, ∀ d ∈ slots.of source, d.key ≠ problem

/-- Nothing that is stored for a file is about a problem. -/
def Store.Lacks (store : Store) (file : String) (problem : Position × String) : Prop :=
  ∀ d ∈ store.get file, d.key ≠ problem

theorem Store.lacks_iff_slots {store : Store} {file : String} {problem : Position × String} :
    store.Lacks file problem ↔ (store.slots file).Lacks problem := by
  constructor
  · intro h source d hd
    exact h d (mem_slots.mp hd).1
  · intro h d hd
    exact h d.source d (mem_slots.mpr ⟨hd, rfl⟩)

namespace Slots

variable {slots : Slots} {problem : Position × String} {ds : List Diagnostic}

/-- A generation that does not report a problem keeps it away. -/
theorem Lacks.report (h : slots.Lacks problem) (source : Source)
    (hds : ∀ d ∈ ds, d.key ≠ problem) : (slots.report source ds).Lacks problem := by
  intro other d hd
  cases source with
  | textual =>
    cases other with
    | textual => exact hds d hd
    | structured => exact h .structured d hd
  | structured =>
    cases other with
    | textual => exact h .textual d (List.mem_filter.mp hd).1
    | structured => exact hds d hd

/-- A problem is healed when the language service no longer reports it. -/
theorem lacks_report_of_healed (hold : ∃ d ∈ slots.structured, d.key = problem)
    (hds : ∀ d ∈ ds, d.key ≠ problem) : (slots.report .structured ds).Lacks problem := by
  intro other d hd hkey
  cases other with
  | structured => exact hds d hd hkey
  | textual =>
    obtain ⟨old, hmem, hproblem⟩ := hold
    refine of_decide_eq_true (List.mem_filter.mp hd).2 ⟨?_, ?_⟩
    · rw [hkey, ← hproblem]
      exact List.mem_map_of_mem hmem
    · rw [hkey, List.mem_map]
      rintro ⟨e, he, heq⟩
      exact hds e he heq

end Slots

namespace Store

variable {store : Store} {file : String} {problem : Position × String}

theorem key_of_mem_generation {source : Source} {ds : List Diagnostic} {d : Diagnostic}
    (h : d ∈ store.generation file source ds) :
    ∃ e ∈ ds, d.key = (e.normalize store.normalization).key := by
  obtain ⟨e, he, rfl⟩ := List.mem_map.mp h
  exact ⟨e, he, rfl⟩

theorem Lacks.ingest (h : store.Lacks file problem) {other : String} {source : Source}
    {ds : List Diagnostic}
    (hds : other = file → ∀ d ∈ ds, (d.normalize store.normalization).key ≠ problem) :
    (store.ingest other source ds).1.Lacks file problem := by
  rw [lacks_iff_slots, slots_ingest]
  split
  next heq =>
    subst heq
    refine Slots.Lacks.report (lacks_iff_slots.mp h) source fun d hd => ?_
    obtain ⟨e, he, hkey⟩ := key_of_mem_generation hd
    exact hkey ▸ hds rfl e he
  next => exact lacks_iff_slots.mp h

theorem lacks_of_reports_eq_empty (h : store.reports = .empty) : store.Lacks file problem := by
  intro d hd
  rw [get, h] at hd
  cases hd

end Store

namespace Manager

/-! ## Events that report a problem -/

/-- An event reports a problem in a file: it submits a record of it for the file, or completes a run
that has one there. Nothing is reported to a manager that is disposed. -/
def Brings (m : Manager) (file : String) (problem : Position × String) (event : Event) : Prop :=
  m.disposed = false ∧
    match event with
    | .submit path _ ds =>
      canonical path = file ∧ ∃ d ∈ ds, (d.normalize m.store.normalization).key = problem
    | event => ∃ number reports, m.completes? event = some (number, reports) ∧
      ∃ d ∈ reports.of file, d.key = problem

variable {settings : Settings} {m : Manager} {file : String} {problem : Position × String}
variable (resolves : String → Bool)

/-- An event that does not report a problem keeps it away. -/
theorem lacks_after (hreach : (start settings).RunsFollow m) (h : m.store.Lacks file problem)
    {event : Event} (hquiet : ¬ m.Brings file problem event) :
    (m.after (.willing resolves) event).store.Lacks file problem := by
  by_cases hdisposed : m.disposed = true
  · by_cases hclear : event = .clear
    · rw [hclear]
      exact Store.lacks_of_reports_eq_empty rfl
    · obtain ⟨runs, heq⟩ := after_of_disposed (.willing resolves) hdisposed hclear
      rw [heq]
      exact h
  have hlive : m.disposed = false := by simpa using hdisposed
  apply after_cases (P := fun next => next.store.Lacks file problem)
  case runs => exact fun _ _ => h
  case applied =>
    intro number reports hcompletes
    have hslots := slots_after_of_completes resolves hlive hreach hcompletes file
    rw [← after_of_completes hcompletes, Store.lacks_iff_slots, hslots]
    refine Slots.Lacks.report (Store.lacks_iff_slots.mp h) .textual fun d hd hkey => hquiet ?_
    obtain ⟨e, he, rfl⟩ := List.mem_map.mp hd
    cases event with
    | submit path source ds => cases hcompletes
    | _ => exact ⟨hlive, number, reports, hcompletes, e, he, hkey⟩
  case submit =>
    rintro path source ds rfl
    rw [store_submit _ hlive]
    exact h.ingest fun heq d hd hkey => hquiet ⟨hlive, heq, d, hd, hkey⟩
  case deleteFile =>
    intro path
    rw [deleteFile]
    split
    next => exact h
    next =>
      intro d hd
      rw [Store.get_remove] at hd
      split at hd
      next => cases hd
      next => exact h d hd
  case reconfigureUnder =>
    intro settings policy d hd
    rw [Store.get, reports_reconfigureUnder] at hd
    exact h d hd
  case clear => exact Store.lacks_of_reports_eq_empty rfl
  case dispose =>
    intro _
    rw [dispose, if_neg hdisposed]
    exact Store.lacks_of_reports_eq_empty rfl

/-- Events none of which reports a problem keep it away. -/
theorem lacks_afterAll (hreach : (start settings).RunsFollow m) (h : m.store.Lacks file problem)
    {events : List Event}
    (hquiet : ∀ front event back, events = front ++ event :: back →
      ¬ (m.afterAll (.willing resolves) front).Brings file problem event) :
    (m.afterAll (.willing resolves) events).store.Lacks file problem := by
  induction events generalizing m with
  | nil => exact h
  | cons event events ih =>
    have hnext := lacks_after resolves hreach h (hquiet [] event events rfl)
    refine ih (hreach.trans (.after (.willing resolves) m event)) hnext ?_
    intro front later back heq
    exact hquiet (event :: front) later back (by rw [heq, List.cons_append])

/-! ## What is published -/

/-- What is published for a file is among what is stored for it. -/
theorem mem_storedFor_of_mem_publishedFor (h : Coherent m) {path : String} {d : Diagnostic}
    (hd : d ∈ m.publishedFor path) : d ∈ m.storedFor path := by
  rw [h.publishedFor_eq_merge] at hd
  exact mem_of_mem_merge hd

/-- **Healed problems stay healed.** After any history, let the language service report a file anew,
without a problem that it had there. Then no record of the problem is published for the file,
neither right then nor after any events that follow, as long as none of them reports the problem in
the file anew. -/
theorem healed_stays_healed (settings : Settings) (history later : List Event) (path : String)
    (ds : List Diagnostic) (problem : Position × String) :
    let world := Surroundings.willing resolves
    let m := (start settings).afterAll world history
    let healed := m.after world (.submit path .structured ds)
    (∃ d ∈ m.storedFor path, d.source = .structured ∧ d.key = problem) →
    (∀ d ∈ ds, (d.normalize m.store.normalization).key ≠ problem) →
    (∀ front event back, later = front ++ event :: back →
      ¬ (healed.afterAll world front).Brings (canonical path) problem event) →
    ∀ d ∈ (healed.afterAll world later).publishedFor path, d.key ≠ problem := by
  intro world m healed hstored hgone hquiet d hd
  have hlive : m.disposed = false := by
    rw [← Bool.not_eq_true]
    intro hdisposed
    obtain ⟨old, hold, -, hkey⟩ := hstored
    exact Store.lacks_of_reports_eq_empty (reports_of_disposed settings history hdisposed) old hold
      hkey
  have hhealed : healed.store.Lacks (canonical path) problem := by
    have hstore : healed.store = (m.store.ingest (canonical path) .structured ds).1 :=
      store_submit world hlive path .structured ds
    rw [hstore, Store.lacks_iff_slots, Store.slots_ingest, if_pos rfl]
    refine Slots.lacks_report_of_healed ?_ fun e he => ?_
    · obtain ⟨old, hold, hsource, hkey⟩ := hstored
      exact ⟨old, mem_ofSource.mpr ⟨hold, hsource⟩, hkey⟩
    · obtain ⟨e', he', hkey⟩ := Store.key_of_mem_generation he
      exact hkey ▸ hgone e' he'
  have hreach : (start settings).RunsFollow healed :=
    (runsFollow_afterAll world _ history).trans (.after world m _)
  have hcoherent : Coherent (healed.afterAll world later) :=
    afterAll_induction (((afterAll_induction (coherent_start settings)
      (fun _ event hm => hm.after resolves event) history)).after resolves _)
      (fun _ event hm => hm.after resolves event) later
  exact lacks_afterAll resolves hreach hhealed hquiet d
    (mem_storedFor_of_mem_publishedFor hcoherent hd)

/-- A problem of both producers is healed, and stays so when the records of both are shown and the
compiler reports another one. -/
theorem healed_stays_healed_under_another_policy :
    let boom : Diagnostic :=
      ⟨"a.swift", .point ⟨0, 0⟩, .error, "Boom", .structured, [], none⟩
    let world := Surroundings.willing fun _ => true
    let later := [.setPolicy (some .unionAll),
      Event.submit "a.swift" .textual [{ boom with message := "Other" }]]
    let m := (start .standard).afterAll world
      [.submit "a.swift" .textual [boom], .submit "a.swift" .structured [boom]]
    let healed := m.after world (.submit "a.swift" .structured [])
    (∃ d ∈ m.storedFor "a.swift", d.source = .structured ∧ d.key = boom.key) ∧
      (∀ d ∈ [], (Diagnostic.normalize m.store.normalization d).key ≠ boom.key) ∧
      (∀ front event back, later = front ++ event :: back →
        ¬ (healed.afterAll world front).Brings "a.swift" boom.key event) ∧
      ∀ d ∈ (healed.afterAll world later).publishedFor "a.swift", d.key ≠ boom.key := by
  intro boom world later m healed
  have hboom : Wording.normalize "Boom" = "Boom" := Wording.normalize_of_round (by decide +kernel)
  have hother : Wording.normalize "Other" = "Other" :=
    Wording.normalize_of_round (by decide +kernel)
  have hpath : canonical "a.swift" = "a.swift" := by decide +kernel
  have hstored : ∃ d ∈ m.storedFor "a.swift", d.source = .structured ∧ d.key = boom.key := by
    let before := (start .standard).after world (.submit "a.swift" .textual [boom])
    have hstore : m.store = (before.store.ingest (canonical "a.swift") .structured [boom]).1 :=
      store_submit world (show before.disposed = false from rfl) "a.swift" .structured [boom]
    refine ⟨before.store.normalized (canonical "a.swift") .structured boom, ?_, rfl, ?_⟩
    · rw [storedFor, hstore, Store.get_ingest, if_pos rfl]
      exact List.mem_append_right _ (List.mem_singleton_self _)
    · exact congrArg (Prod.mk _) hboom
  have hquiet : ∀ front event back, later = front ++ event :: back →
      ¬ (healed.afterAll world front).Brings "a.swift" boom.key event := by
    intro front event back heq hbrings
    have hmem : event ∈ later := heq ▸ List.mem_append_right front (List.mem_cons_self ..)
    rcases List.mem_cons.mp hmem with rfl | hmem
    · obtain ⟨-, number, reports, hcompletes, -⟩ := hbrings
      cases hcompletes
    · obtain rfl := List.mem_singleton.mp hmem
      obtain ⟨-, -, d, hd, hkey⟩ := hbrings
      obtain rfl := List.mem_singleton.mp hd
      have hmessage : Wording.normalize "Other" = "Boom" := congrArg Prod.snd hkey
      rw [hother] at hmessage
      revert hmessage
      decide
  refine ⟨hstored, by simp, hquiet, ?_⟩
  exact healed_stays_healed (fun _ => true) .standard _ later "a.swift" [] boom.key hstored
    (by simp) (by rw [hpath]; exact hquiet)

end Manager

end Reconcile
