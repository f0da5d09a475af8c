import Reconcile.Proofs.Drafts
import Reconcile.Proofs.Frames

/-!
# Where the runs of a manager come from

A manager keeps every run that was begun under its number. No event loses a run, exchanges two of
them, or reads one against another setup: what stands under a number later has evolved from what
stood there before, or from the start of a run (`runsFollow_afterAll`). So all a run can report in a
manager it can report alone (`RunsFollow.sound`), and a run that has ended stays as it is
(`RunsFollow.run?_of_isFinished`).

A manager can give up every run that is still being read: all of these are active, and none is left
once it is disposed (`attended_afterAll`). So no run completes after that
(`Attended.not_disposed_of_completes`).
-/

namespace Reconcile.Manager

open Report

/-- The runs of a manager follow those of another: under every number stands what the run there has
evolved into, and under a new number what a run can evolve into from its start. -/
structure RunsFollow (m next : Manager) : Prop where
  kept : ∀ (number : Nat) (managed : ManagedRun), m.runs[number]? = some managed →
    ∃ run, next.runs[number]? = some { managed with run } ∧ managed.run.Evolves managed.setup run
  begun : ∀ (number : Nat) (managed : ManagedRun), m.runs[number]? = none →
    next.runs[number]? = some managed → Run.start.Evolves managed.setup managed.run

variable {m next last : Manager}

theorem RunsFollow.of_eq (h : next.runs = m.runs) : m.RunsFollow next where
  kept number managed hmanaged := ⟨managed.run, by rw [h]; exact hmanaged, .refl⟩
  begun number managed hnone hmanaged := by
    rw [h, hnone] at hmanaged
    cases hmanaged

theorem RunsFollow.trans (h : m.RunsFollow next) (hlast : next.RunsFollow last) :
    m.RunsFollow last where
  kept number managed hmanaged := by
    obtain ⟨run, hrun, hevolves⟩ := h.kept number managed hmanaged
    obtain ⟨run', hrun', hevolves'⟩ := hlast.kept number _ hrun
    exact ⟨run', hrun', hevolves.trans hevolves'⟩
  begun number managed hnone hmanaged := by
    cases hnext : next.runs[number]? with
    | none => exact hlast.begun number managed hnext hmanaged
    | some mid =>
      have hevolves := h.begun number mid hnone hnext
      obtain ⟨run, hrun, hevolves'⟩ := hlast.kept number mid hnext
      rw [hmanaged] at hrun
      cases hrun
      exact hevolves.trans hevolves'

/-- The runs follow when one of them is carried on. -/
theorem RunsFollow.withRun {number : Nat} {managed : ManagedRun} {run : Run}
    (hmanaged : m.runs[number]? = some managed) (h : managed.run.Evolves managed.setup run) :
    m.RunsFollow (m.withRun number run) where
  kept other managed' hmanaged' := by
    rw [Manager.withRun, List.getElem?_modify, hmanaged']
    by_cases heq : number = other
    · subst heq
      obtain rfl : managed = managed' := Option.some.inj (hmanaged.symm.trans hmanaged')
      exact ⟨run, by simp, h⟩
    · exact ⟨managed'.run, by simp [heq], .refl⟩
  begun other managed' hnone hmanaged' := by
    rw [Manager.withRun, List.getElem?_modify, hnone] at hmanaged'
    cases hmanaged'

theorem RunsFollow.abandon (m : Manager) (number : Nat) : m.RunsFollow (m.abandon number) := by
  rw [Manager.abandon]
  split
  next => exact .of_eq rfl
  next managed hmanaged => exact .withRun hmanaged (.abandon .refl)

theorem RunsFollow.foldl_abandon (numbers : List Nat) (m : Manager) :
    m.RunsFollow (numbers.foldl Manager.abandon m) := by
  induction numbers generalizing m with
  | nil => exact .of_eq rfl
  | cons number numbers ih => exact (RunsFollow.abandon m number).trans (ih _)

/-- Applying the reports of a run is no concern of the runs. -/
theorem advance_frame (world : Surroundings) (m : Manager) (number : Nat) (before after : Run) :
    ∃ store published board, m.advance world number before after =
      { m.withRun number after with store, published, board } := by
  rw [advance]
  split
  next reports _ =>
    obtain ⟨_, published, board, heq⟩ := applyRun_frame world (m.withRun number after) reports
    exact ⟨_, published, board, heq⟩
  next => exact ⟨_, _, _, rfl⟩

theorem RunsFollow.advance {world : Surroundings} {number : Nat} {managed : ManagedRun}
    {before after : Run} (hmanaged : m.runs[number]? = some managed)
    (h : managed.run.Evolves managed.setup after) :
    m.RunsFollow (m.advance world number before after) := by
  obtain ⟨_, _, _, heq⟩ := advance_frame world m number before after
  rw [heq]
  exact (RunsFollow.withRun hmanaged h).trans (.of_eq rfl)

theorem RunsFollow.beginRun (world : Surroundings) (m : Manager) :
    m.RunsFollow (m.beginRun world).1 := by
  have hbegun : ∀ setup active, m.RunsFollow
      { m with runs := m.runs ++ [⟨setup, .start⟩], active } := by
    intro setup active
    refine ⟨?_, ?_⟩
    · intro number managed hmanaged
      refine ⟨managed.run, ?_, .refl⟩
      exact (List.getElem?_append_left (List.getElem?_eq_some_iff.mp hmanaged).1).trans hmanaged
    · intro number managed hnone hmanaged
      have hle : m.runs.length ≤ number := List.getElem?_eq_none_iff.mp hnone
      have hmem := (List.getElem?_append_right hle).symm.trans hmanaged
      obtain rfl := List.mem_singleton.mp (List.mem_of_getElem? hmem)
      exact .refl
  rw [Manager.beginRun]
  repeat' split
  all_goals first | exact .of_eq rfl | exact hbegun _ _

theorem RunsFollow.after (world : Surroundings) (m : Manager) (event : Event) :
    m.RunsFollow (m.after world event) := by
  by_cases hrun : event.isOfRun = false ∧ event ≠ .dispose
  · obtain ⟨_, _, _, _, _, heq⟩ := after_frame world m hrun.1 hrun.2
    exact .of_eq (by rw [heq])
  cases event with
  | beginRun => exact .beginRun world m
  | feed number chunk =>
    rw [Manager.after, feed]
    split
    next => exact .of_eq rfl
    next managed hmanaged => exact .advance hmanaged (.feed chunk .refl)
  | close number =>
    rw [Manager.after, close]
    split
    next => exact .of_eq rfl
    next managed hmanaged => exact .advance hmanaged (.close .refl)
  | abandon number => exact .abandon m number
  | dispose =>
    rw [Manager.after, dispose]
    split
    next => exact .of_eq rfl
    next => exact (RunsFollow.foldl_abandon m.active m).trans (.of_eq rfl)
  | _ => exact absurd ⟨rfl, by simp⟩ hrun

/-- The runs of a manager after a history follow those before it. -/
theorem runsFollow_afterAll (world : Surroundings) (m : Manager) (events : List Event) :
    m.RunsFollow (m.afterAll world events) :=
  afterAll_induction (.of_eq rfl) (fun next event h => h.trans (.after world next event)) events

/-- What a complete run of a manager reports are drafts under their own files. -/
theorem RunsFollow.sound {settings : Settings} (h : (start settings).RunsFollow m) {number : Nat}
    {reports : Reports} (hrun : m.run? number = some (.completed reports)) : reports.Sound := by
  obtain ⟨managed, hmanaged, hcompleted⟩ := Option.map_eq_some_iff.mp hrun
  have hsound := (h.begun number managed rfl hmanaged).sound
  rw [hcompleted] at hsound
  exact hsound

/-- A run that has ended stays as it is. -/
theorem RunsFollow.run?_of_isFinished (h : m.RunsFollow next) {number : Nat} {run : Run}
    (hrun : m.run? number = some run) (hfinished : run.isFinished = true) :
    next.run? number = some run := by
  obtain ⟨managed, hmanaged, rfl⟩ := Option.map_eq_some_iff.mp hrun
  obtain ⟨later, hlater, hevolves⟩ := h.kept number managed hmanaged
  rw [run?, hlater, hevolves.eq_of_isFinished hfinished]
  rfl

/-! ## Runs that are still being read -/

theorem isUnfinished_iff {number : Nat} :
    m.isUnfinished number = true ↔ ∃ run, m.run? number = some run ∧ run.isFinished = false := by
  rw [isUnfinished, Option.any_eq_true]
  simp only [Bool.not_eq_true']

theorem RunsFollow.isUnfinished (h : m.RunsFollow next) (hlength : next.runs.length = m.runs.length)
    {number : Nat} (hnext : next.isUnfinished number = true) : m.isUnfinished number = true := by
  obtain ⟨later, hlater, hreading⟩ := isUnfinished_iff.mp hnext
  obtain ⟨managed', hmanaged', -⟩ := Option.map_eq_some_iff.mp hlater
  have hlt : number < m.runs.length := hlength ▸ (List.getElem?_eq_some_iff.mp hmanaged').1
  have hrun : m.run? number = some m.runs[number].run := by
    rw [run?, List.getElem?_eq_getElem hlt]
    rfl
  refine isUnfinished_iff.mpr ⟨_, hrun, ?_⟩
  rw [← Bool.not_eq_true]
  intro hfinished
  rw [h.run?_of_isFinished hrun hfinished] at hlater
  obtain rfl := Option.some.inj hlater
  rw [hreading] at hfinished
  cases hfinished

/-- Every run that is still being read is active, and a manager that is disposed has none. -/
structure Attended (m : Manager) : Prop where
  active : ∀ number, m.isUnfinished number = true → number ∈ m.active
  disposed : m.disposed = true → m.active = []

theorem attended_start (settings : Settings) : Attended (start settings) where
  active number h := by cases h
  disposed _ := rfl

/-- Runs that are only carried on need no new attention. -/
theorem Attended.of_follow (h : Attended m) (hfollow : m.RunsFollow next)
    (hlength : next.runs.length = m.runs.length) (hactive : next.active = m.active)
    (hdisposed : next.disposed = m.disposed) : Attended next where
  active number hnext := hactive ▸ h.active number (hfollow.isUnfinished hlength hnext)
  disposed hnext := hactive ▸ h.disposed (hdisposed ▸ hnext)

theorem length_runs_abandon (m : Manager) (number : Nat) :
    (m.abandon number).runs.length = m.runs.length := by
  rw [abandon]
  split
  next => rfl
  next => exact List.length_modify ..

theorem length_runs_foldl_abandon (numbers : List Nat) (m : Manager) :
    (numbers.foldl abandon m).runs.length = m.runs.length := by
  induction numbers generalizing m with
  | nil => rfl
  | cons number numbers ih => exact (ih _).trans (length_runs_abandon m number)

theorem run?_abandon_of_reading {number : Nat} (h : m.isUnfinished number = true) :
    (m.abandon number).run? number = some .abandoned := by
  obtain ⟨run, hrun, hreading⟩ := isUnfinished_iff.mp h
  obtain ⟨managed, hmanaged, rfl⟩ := Option.map_eq_some_iff.mp hrun
  rw [abandon, hmanaged]
  refine (run?_withRun hrun).trans ?_
  cases hrun' : managed.run with
  | reading unfinished progress => rfl
  | completed reports => rw [hrun'] at hreading; cases hreading
  | abandoned => rfl

theorem run?_abandon_of_ne {number other : Nat} (h : other ≠ number) (m : Manager) :
    (m.abandon other).run? number = m.run? number := by
  rw [abandon]
  split
  next => rfl
  next managed _ =>
    rw [run?, withRun, List.getElem?_modify]
    simp only [if_neg h, Option.map_eq_map, Option.map_id', run?]

/-- Giving up runs, those that are still being read among them are abandoned. -/
theorem run?_foldl_abandon {numbers : List Nat} {number : Nat} (hmem : number ∈ numbers)
    (h : m.isUnfinished number = true) :
    (numbers.foldl abandon m).run? number = some .abandoned := by
  induction numbers generalizing m with
  | nil => cases hmem
  | cons first numbers ih =>
    by_cases heq : first = number
    · subst heq
      -- what is given up again stays as it is
      exact (RunsFollow.foldl_abandon numbers _).run?_of_isFinished (run?_abandon_of_reading h) rfl
    · have hrest := (List.mem_cons.mp hmem).resolve_left (Ne.symm heq)
      refine ih hrest ?_
      rw [isUnfinished, run?_abandon_of_ne heq]
      exact h

theorem Attended.dispose (h : Attended m) : Attended m.dispose := by
  rw [Manager.dispose]
  split
  next => exact h
  next =>
    refine ⟨fun number hunfinished => ?_, fun _ => rfl⟩
    have hended : (m.active.foldl abandon m).isUnfinished number = true := hunfinished
    have hbefore := (RunsFollow.foldl_abandon m.active m).isUnfinished
      (length_runs_foldl_abandon m.active m) hended
    rw [isUnfinished, run?_foldl_abandon (h.active number hbefore) hbefore] at hended
    cases hended

theorem Attended.beginRun (h : Attended m) (world : Surroundings) :
    Attended (m.beginRun world).1 := by
  rw [Manager.beginRun]
  split
  next => exact h
  next hlive =>
    split
    next => exact h
    next =>
      split
      next => exact h
      next =>
        split
        next => exact h
        next setup _ =>
          refine ⟨fun number hunfinished => ?_, fun hdisposed => absurd hdisposed hlive⟩
          obtain ⟨run, hrun, hreading⟩ := isUnfinished_iff.mp hunfinished
          by_cases hlt : number < m.runs.length
          · have hold : m.run? number = some run := by
              rw [run?, ← List.getElem?_append_left hlt]
              exact hrun
            have hunfinished := isUnfinished_iff.mpr ⟨run, hold, hreading⟩
            exact List.mem_append_left _
              (List.mem_filter.mpr ⟨h.active number hunfinished, hunfinished⟩)
          · obtain ⟨managed, hmanaged, -⟩ := Option.map_eq_some_iff.mp hrun
            have hbound := (List.getElem?_eq_some_iff.mp hmanaged).1
            rw [List.length_append, List.length_singleton] at hbound
            obtain rfl : number = m.runs.length := by omega
            exact List.mem_append_right _ (List.mem_singleton_self _)

theorem Attended.advance (h : Attended m) {world : Surroundings} {number : Nat}
    {managed : ManagedRun} {before after : Run} (hmanaged : m.runs[number]? = some managed)
    (hevolves : managed.run.Evolves managed.setup after) :
    Attended (m.advance world number before after) := by
  have hfollow : m.RunsFollow (m.advance world number before after) := .advance hmanaged hevolves
  obtain ⟨_, _, _, heq⟩ := advance_frame world m number before after
  rw [heq] at hfollow ⊢
  exact h.of_follow hfollow (List.length_modify ..) rfl rfl

/-- Every event keeps the runs attended. -/
theorem Attended.after (h : Attended m) (world : Surroundings) (event : Event) :
    Attended (m.after world event) := by
  have hfollow := RunsFollow.after world m event
  by_cases hrun : event.isOfRun = false ∧ event ≠ .dispose
  · obtain ⟨_, _, _, _, _, heq⟩ := after_frame world m hrun.1 hrun.2
    rw [heq] at hfollow ⊢
    exact h.of_follow hfollow rfl rfl rfl
  cases event with
  | beginRun => exact h.beginRun world
  | feed number chunk =>
    rw [Manager.after, feed]
    split
    next => exact h
    next managed hmanaged => exact h.advance hmanaged (.feed chunk .refl)
  | close number =>
    rw [Manager.after, close]
    split
    next => exact h
    next managed hmanaged => exact h.advance hmanaged (.close .refl)
  | abandon number =>
    refine h.of_follow hfollow (length_runs_abandon m number) ?_ ?_
    all_goals
      rw [Manager.after, abandon]
      split <;> rfl
  | dispose => exact h.dispose
  | _ => exact absurd ⟨rfl, by simp⟩ hrun

theorem attended_afterAll (world : Surroundings) (settings : Settings) (events : List Event) :
    Attended ((start settings).afterAll world events) :=
  afterAll_induction (attended_start settings) (fun _ event h => h.after world event) events

theorem Attended.isUnfinished_of_disposed (h : Attended m) (hdisposed : m.disposed = true)
    (number : Nat) : m.isUnfinished number = false := by
  rw [← Bool.not_eq_true]
  intro hunfinished
  have hactive := h.active number hunfinished
  rw [h.disposed hdisposed] at hactive
  cases hactive

/-- No run completes once a manager is disposed. -/
theorem Attended.not_disposed_of_completes (h : Attended m) {event : Event} {number : Nat}
    {reports : Reports} (hcompletes : m.completes? event = some (number, reports)) :
    m.disposed = false := by
  obtain ⟨before, hreading, hstep⟩ := completes?_eq_some_iff.mp hcompletes
  have hunfinished := isUnfinished_iff.mpr ⟨before, run?_of_runStep hstep, hreading⟩
  rw [← Bool.not_eq_true]
  intro hdisposed
  rw [h.isUnfinished_of_disposed hdisposed number] at hunfinished
  cases hunfinished

end Reconcile.Manager
