import Reconcile.Proofs.History

/-!
# What events leave alone

An event changes some parts of a manager and leaves the others as they are. This file says which, on
any board:

* publishing and submitting touch the records that are stored, published and shown, and nothing else
  (`publishAll_frame`, `submitAll_frame`, `applyRun_frame`); other settings touch these and the
  settings (`reconfigureUnder_frame`);
* an event of a run that completes none touches the runs and nothing else
  (`after_of_not_completes`), and one that completes a run applies its reports
  (`after_of_completes`); what any event can do is listed in `after_cases`;
* only disposal ends a manager (`disposed_after`), and it ends it for good (`disposed_afterAll`);
  from then on every event but clearing is ignored (`after_of_disposed`), and nothing is stored or
  published (`empty_of_disposed`).
-/

namespace Reconcile

theorem Report.Run.announced?_eq_some_iff {before after : Report.Run} {reports : Report.Reports} :
    announced? before after = some reports ↔
      before.isFinished = false ∧ after = .completed reports := by
  rw [announced?]
  cases before with
  | completed _ => simp [isFinished]
  | abandoned => simp [isFinished]
  | reading unfinished progress =>
    cases after with
    | completed _ => simp [isFinished, reports?]
    | abandoned => simp [isFinished, reports?]
    | reading _ _ => simp [isFinished, reports?]

/-- A run that cannot read a line goes on. -/
theorem Report.Run.reports?_feed_of_fault {setup : Report.Setup} {chunk : String}
    {run : Report.Run} {fault : Report.LineFault} (h : (run.feed setup chunk).2 = some fault) :
    (run.feed setup chunk).1.reports? = none := by
  cases run with
  | completed reports => cases h
  | abandoned => cases h
  | reading unfinished progress =>
    rw [feed] at h ⊢
    split at h
    next => cases h
    next => cases h
    next => rfl

/-- Whether a run is begun, fed, ended or given up by an event. -/
def Event.isOfRun : Event → Bool
  | beginRun => true
  | feed .. => true
  | close _ => true
  | abandon _ => true
  | _ => false

namespace Manager

variable (world : Surroundings)

/-! ## Publishing -/

theorem publish_frame (m : Manager) (file : String) :
    ∃ published board, (m.publish world file).1 = { m with published, board } := by
  rw [publish]
  dsimp only
  split
  next => exact ⟨_, _, rfl⟩
  next => exact ⟨_, _, rfl⟩

theorem publishAll_frame (m : Manager) (files : List String) :
    ∃ published board, (m.publishAll world files).1 = { m with published, board } := by
  refine publishAll_induction
    (P := fun next => ∃ published board, next = { m with published, board })
    ⟨m.published, m.board, rfl⟩ ?_
  rintro _ ⟨published, board, rfl⟩ file -
  obtain ⟨published', board', hpublish⟩ := publish_frame world { m with published, board } file
  exact ⟨published', board', hpublish⟩

theorem submit_frame (m : Manager) (file : String) (source : Source) (ds : List Diagnostic) :
    ∃ reports published board,
      (m.submit world file source ds).1 =
        { m with store := { m.store with reports }, published, board } := by
  rw [submit]
  split
  next => exact ⟨m.store.reports, m.published, m.board, rfl⟩
  next =>
    obtain ⟨published, board, heq⟩ := publish_frame world
      { m with store := (m.store.ingest (canonical file) source ds).1 } (canonical file)
    exact ⟨_, published, board, heq⟩

/-- What is submitted is stored, whether or not it can be shown. -/
theorem store_submit {m : Manager} (hlive : m.disposed = false) (path : String) (source : Source)
    (ds : List Diagnostic) :
    (m.submit world path source ds).1.store = (m.store.ingest (canonical path) source ds).1 := by
  obtain ⟨published, board, heq⟩ := publish_frame world
    { m with store := (m.store.ingest (canonical path) source ds).1 } (canonical path)
  rw [submit, if_neg (by rw [hlive]; decide)]
  dsimp only
  rw [heq]

theorem submitAll_frame (m : Manager) (entries : List (String × List Diagnostic)) :
    ∃ reports published board,
      (m.submitAll world entries).1 =
        { m with store := { m.store with reports }, published, board } := by
  refine submitAll_induction
    (P := fun next => ∃ reports published board,
      next = { m with store := { m.store with reports }, published, board })
    ⟨m.store.reports, m.published, m.board, rfl⟩ ?_ entries
  rintro _ ⟨reports, published, board, rfl⟩ path ds
  obtain ⟨reports', published', board', hsubmit⟩ := submit_frame world
    { m with store := { m.store with reports }, published, board } path .textual ds
  exact ⟨reports', published', board', hsubmit⟩

theorem applyRun_frame (m : Manager) (run : Report.Reports) :
    ∃ reports published board,
      (m.applyRun world run).1 =
        { m with store := { m.store with reports }, published, board } := by
  rw [applyRun]
  split
  next => exact ⟨m.store.reports, m.published, m.board, rfl⟩
  next =>
    dsimp only
    obtain ⟨published, board, hstripped⟩ := publishAll_frame world
      { m with store := m.store.removeSource .textual } (m.store.removeSource .textual).files
    split
    next next heq =>
      rw [heq] at hstripped
      obtain rfl : next = _ := hstripped
      exact submitAll_frame world _ run.entries
    next => exact ⟨_, published, board, hstripped⟩

theorem reconfigureUnder_frame (m : Manager) (newSettings : Settings)
    (newPolicy : Option Policy) :
    ∃ settings policy store published board,
      (m.reconfigureUnder world newSettings newPolicy).1 =
        { m with settings, policy, store, published, board } := by
  rw [reconfigureUnder]
  split
  next => exact ⟨m.settings, m.policy, m.store, m.published, m.board, rfl⟩
  next =>
    obtain ⟨published, board, heq⟩ :=
      publishAll_frame world (m.under newSettings newPolicy) m.store.files
    exact ⟨newSettings, newPolicy, _, published, board, heq⟩

/-! ## Events of runs -/

/-- The run that an event feeds or ends, by its number, with the run before and after. -/
def runStep? (m : Manager) : Event → Option (Nat × Report.Run × Report.Run)
  | .feed number chunk =>
    m.runs[number]?.map fun managed =>
      (number, managed.run, (managed.run.feed managed.setup chunk).1)
  | .close number => m.runs[number]?.map fun managed => (number, managed.run, managed.run.close)
  | _ => none

/-- The number and the reports of the run that an event completes, if it completes one. -/
def completes? (m : Manager) (event : Event) : Option (Nat × Report.Reports) :=
  (m.runStep? event).bind fun (number, before, after) =>
    (Report.Run.announced? before after).map (number, ·)

variable {world} {m : Manager} {event : Event}

/-- A run takes a step when it is fed or ended. -/
theorem runStep?_eq_some {number : Nat} {before after : Report.Run}
    (h : m.runStep? event = some (number, before, after)) :
    ∃ setup, m.runs[number]? = some ⟨setup, before⟩ ∧
      ((∃ chunk, event = .feed number chunk ∧ after = (before.feed setup chunk).1) ∨
        event = .close number ∧ after = before.close) := by
  cases event with
  | feed number' chunk =>
    obtain ⟨managed, hmanaged, heq⟩ := Option.map_eq_some_iff.mp h
    cases heq
    exact ⟨managed.setup, hmanaged, Or.inl ⟨chunk, rfl, rfl⟩⟩
  | close number' =>
    obtain ⟨managed, hmanaged, heq⟩ := Option.map_eq_some_iff.mp h
    cases heq
    exact ⟨managed.setup, hmanaged, Or.inr ⟨rfl, rfl⟩⟩
  | _ => cases h

theorem after_of_runStep {number : Nat} {before after : Report.Run}
    (h : m.runStep? event = some (number, before, after)) :
    m.after world event = m.advance world number before after := by
  obtain ⟨setup, hruns, ⟨chunk, rfl, rfl⟩ | ⟨rfl, rfl⟩⟩ := runStep?_eq_some h
  · rw [Manager.after, feed, hruns]
  · rw [Manager.after, close, hruns]

theorem run?_of_runStep {number : Nat} {before after : Report.Run}
    (h : m.runStep? event = some (number, before, after)) : m.run? number = some before := by
  obtain ⟨setup, hruns, -⟩ := runStep?_eq_some h
  rw [run?, hruns]
  rfl

theorem completes?_eq_some_iff {number : Nat} {reports : Report.Reports} :
    m.completes? event = some (number, reports) ↔
      ∃ before, before.isFinished = false ∧
        m.runStep? event = some (number, before, .completed reports) := by
  rw [completes?, Option.bind_eq_some_iff]
  constructor
  · rintro ⟨⟨number', before, after⟩, hstep, hmap⟩
    obtain ⟨reports', hannounced, heq⟩ := Option.map_eq_some_iff.mp hmap
    obtain ⟨hbefore, hafter⟩ := Report.Run.announced?_eq_some_iff.mp hannounced
    cases heq
    subst hafter
    exact ⟨before, hbefore, hstep⟩
  · rintro ⟨before, hbefore, hstep⟩
    exact ⟨_, hstep, Option.map_eq_some_iff.mpr
      ⟨reports, Report.Run.announced?_eq_some_iff.mpr ⟨hbefore, rfl⟩, rfl⟩⟩

theorem run?_withRun {number : Nat} {before after : Report.Run} (h : m.run? number = some before) :
    (m.withRun number after).run? number = some after := by
  obtain ⟨managed, hmanaged, -⟩ := Option.map_eq_some_iff.mp h
  rw [run?, withRun, List.getElem?_modify, hmanaged]
  show some (if number = number then { managed with run := after } else managed).run = some after
  rw [if_pos rfl]

/-- A chunk with a line that cannot be read completes no run. -/
theorem completes?_feed_of_fault {number : Nat} {chunk : String} {fault : Report.LineFault}
    (h : (m.feed world number chunk).2 = some fault) :
    m.completes? (.feed number chunk) = none := by
  rw [feed] at h
  rw [completes?, runStep?]
  cases hmanaged : m.runs[number]? with
  | none => rfl
  | some managed =>
    rw [hmanaged] at h
    have hnone := Report.Run.reports?_feed_of_fault (h : (managed.run.feed _ chunk).2 = some fault)
    show (Report.Run.announced? managed.run _).map _ = none
    rw [Report.Run.announced?, hnone, ite_self]
    rfl

/-- An event that completes a run applies its reports. -/
theorem after_of_completes {number : Nat} {reports : Report.Reports}
    (h : m.completes? event = some (number, reports)) :
    m.after world event =
      ((m.withRun number (.completed reports)).applyRun world reports).1 := by
  obtain ⟨before, hbefore, hstep⟩ := completes?_eq_some_iff.mp h
  rw [after_of_runStep hstep, advance, Report.Run.announced?_eq_some_iff.mpr ⟨hbefore, rfl⟩]

/-- The run that an event completes is complete after it. -/
theorem run?_after_of_completes {number : Nat} {reports : Report.Reports}
    (h : m.completes? event = some (number, reports)) :
    (m.after world event).run? number = some (.completed reports) := by
  obtain ⟨before, -, hstep⟩ := completes?_eq_some_iff.mp h
  obtain ⟨store, published, board, heq⟩ :=
    applyRun_frame world (m.withRun number (.completed reports)) reports
  rw [after_of_completes h, heq]
  exact run?_withRun (run?_of_runStep hstep)

/-- An event of a run that completes none changes the runs, and which of them are active. -/
theorem after_of_not_completes (world : Surroundings) (hrun : event.isOfRun = true)
    (h : m.completes? event = none) :
    ∃ runs active, m.after world event = { m with runs, active } := by
  have hadvance : ∀ {number before after}, m.runStep? event = some (number, before, after) →
      m.after world event = m.withRun number after := by
    intro number before after hstep
    have hannounced : Report.Run.announced? before after = none := by
      rw [completes?, hstep] at h
      exact Option.map_eq_none_iff.mp h
    rw [after_of_runStep hstep, advance, hannounced]
  cases event with
  | beginRun =>
    rw [after, beginRun]
    repeat' split
    all_goals exact ⟨_, _, rfl⟩
  | feed number chunk =>
    cases hmanaged : m.runs[number]? with
    | none =>
      refine ⟨m.runs, m.active, ?_⟩
      rw [after, feed, hmanaged]
    | some managed =>
      rw [hadvance (by rw [runStep?, hmanaged]; rfl)]
      exact ⟨_, m.active, rfl⟩
  | close number =>
    cases hmanaged : m.runs[number]? with
    | none =>
      refine ⟨m.runs, m.active, ?_⟩
      rw [after, close, hmanaged]
    | some managed =>
      rw [hadvance (by rw [runStep?, hmanaged]; rfl)]
      exact ⟨_, m.active, rfl⟩
  | abandon number =>
    rw [after, abandon]
    split
    next => exact ⟨m.runs, m.active, rfl⟩
    next => exact ⟨_, m.active, rfl⟩
  | submit file source ds => cases hrun
  | deleteFile path => cases hrun
  | setPolicy policy => cases hrun
  | reconfigure settings => cases hrun
  | clear => cases hrun
  | dispose => cases hrun

/-- An event that is not of a run and does not end the manager leaves the runs, and which of them are
active, as they are. -/
theorem after_frame (world : Surroundings) (m : Manager) (hrun : event.isOfRun = false)
    (hdispose : event ≠ .dispose) :
    ∃ settings policy store published board,
      m.after world event = { m with settings, policy, store, published, board } := by
  cases event with
  | submit path source ds =>
    obtain ⟨reports, published, board, heq⟩ := submit_frame world m path source ds
    exact ⟨_, _, _, published, board, heq⟩
  | deleteFile path =>
    rw [after, deleteFile]
    split <;> exact ⟨_, _, _, _, _, rfl⟩
  | setPolicy policy => exact reconfigureUnder_frame world m (m.settingsFor policy) policy
  | reconfigure settings => exact reconfigureUnder_frame world m settings settings.policy
  | clear => exact ⟨_, _, _, _, _, rfl⟩
  | dispose => exact absurd rfl hdispose
  | beginRun => cases hrun
  | feed number chunk => cases hrun
  | close number => cases hrun
  | abandon number => cases hrun

/-- What an event can do to a manager: change its runs, apply the reports of one of them, take in a
report, forget a file, publish all files under other settings, or drop everything. -/
theorem after_cases {P : Manager → Prop} (world : Surroundings) (m : Manager) (event : Event)
    (runs : ∀ runs active, P { m with runs, active })
    (applied : ∀ number reports, m.completes? event = some (number, reports) →
      P ((m.withRun number (.completed reports)).applyRun world reports).1)
    (submit : ∀ path source ds, event = .submit path source ds →
      P (m.submit world path source ds).1)
    (deleteFile : ∀ path, P (m.deleteFile path).1)
    (reconfigureUnder : ∀ settings policy, P (m.reconfigureUnder world settings policy).1)
    (clear : P m.clear)
    (dispose : event = .dispose → P m.dispose) : P (m.after world event) := by
  by_cases hrun : event.isOfRun = true
  · cases hcompletes : m.completes? event with
    | none =>
      obtain ⟨runs', active, heq⟩ := after_of_not_completes world hrun hcompletes
      rw [heq]
      exact runs runs' active
    | some completion =>
      rw [after_of_completes hcompletes]
      exact applied completion.1 completion.2 hcompletes
  cases event with
  | submit path source ds => exact submit path source ds rfl
  | deleteFile path => exact deleteFile path
  | setPolicy policy => exact reconfigureUnder (m.settingsFor policy) policy
  | reconfigure settings => exact reconfigureUnder settings settings.policy
  | clear => exact clear
  | dispose => exact dispose rfl
  | beginRun => exact absurd rfl hrun
  | feed number chunk => exact absurd rfl hrun
  | close number => exact absurd rfl hrun
  | abandon number => exact absurd rfl hrun

/-! ## Disposal -/

/-- Only disposal ends a manager. -/
theorem disposed_after (h : event ≠ .dispose) :
    (m.after world event).disposed = m.disposed := by
  cases hrun : event.isOfRun with
  | false =>
    obtain ⟨_, _, _, _, _, heq⟩ := after_frame world m hrun h
    rw [heq]
  | true =>
    cases hcompletes : m.completes? event with
    | none =>
      obtain ⟨_, _, heq⟩ := after_of_not_completes world hrun hcompletes
      rw [heq]
    | some completion =>
      obtain ⟨_, _, _, heq⟩ := applyRun_frame world
        (m.withRun completion.1 (.completed completion.2)) completion.2
      rw [after_of_completes hcompletes, heq]
      rfl

theorem disposed_dispose (m : Manager) : m.dispose.disposed = true := by
  rw [dispose]
  split
  next h => exact h
  next => rfl

/-- A disposed manager stays disposed. -/
theorem disposed_afterAll (h : m.disposed = true) (events : List Event) :
    (m.afterAll world events).disposed = true := by
  refine afterAll_induction (P := fun m => m.disposed = true) h (fun next event hnext => ?_) events
  by_cases hevent : event = .dispose
  · rw [hevent]
    exact disposed_dispose next
  · rw [disposed_after hevent, hnext]

/-- A disposed manager ignores every event but clearing. What is left of it are the runs: whoever
holds one may still carry it on. -/
theorem after_of_disposed (world : Surroundings) (h : m.disposed = true) (hclear : event ≠ .clear) :
    ∃ runs, m.after world event = { m with runs } := by
  have hadvance : ∀ number before after,
      ∃ runs, m.advance world number before after = { m with runs } := by
    intro number before after
    rw [advance]
    split
    next =>
      rw [applyRun, if_pos (show (m.withRun number after).disposed = true from h)]
      exact ⟨_, rfl⟩
    next => exact ⟨_, rfl⟩
  cases event with
  | submit path source ds =>
    rw [after, submit, if_pos h]
    exact ⟨m.runs, rfl⟩
  | beginRun =>
    rw [after, beginRun, if_pos h]
    exact ⟨m.runs, rfl⟩
  | feed number chunk =>
    rw [after, feed]
    split
    next => exact ⟨m.runs, rfl⟩
    next => exact hadvance _ _ _
  | close number =>
    rw [after, close]
    split
    next => exact ⟨m.runs, rfl⟩
    next => exact hadvance _ _ _
  | abandon number =>
    rw [after, abandon]
    split
    next => exact ⟨m.runs, rfl⟩
    next => exact ⟨_, rfl⟩
  | deleteFile path =>
    rw [after, deleteFile, if_pos (by rw [h]; rfl)]
    exact ⟨m.runs, rfl⟩
  | setPolicy policy =>
    rw [after, setPolicy, reconfigureUnder, if_pos h]
    exact ⟨m.runs, rfl⟩
  | reconfigure settings =>
    rw [after, reconfigure, reconfigureUnder, if_pos h]
    exact ⟨m.runs, rfl⟩
  | clear => exact absurd rfl hclear
  | dispose =>
    rw [after, dispose, if_pos h]
    exact ⟨m.runs, rfl⟩

/-- Nothing is stored or published once a manager is disposed. -/
theorem empty_of_disposed (settings : Settings) (events : List Event) :
    let m := (start settings).afterAll world events
    m.disposed = true → m.store.reports = .empty ∧ m.published = .empty := by
  intro m
  refine afterAll_induction
    (P := fun m => m.disposed = true → m.store.reports = .empty ∧ m.published = .empty)
    (fun _ => ⟨rfl, rfl⟩) ?_ events
  intro m event hm hafter
  by_cases hclear : event = .clear
  · rw [hclear]
    exact ⟨rfl, rfl⟩
  by_cases hdisposed : m.disposed = true
  · obtain ⟨runs, heq⟩ := after_of_disposed world hdisposed hclear
    rw [heq]
    exact hm hdisposed
  · by_cases hevent : event = .dispose
    · rw [hevent, after, dispose, if_neg hdisposed]
      exact ⟨rfl, rfl⟩
    · rw [disposed_after hevent] at hafter
      exact absurd hafter hdisposed

theorem reports_of_disposed (settings : Settings) (events : List Event) :
    let m := (start settings).afterAll world events
    m.disposed = true → m.store.reports = .empty :=
  fun h => (empty_of_disposed settings events h).1

end Manager

end Reconcile
