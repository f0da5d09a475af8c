import Reconcile.Proofs.Lineage

/-!
# Disposal

Disposal is the end of a manager. It gives up every run that is still being read and drops whatever
is stored and published, and nothing that happens later changes that, whether it happens to the
manager or to a run that was begun before (`disposal_is_final`). Two invariants meet here: every
unfinished run is active, so that disposal misses none (`attended_afterAll`), and a disposed manager
ignores events (`after_of_disposed`), so that no run can write to it any more.

The board is left alone too, but for one exception: clearing is not ignored. A disposed manager that
is cleared clears the board, once each time, whoever uses the board by then
(`calls_after_disposal`).
-/

namespace Reconcile

open Report

/-- Whether an event clears the manager. -/
def Event.isClear : Event → Bool
  | clear => true
  | _ => false

theorem Event.isClear_iff {event : Event} : event.isClear = true ↔ event = .clear := by
  cases event <;> simp [isClear]

namespace Manager

variable {m : Manager} {world : Surroundings}

/-! ## The runs -/

/-- Disposal abandons every run that is still being read. -/
theorem Attended.run?_dispose (h : Attended m) {number : Nat}
    (hunfinished : m.isUnfinished number = true) : m.dispose.run? number = some .abandoned := by
  rw [Manager.dispose]
  split
  next hdisposed =>
    rw [h.isUnfinished_of_disposed hdisposed number] at hunfinished
    cases hunfinished
  next => exact run?_foldl_abandon (h.active number hunfinished) hunfinished

/-- **Disposal is final.** After any history, every run that is still being read is active. After
disposal, and after whatever follows, nothing is stored and nothing is published, no run is being
read, those that disposal interrupted are abandoned, and no event completes a run any more. -/
theorem disposal_is_final (world : Surroundings) (settings : Settings)
    (history later : List Event) :
    let m := (start settings).afterAll world history
    let next := m.dispose.afterAll world later
    (∀ number, m.isUnfinished number = true → number ∈ m.active) ∧
      next.store.reports = .empty ∧ next.published = .empty ∧
      (∀ number, next.isUnfinished number = false) ∧
      (∀ number, m.isUnfinished number = true → next.run? number = some .abandoned) ∧
      ∀ event, next.completes? event = none := by
  intro m next
  have hattended : Attended m := attended_afterAll world settings history
  -- disposal is an event like others, so what follows it is a history from the start
  have hhistory : next = (start settings).afterAll world (history ++ .dispose :: later) := by
    rw [afterAll, List.foldl_append]
    rfl
  have hattended' : Attended next := hhistory ▸ attended_afterAll world settings _
  have hdisposed : next.disposed = true := disposed_afterAll (disposed_dispose m) later
  obtain ⟨hstored, hpublished⟩ : next.store.reports = .empty ∧ next.published = .empty := by
    rw [hhistory] at hdisposed ⊢
    exact empty_of_disposed settings _ hdisposed
  refine ⟨hattended.active, hstored, hpublished, hattended'.isUnfinished_of_disposed hdisposed,
    ?_, ?_⟩
  · intro number hunfinished
    exact (runsFollow_afterAll world m.dispose later).run?_of_isFinished
      (hattended.run?_dispose hunfinished) rfl
  · intro event
    rw [Option.eq_none_iff_forall_ne_some]
    rintro ⟨number, reports⟩ hcompletes
    rw [hattended'.not_disposed_of_completes hcompletes] at hdisposed
    cases hdisposed

/-- A run that is open at disposal is abandoned, and closing it afterwards reports nothing. -/
theorem disposal_is_final_of_open_run :
    let world := Surroundings.willing fun _ => true
    let m := (start { Settings.standard with markers := [] }).afterAll world
      [.beginRun, .feed 0 "a.swift:1: error: lost\n"]
    let next := m.dispose.afterAll world [.feed 0 "b.swift:1: error: lost\n", .close 0]
    m.isUnfinished 0 = true ∧ 0 ∈ m.active ∧ next.run? 0 = some .abandoned ∧
      next.store.reports = .empty := by
  intro world m next
  have hunfinished : m.isUnfinished 0 = true := by decide +kernel
  obtain ⟨hactive, hstored, -, -, habandoned, -⟩ := disposal_is_final world
    { Settings.standard with markers := [] } [.beginRun, .feed 0 "a.swift:1: error: lost\n"]
    [.feed 0 "b.swift:1: error: lost\n", .close 0]
  exact ⟨hunfinished, hactive 0 hunfinished, habandoned 0 hunfinished, hstored⟩

/-! ## The board -/

theorem board_after_of_disposed (world : Surroundings) (h : m.disposed = true) (event : Event) :
    (m.after world event).board = if event.isClear then m.board.clear else m.board := by
  by_cases hclear : event = .clear
  · rw [hclear]
    rfl
  · obtain ⟨runs, heq⟩ := after_of_disposed world h hclear
    rw [heq, if_neg (mt Event.isClear_iff.mp hclear)]

/-- A disposed manager calls the board for nothing but to clear it. -/
theorem calls_afterAll_of_disposed (h : m.disposed = true) (events : List Event) :
    (m.afterAll world events).board.calls =
      m.board.calls ++ List.replicate (events.countP Event.isClear) .clear := by
  induction events generalizing m with
  | nil => exact (List.append_nil _).symm
  | cons event events ih =>
    have hnext : (m.after world event).disposed = true := disposed_afterAll h [event]
    refine (ih hnext).trans ?_
    rw [board_after_of_disposed world h, List.countP_cons]
    split
    next =>
      rw [Board.clear, List.append_assoc, List.replicate_succ]
      rfl
    next => rw [Nat.add_zero]

/-- **What a disposed manager calls the board for.** After disposal the board receives one call for
each time the manager is cleared and no other call; so the manager is silent just as long as it is
not cleared. This holds whoever uses the board by then: clearing clears what others show on it,
every other event leaves it as they left it. -/
theorem calls_after_disposal (world : Surroundings) (settings : Settings)
    (history later : List Event) :
    let m := ((start settings).afterAll world history).dispose
    let next := m.afterAll world later
    next.board.calls = m.board.calls ++ List.replicate (later.countP Event.isClear) .clear ∧
      (next.board.calls = m.board.calls ↔ Event.clear ∉ later) ∧
      ∀ event shared, ({ next with board := shared }.after world event).board =
        if event.isClear then shared.clear else shared := by
  intro m next
  have hdisposed : m.disposed = true := disposed_dispose _
  have hcalls : next.board.calls =
      m.board.calls ++ List.replicate (later.countP Event.isClear) .clear :=
    calls_afterAll_of_disposed hdisposed later
  refine ⟨hcalls, ?_, ?_⟩
  · rw [hcalls, List.append_right_eq_self, List.replicate_eq_nil_iff, List.countP_eq_zero]
    constructor
    · intro hnone hmem
      exact hnone _ hmem rfl
    · intro hnone event hmem hclear
      exact hnone (Event.isClear_iff.mp hclear ▸ hmem)
  · intro event shared
    exact board_after_of_disposed (m := { next with board := shared }) world
      (disposed_afterAll hdisposed later) event

/-- A manager that was disposed wipes the board of another one when it is cleared. -/
theorem clear_after_disposal_reaches_board :
    let world := Surroundings.willing fun _ => true
    let m := (start .standard).dispose
    let shared := Board.empty.set "a.swift" []
    (m.after world .clear).board.calls ≠ m.board.calls ∧
      shared.shown.files = ["a.swift"] ∧
      ({ m with board := shared }.after world .clear).board.shown.files = [] := by
  decide

end Manager

end Reconcile
