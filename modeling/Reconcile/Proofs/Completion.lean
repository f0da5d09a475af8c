import Reconcile.Proofs.Chunks
import Reconcile.Proofs.Frames

/-!
# A run is completed once

A run can be completed by a marker in its output or by being ended, and it can be given up instead.
Whoever waits for it is told its reports when it is completed, and may fail at that moment; calls may
keep arriving afterwards.

* `completion_told_once`: whatever the calls and whatever the listener does, it is told at most once,
  and it was told exactly if the run is finished and was not given up. What it was told is what the run
  reports from then on, and neither later calls nor text behind the marker change anything.

All of it comes from one equation between the run and what the listener was told, `Watched.Faithful`:
the listener was told what the run reports, no more and no less. A call keeps it because a run that is
finished ignores every call (`step_of_isFinished`).
-/

namespace Reconcile.Report

open Text

/-! ## Calls -/

/-- What can be done to a run. -/
inductive Run.Call where
  | feed (chunk : String)
  | close
  | abandon

/-- The run after a call, and what is wrong with the line at which the call stopped. -/
def Run.step (setup : Setup) (run : Run) : Call → Run × Option LineFault
  | .feed chunk => run.feed setup chunk
  | .close => (run.close, none)
  | .abandon => (run.abandon, none)

/-- How a call comes back: as it should, with a line that cannot be read, or with the failure of the
listener. -/
inductive CallEnding (ε : Type) where
  | returned
  | stopped (fault : LineFault)
  | failed (failure : ε)

/-- A run together with all that its listener was told. -/
structure Watched where
  run : Run
  told : List Reports

namespace Watched

/-- A run that was just begun. -/
def start : Watched :=
  ⟨.start, []⟩

variable {ε : Type} (setup : Setup) (listener : List Reports → Option ε)

/-- A call to a run with a listener, which may fail on what it has been told. The run is in its new
state before the listener hears of it. -/
def call (w : Watched) (call : Run.Call) : Watched × CallEnding ε :=
  let stepped := w.run.step setup call
  match Run.announced? w.run stepped.1 with
  | some reports =>
    let told := w.told ++ [reports]
    (⟨stepped.1, told⟩, match listener told with
      | some failure => .failed failure
      | none => .returned)
  | none =>
    (⟨stepped.1, w.told⟩, match stepped.2 with
      | some fault => .stopped fault
      | none => .returned)

/-- The run and what its listener was told after calls, however these came back. -/
def afterAll (w : Watched) (calls : List Run.Call) : Watched :=
  calls.foldl (fun w call => (w.call setup listener call).1) w

end Watched

/-! ## Runs that are finished -/

theorem Run.step_of_isFinished (setup : Setup) {run : Run} (h : run.isFinished = true)
    (call : Call) : run.step setup call = (run, none) := by
  cases run with
  | reading unfinished progress => cases h
  | completed reports => cases call <;> rfl
  | abandoned => cases call <;> rfl

theorem Run.reports?_of_not_isFinished {run : Run} (h : run.isFinished = false) :
    run.reports? = none := by
  cases run with
  | reading unfinished progress => rfl
  | completed reports => cases h
  | abandoned => cases h

theorem Run.isSome_reports?_iff {run : Run} :
    run.reports?.isSome = true ↔ run.isFinished = true ∧ run.isAbandoned = false := by
  cases run <;> simp [reports?, isFinished, isAbandoned]

theorem Run.isFinished_close (run : Run) : run.close.isFinished = true := by
  cases run <;> rfl

/-! ## Text behind a marker -/

/-- More text adds lines and changes none of those that are complete. -/
theorem exists_lines_append (front back : List Char) :
    ∃ later, (breakLines (front ++ back)).1 = (breakLines front).1 ++ later := by
  by_cases h : CutsLineEnd front back
  · obtain ⟨later, -, hwhole⟩ := breakLines_append_cut h
    exact ⟨later, by rw [hwhole]⟩
  · exact ⟨_, by rw [breakLines_append h]⟩

/-- Once a chunk has completed a run, it does not matter how the chunk goes on. -/
theorem Run.feed_append_of_reports? (setup : Setup) {run : Run} {chunk : String}
    (h : (run.feed setup chunk).1.reports? ≠ none) (more : String) :
    run.feed setup (chunk ++ more) = run.feed setup chunk := by
  cases run with
  | completed reports => rfl
  | abandoned => rfl
  | reading unfinished progress =>
    obtain ⟨later, hlater⟩ := exists_lines_append (unfinished ++ chunk.toList) more.toList
    rw [feed] at h
    rw [feed, feed, String.toList_append, ← List.append_assoc, hlater, Progress.readLines_append]
    generalize progress.readLines setup (breakLines (unfinished ++ chunk.toList)).1 = read at h ⊢
    rcases read with ⟨next, ending⟩
    cases ending with
    | unfinished => exact absurd rfl h
    | marker => rfl
    | fault fault => exact absurd rfl h

/-! ## The listener -/

namespace Watched

/-- The listener was told what the run reports, and nothing else. -/
def Faithful (w : Watched) : Prop :=
  w.told = w.run.reports?.toList

section

variable {ε : Type} (setup : Setup) (listener : List Reports → Option ε) {w : Watched}

/-- A run that is finished stays as it is, and its listener hears no more. -/
theorem call_of_isFinished (h : w.run.isFinished = true) (call : Run.Call) :
    (w.call setup listener call).1 = w := by
  rw [Watched.call, Run.step_of_isFinished setup h, Run.announced?, h]
  rfl

theorem afterAll_of_isFinished (h : w.run.isFinished = true) (calls : List Run.Call) :
    w.afterAll setup listener calls = w := by
  induction calls with
  | nil => rfl
  | cons call calls ih =>
    rw [afterAll, List.foldl_cons, call_of_isFinished setup listener h]
    exact ih

/-- A call tells the listener what the run reports once it does. -/
theorem Faithful.call (h : w.Faithful) (call : Run.Call) :
    (w.call setup listener call).1.Faithful := by
  cases hfinished : w.run.isFinished with
  | true =>
    rw [call_of_isFinished setup listener hfinished]
    exact h
  | false =>
    have hnone : w.told = [] := by
      rw [h, Run.reports?_of_not_isFinished hfinished]
      rfl
    rw [Watched.call, Run.announced?, hfinished]
    dsimp only
    rw [if_neg (by decide)]
    cases hreports : (w.run.step setup call).1.reports? with
    | none =>
      show w.told = (w.run.step setup call).1.reports?.toList
      rw [hnone, hreports]
      rfl
    | some reports =>
      show w.told ++ [reports] = (w.run.step setup call).1.reports?.toList
      rw [hnone, hreports]
      rfl

theorem Faithful.afterAll (h : w.Faithful) (calls : List Run.Call) :
    (w.afterAll setup listener calls).Faithful := by
  induction calls generalizing w with
  | nil => exact h
  | cons call calls ih => exact ih (h.call setup listener call)

/-- A call during which the listener fails has completed the run. -/
theorem isFinished_of_failed {call : Run.Call} {failure : ε}
    (h : (w.call setup listener call).2 = .failed failure) :
    (w.call setup listener call).1.run.isFinished = true := by
  rw [Watched.call] at h ⊢
  dsimp only at h ⊢
  split at h
  next reports hannounced =>
    rw [(Run.announced?_eq_some_iff.mp hannounced).2]
    rfl
  next =>
    dsimp only at h
    split at h <;> cases h

/-- Text behind the chunk that completes a run is not read. -/
theorem call_feed_append {chunk : String}
    (h : (w.call setup listener (.feed chunk)).1.run.reports? ≠ none) (more : String) :
    w.call setup listener (.feed (chunk ++ more)) = w.call setup listener (.feed chunk) := by
  have hrun : (w.call setup listener (.feed chunk)).1.run = (w.run.feed setup chunk).1 := by
    rw [Watched.call]
    dsimp only
    split <;> rfl
  rw [hrun] at h
  rw [Watched.call, Watched.call, Run.step, Run.step, Run.feed_append_of_reports? setup h]

end

/-- **Completion is told once.** Take any calls to a run, and any listener, which may fail on what it
is told. The listener is told at most once, and it was told exactly if the run is finished and was not
given up. What the run reports is what the listener was told, and nothing before that. Ending a run
always finishes it, and so does a call during which the listener fails; from then on no call changes the
run or tells the listener anything. Text behind the marker that completes a run, in the same chunk or
in later ones, is not read. -/
theorem completion_told_once {ε : Type} (setup : Setup) (listener : List Reports → Option ε)
    (calls : List Run.Call) :
    let w := start.afterAll setup listener calls
    w.told.length ≤ 1 ∧
      (w.told ≠ [] ↔ w.run.isFinished = true ∧ w.run.isAbandoned = false) ∧
      w.run.reports? = w.told.head? ∧
      (w.call setup listener .close).1.run.isFinished = true ∧
      (∀ call failure, (w.call setup listener call).2 = .failed failure →
        (w.call setup listener call).1.run.isFinished = true) ∧
      (w.run.isFinished = true → ∀ later, w.afterAll setup listener later = w) ∧
      ∀ chunk more, (w.call setup listener (.feed chunk)).1.run.reports? ≠ none →
        w.call setup listener (.feed (chunk ++ more)) = w.call setup listener (.feed chunk) := by
  intro w
  have hfaithful : w.Faithful := Faithful.afterAll setup listener (w := start) rfl calls
  refine ⟨?_, ?_, ?_, ?_, ?_, ?_, ?_⟩
  · rw [hfaithful]
    exact Option.length_toList_le
  · rw [hfaithful, ← Run.isSome_reports?_iff]
    cases w.run.reports? <;> simp
  · rw [hfaithful]
    cases w.run.reports? <;> rfl
  · rw [Watched.call]
    dsimp only
    split <;> exact w.run.isFinished_close
  · intro call failure h
    exact isFinished_of_failed setup listener h
  · intro h later
    exact afterAll_of_isFinished setup listener h later
  · intro chunk more h
    exact call_feed_append setup listener h more

end Watched

end Reconcile.Report
