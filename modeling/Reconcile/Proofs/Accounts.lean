import Reconcile.Proofs.Ledger

/-!
# Accounting for drafts

A run that is kept as a ledger can tell one draft from another that looks the same. This file says in
what order a ledger is found, whatever was done to the run.

* `drafts_accounted_for`: after any calls, those that stop at a fault and those during which the
  listener fails included, the ledger shows the run and is in order. Lists are never empty and name the
  files of their drafts; a draft that waits for a place has no note and is on no list; any other current
  draft is the very one that is listed last under its file; nothing is left once a run has ended.

A line finds the slot in one of three states (`Ledger.Slot`). What it does there is said draft by draft,
for the order and for the run that the ledger shows at once (`Accounted.takeNote`,
`Accounted.takeProblem`). Lines and calls follow by induction (`InOrder.readLines`, `InOrder.step`).
-/

namespace Reconcile

namespace Report

open Text

/-- How a run goes on with what its complete lines have come to. -/
def Run.goesOn (unfinished : List Char) : Progress × Ending → Run × Option LineFault
  | (progress, .unfinished) => (.reading unfinished progress, none)
  | (progress, .marker) => (.completed progress.reports, none)
  | (progress, .fault fault) => (.reading unfinished progress, some fault)

theorem Run.feed_reading (setup : Setup) (chunk : String) (unfinished : List Char)
    (progress : Progress) :
    (Run.reading unfinished progress).feed setup chunk =
      Run.goesOn (breakLines (unfinished ++ chunk.toList)).2
        (progress.readLines setup (breakLines (unfinished ++ chunk.toList)).1) := by
  rw [Run.feed]
  rcases progress.readLines setup _ with ⟨next, ending⟩
  cases ending <;> rfl

namespace Ledger

/-! ## Order -/

/-- The current draft has its place, or has no note yet and is on no list. -/
structure Accounted (setup : Setup) (l : Ledger) : Prop extends Filed setup l where
  pending : l.pending = true → ∃ number draft, l.current = some number ∧
    l.drafts[number]? = some draft ∧ draft.notes = [] ∧ ∀ file, number ∉ l.listOf file
  placed : l.pending = false → ∀ number, l.current = some number →
    ∃ draft, l.drafts[number]? = some draft ∧ (l.listOf draft.file).getLast? = some number

/-- A ledger is in order: what is unfinished is one line, the drafts are accounted for, and nothing but
the result is left when the run has ended. -/
structure InOrder (setup : Setup) (l : Ledger) : Prop extends Accounted setup l where
  unbroken : '\r' ∉ l.unfinished ∧ '\n' ∉ l.unfinished
  unended : l.finished = false → l.disposed = false ∧ l.result = none
  emptied : l.finished = true → l.unfinished = [] ∧ l.lists = .empty ∧ l.current = none ∧
    l.pending = false

section

variable {setup : Setup} {l : Ledger} {number : Nat} {draft : Diagnostic}

/-! ## One line -/

/-- What the slot of a ledger holds: nothing, a draft that waits for a place, or one that has it. -/
inductive Slot (l : Ledger) : Prop where
  | nothing (hcurrent : l.current = none) (hpending : l.pending = false)
  | held (number : Nat) (draft : Diagnostic) (hcurrent : l.current = some number)
    (hdraft : l.drafts[number]? = some draft) (hpending : l.pending = true)
    (hnotes : draft.notes = []) (hunlisted : ∀ file, number ∉ l.listOf file)
  | placed (number : Nat) (draft : Diagnostic) (hcurrent : l.current = some number)
    (hdraft : l.drafts[number]? = some draft) (hpending : l.pending = false)
    (hlast : (l.listOf draft.file).getLast? = some number)

theorem Accounted.slot (h : l.Accounted setup) : l.Slot := by
  cases hpending : l.pending with
  | true =>
    obtain ⟨number, draft, hcurrent, hdraft, hnotes, hunlisted⟩ := h.pending hpending
    exact .held number draft hcurrent hdraft hpending hnotes hunlisted
  | false =>
    cases hcurrent : l.current with
    | none => exact .nothing hcurrent hpending
    | some number =>
      obtain ⟨draft, hdraft, hlast⟩ := h.placed hpending number hcurrent
      exact .placed number draft hcurrent hdraft hpending hlast

theorem Filed.accounted (h : l.Filed setup) (hslot : l.Slot) : l.Accounted setup where
  toFiled := h
  pending hpending := by
    cases hslot with
    | nothing _ hnone => rw [hnone] at hpending; cases hpending
    | held number draft hcurrent hdraft _ hnotes hunlisted =>
      exact ⟨number, draft, hcurrent, hdraft, hnotes, hunlisted⟩
    | placed _ _ _ _ hplaced _ => rw [hplaced] at hpending; cases hpending
  placed hpending number hnumber := by
    cases hslot with
    | nothing hcurrent _ => rw [hcurrent] at hnumber; cases hnumber
    | held _ _ _ _ hheld _ _ => rw [hheld] at hpending; cases hpending
    | placed other draft hcurrent hdraft _ hlast =>
      rw [hcurrent] at hnumber
      obtain rfl := Option.some.inj hnumber
      exact ⟨draft, hdraft, hlast⟩

theorem focus_of_current (hcurrent : l.current = some number)
    (hdraft : l.drafts[number]? = some draft) :
    l.focus = if l.pending then .held draft else .reported draft.file := by
  rw [focus, hcurrent, Option.bind_some, hdraft]

/-- The ledger once a draft has its place. -/
theorem Filed.accounted_enlist (h : l.Filed setup) (hcurrent : l.current = some number)
    (hdraft : l.drafts[number]? = some draft) (hunlisted : ∀ file, number ∉ l.listOf file) :
    (l.enlist draft.file number).Accounted setup ∧
      (l.enlist draft.file number).progress = ⟨.reported draft.file, l.reports.add draft⟩ := by
  have hlast : ((l.enlist draft.file number).listOf draft.file).getLast? = some number := by
    rw [listOf_enlist, if_pos rfl]
    exact List.getLast?_concat
  have hfocus : (l.enlist draft.file number).focus = .reported draft.file :=
    focus_of_current hcurrent hdraft
  refine ⟨(h.enlist hdraft hunlisted).accounted (.placed number draft hcurrent hdraft rfl hlast), ?_⟩
  rw [progress, hfocus, reports_enlist hdraft]

/-- A note moves a draft that waits for a place. -/
theorem Filed.accounted_rescue (h : l.Filed setup) {line : Line} (hline : line.IsRead)
    (hcurrent : l.current = some number) (hdraft : l.drafts[number]? = some draft)
    (hnotes : draft.notes = []) (hunlisted : ∀ file, number ∉ l.listOf file) :
    ((l.change number (rescue · line.note)).enlist line.file number).Accounted setup ∧
      ((l.change number (rescue · line.note)).enlist line.file number).progress =
        ⟨.reported line.file, l.reports.add (rescue draft line.note)⟩ := by
  have hproblem := hline.rescue (h.problems draft (List.mem_of_getElem? hdraft))
  have hnote : (rescue draft line.note).notes = [line.note] := by
    rw [rescue, hnotes]
    rfl
  have hfiled : (l.change number (rescue · line.note)).Filed setup :=
    h.change hdraft hproblem (fun _ => hnote ▸ List.nodup_singleton _)
      fun file hfile => absurd hfile (hunlisted file)
  have hplaced := hfiled.accounted_enlist hcurrent (getElem?_change_self hdraft _) hunlisted
  rw [reports_change_of_unlisted hunlisted] at hplaced
  exact hplaced

/-- A note changes a draft that has its place, where it is listed. -/
theorem Filed.accounted_noted (h : l.Filed setup) {note : Note} (hcurrent : l.current = some number)
    (hdraft : l.drafts[number]? = some draft) (hpending : l.pending = false)
    (hlast : (l.listOf draft.file).getLast? = some number)
    (hnew : setup.dropRepeats = true → note ∉ draft.notes) :
    (l.change number (noted note)).Accounted setup ∧
      (l.change number (noted note)).progress =
        ⟨.reported draft.file,
          l.reports.set draft.file (noteLast note (l.reports.of draft.file))⟩ := by
  have hmem := List.mem_of_getElem? hdraft
  have hchanged := getElem?_change_self hdraft (noted note)
  have hfiled : (l.change number (noted note)).Filed setup := by
    refine h.change hdraft (isProblem_noted (h.problems draft hmem))
      (fun hdrop => nodup_concat (h.distinct hdrop draft hmem) (hnew hdrop)) fun file hfile => ?_
    obtain ⟨d, hd, rfl⟩ := h.listed file number hfile
    rw [hdraft] at hd
    rw [← Option.some.inj hd]
    rfl
  have hfocus : (l.change number (noted note)).focus = .reported draft.file := by
    rw [focus_of_current (l := l.change number _) hcurrent hchanged,
      show (l.change number (noted note)).pending = false from hpending]
    rfl
  refine ⟨hfiled.accounted (.placed number _ hcurrent hchanged hpending hlast), ?_⟩
  rw [progress, hfocus, reports_change_last h hdraft hlast]

theorem takeNote_held {line : Line} (hcurrent : l.current = some number)
    (hdraft : l.drafts[number]? = some draft) (hpending : l.pending = true)
    (hnotes : draft.notes = []) :
    l.takeNote setup line = (l.change number (rescue · line.note)).enlist line.file number := by
  have hnew : (setup.dropRepeats && (l.drafts[number]?).any (·.notes.contains line.note)) = false := by
    rw [hdraft, Option.any_some, hnotes, List.contains_nil, Bool.and_false]
  have hrescue : (l.change number (noted line.note)).change number
      (fun d => { d with file := line.file, range := line.range }) =
        l.change number (rescue · line.note) := by
    rw [change, change, List.modify_modify_eq]
    rfl
  rw [takeNote, hcurrent]
  dsimp only
  rw [hnew, if_neg Bool.false_ne_true, show (l.change number (noted line.note)).pending = true from
    hpending, if_pos rfl, hrescue]

theorem takeNote_placed {line : Line} (hcurrent : l.current = some number)
    (hdraft : l.drafts[number]? = some draft) (hpending : l.pending = false) :
    l.takeNote setup line =
      if setup.dropRepeats && draft.notes.contains line.note then l
      else l.change number (noted line.note) := by
  rw [takeNote, hcurrent]
  dsimp only
  rw [hdraft, Option.any_some, show (l.change number (noted line.note)).pending = false from hpending,
    if_neg Bool.false_ne_true]

theorem Accounted.takeNote (h : l.Accounted setup) {line : Line} (hline : line.IsRead) :
    (l.takeNote setup line).Accounted setup ∧
      (l.takeNote setup line).progress = l.progress.record (l.progress.judgeNote setup line) := by
  cases h.slot with
  | nothing hcurrent _ =>
    have hfocus : l.progress.focus = .nothing := by
      rw [progress, focus, hcurrent]
      rfl
    rw [Ledger.takeNote, hcurrent, Progress.judgeNote, hfocus]
    exact ⟨h, rfl⟩
  | held number draft hcurrent hdraft hpending hnotes hunlisted =>
    have hfocus : l.progress.focus = .held draft := by
      rw [progress, focus_of_current hcurrent hdraft, hpending]
      rfl
    rw [takeNote_held hcurrent hdraft hpending hnotes, Progress.judgeNote, hfocus]
    exact h.toFiled.accounted_rescue hline hcurrent hdraft hnotes hunlisted
  | placed number draft hcurrent hdraft hpending hlast =>
    have hfocus : l.progress.focus = .reported draft.file := by
      rw [progress, focus_of_current hcurrent hdraft, hpending]
      rfl
    have hreport : (l.progress.reports.of draft.file).getLast? = some draft :=
      getLast?_reports hdraft hlast
    rw [takeNote_placed hcurrent hdraft hpending, Progress.judgeNote, hfocus]
    dsimp only
    rw [hreport]
    dsimp only
    split
    next => exact ⟨h, rfl⟩
    next hnew =>
      have hfresh : setup.dropRepeats = true → line.note ∉ draft.notes := by
        intro hdrop
        rwa [hdrop, Bool.true_and, List.contains_iff_mem] at hnew
      obtain ⟨hnext, hprogress⟩ :=
        h.toFiled.accounted_noted hcurrent hdraft hpending hlast hfresh
      rw [← hfocus] at hprogress
      exact ⟨hnext, hprogress⟩

theorem Accounted.takeProblem (h : l.Accounted setup) {line : Line} (hline : line.IsRead)
    (hnote : line.isNote = false) :
    (l.takeProblem setup line).Accounted setup ∧
      (l.takeProblem setup line).progress = l.progress.record (l.progress.judgeProblem setup line) := by
  rw [Ledger.takeProblem, any_listOf, Progress.judgeProblem_eq, show l.progress.reports = l.reports
    from rfl]
  by_cases hrepeat : (setup.dropRepeats &&
      (l.reports.of line.file).any (·.sameReport line.draft)) = true
  · rw [if_pos hrepeat, if_pos hrepeat]
    exact ⟨Filed.accounted ⟨h.nonempty, h.listed, h.once, h.problems, h.distinct⟩ (.nothing rfl rfl),
      rfl⟩
  · have hfiled : (l.hold line.draft).Filed setup := h.toFiled.hold (hline.draft hnote) rfl
    have hdraft : (l.hold line.draft).drafts[l.drafts.length]? = some line.draft :=
      List.getElem?_concat_length
    have hunlisted : ∀ file, l.drafts.length ∉ l.listOf file := by
      intro file hmem
      obtain ⟨d, hd, -⟩ := h.listed file _ hmem
      exact absurd (List.getElem?_eq_some_iff.mp hd).1 (Nat.lt_irrefl _)
    rw [if_neg hrepeat, if_neg hrepeat]
    dsimp only
    by_cases hresolves : setup.resolves line.file = true
    · rw [if_pos hresolves, if_pos hresolves]
      have hplaced := hfiled.accounted_enlist rfl hdraft hunlisted
      rw [reports_hold h.toFiled] at hplaced
      exact hplaced
    · rw [if_neg hresolves, if_neg hresolves]
      refine ⟨hfiled.accounted (.held _ _ rfl hdraft rfl rfl hunlisted), ?_⟩
      rw [progress, focus_of_current rfl hdraft, reports_hold h.toFiled]
      rfl

/-- **One line.** A ledger stays accounted for, and what it shows takes the line as a run does. -/
theorem Accounted.take (h : l.Accounted setup) {line : Line} (hline : line.IsRead) :
    (l.take setup line).Accounted setup ∧
      (l.take setup line).progress = l.progress.take setup line := by
  rw [Ledger.take, Progress.take]
  cases hnote : line.isNote with
  | true => exact h.takeNote hline
  | false => exact h.takeProblem hline hnote

/-- A line changes nothing but drafts, lists and the slot. -/
theorem exists_take (setup : Setup) (l : Ledger) (line : Line) :
    ∃ drafts current pending lists,
      l.take setup line = { l with drafts, current, pending, lists } := by
  rw [take]
  split
  next =>
    rw [takeNote]
    split
    next => exact ⟨_, _, _, _, rfl⟩
    next =>
      dsimp only
      split
      next => exact ⟨_, _, _, _, rfl⟩
      next => split <;> exact ⟨_, _, _, _, rfl⟩
  next =>
    rw [takeProblem]
    split
    next => exact ⟨_, _, _, _, rfl⟩
    next => dsimp only; split <;> exact ⟨_, _, _, _, rfl⟩

theorem InOrder.take (h : l.InOrder setup) (hopen : l.finished = false) {line : Line}
    (hline : line.IsRead) : (l.take setup line).InOrder setup ∧
      (l.take setup line).finished = false ∧ (l.take setup line).unfinished = l.unfinished := by
  obtain ⟨haccounted, -⟩ := h.toAccounted.take hline
  obtain ⟨drafts, current, pending, lists, heq⟩ := exists_take setup l line
  rw [heq] at haccounted ⊢
  refine ⟨⟨haccounted, h.unbroken, h.unended, fun hfinished => ?_⟩, hopen, rfl⟩
  rw [hopen] at hfinished
  cases hfinished

/-! ## Lines and calls -/

/-- When a run has ended, nothing is left to be in disorder. -/
theorem InOrder.ended (h : l.InOrder setup) (result : Option Reports) (disposed : Bool) :
    Ledger.InOrder setup
      { l.reset with finished := true, result, disposed, lists := .empty } where
  nonempty file hfile := by cases hfile
  listed file number hnumber := by cases hnumber
  once file := List.nodup_nil
  problems := h.problems
  distinct := h.distinct
  pending hpending := by cases hpending
  placed _ number hcurrent := by cases hcurrent
  unbroken := ⟨List.not_mem_nil, List.not_mem_nil⟩
  unended hopen := by cases hopen
  emptied _ := ⟨rfl, rfl, rfl, rfl⟩

theorem run_of_open (hopen : l.finished = false) : l.run = .reading l.unfinished l.progress := by
  rw [run, hopen]
  rfl

theorem isFinished_run (l : Ledger) : l.run.isFinished = l.finished := by
  rw [run]
  cases l.finished with
  | false => rfl
  | true => cases l.disposed <;> rfl

theorem InOrder.run_complete (h : l.InOrder setup) (hopen : l.finished = false) :
    l.complete.run = .completed l.reports := by
  rw [run, show l.complete.disposed = false from (h.unended hopen).1]
  rfl

/-- An empty line has no report. -/
theorem takeText_eq (setup : Setup) (l : Ledger) (text : String) :
    l.takeText setup text = (Line.read? text).map fun
      | none => l
      | some line => l.take setup line := by
  rw [takeText]
  split
  next hempty =>
    rw [String.isEmpty_iff.mp hempty]
    rfl
  next => rfl

theorem InOrder.readLines (h : l.InOrder setup) (hopen : l.finished = false)
    (lines : List (List Char)) :
    (l.readLines setup lines).1.InOrder setup ∧
      ((l.readLines setup lines).1.run, (l.readLines setup lines).2) =
        Run.goesOn l.unfinished (l.progress.readLines setup lines) := by
  induction lines generalizing l with
  | nil => exact ⟨h, congrArg (·, none) (run_of_open hopen)⟩
  | cons raw lines ih =>
    rw [Ledger.readLines, takeText_eq, readLines_cons]
    cases setup.isMarker (plainLine raw) with
    | error fault => exact ⟨h, congrArg (·, some _) (run_of_open hopen)⟩
    | ok marked =>
      cases marked with
      | true => exact ⟨h.ended _ _, congrArg (·, none) (h.run_complete hopen)⟩
      | false =>
        cases hread : Line.read? (plainLine raw) with
        | error fault => exact ⟨h, congrArg (·, some _) (run_of_open hopen)⟩
        | ok found =>
          cases found with
          | none => exact ih h hopen
          | some line =>
            have hline := Line.isRead hread
            obtain ⟨htaken, hstill, hunfinished⟩ := h.take hopen hline
            have hrest := ih htaken hstill
            rw [hunfinished, (h.toAccounted.take hline).2] at hrest
            exact hrest

/-- **One call.** A ledger stays in order, and what it shows goes on as a run does. -/
theorem InOrder.step (h : l.InOrder setup) (call : Run.Call) :
    (l.step setup call).1.InOrder setup ∧
      ((l.step setup call).1.run, (l.step setup call).2) = l.run.step setup call := by
  cases hfinished : l.finished with
  | true =>
    have hstep : l.step setup call = (l, none) := by
      cases call with
      | feed chunk => rw [Ledger.step, feed, hfinished]; rfl
      | close => rw [Ledger.step, close, hfinished]; rfl
      | abandon => rw [Ledger.step, abandon, hfinished]; rfl
    rw [hstep, Run.step_of_isFinished setup ((isFinished_run l).trans hfinished)]
    exact ⟨h, rfl⟩
  | false =>
    rw [run_of_open hfinished]
    cases call with
    | feed chunk =>
      have hbroken := unbroken_unfinished (l.unfinished ++ chunk.toList)
      have hnext : Ledger.InOrder setup
          { l with unfinished := (breakLines (l.unfinished ++ chunk.toList)).2 } := by
        refine ⟨⟨⟨h.nonempty, h.listed, h.once, h.problems, h.distinct⟩, h.pending, h.placed⟩,
          ⟨fun hmem => (hbroken _ hmem).2 rfl, fun hmem => (hbroken _ hmem).1 rfl⟩, h.unended,
          fun hended => ?_⟩
        rw [show l.finished = true from hended] at hfinished
        cases hfinished
      have hopen : ¬ l.finished = true := Bool.eq_false_iff.mp hfinished
      rw [Ledger.step, feed, if_neg hopen, Run.step, Run.feed_reading]
      exact hnext.readLines hfinished _
    | close =>
      rw [Ledger.step, close, hfinished]
      exact ⟨h.ended _ _, congrArg (·, none) (h.run_complete hfinished)⟩
    | abandon =>
      rw [Ledger.step, abandon, hfinished]
      exact ⟨h.ended _ _, rfl⟩

theorem inOrder_start : start.InOrder setup where
  nonempty file hfile := by cases hfile
  listed file number hnumber := by cases hnumber
  once file := List.nodup_nil
  problems draft hdraft := by cases hdraft
  distinct _ draft hdraft := by cases hdraft
  pending hpending := by cases hpending
  placed _ number hcurrent := by cases hcurrent
  unbroken := ⟨List.not_mem_nil, List.not_mem_nil⟩
  unended _ := ⟨rfl, rfl⟩
  emptied hended := by cases hended

end

end Ledger

/-! ## Runs and their ledgers -/

/-- Whatever the listener does, the run goes on by the calls. -/
theorem Watched.run_call {ε : Type} (setup : Setup) (listener : List Reports → Option ε) (w : Watched)
    (call : Run.Call) : (w.call setup listener call).1.run = (w.run.step setup call).1 := by
  rw [Watched.call]
  dsimp only
  split <;> rfl

/-- **Every draft is accounted for.** Take any calls to a run, those that stop at a line which cannot be
read included, and any listener, which may fail on what it is told. The ledger of these calls shows the
run that they lead to, and it is in order. What is unfinished has no line end in it. No list is empty,
and each draft on it has the file of the list, is an error or a warning in settled wording, and stands at
a place. If repeats are dropped, no draft has a note twice. A draft that waits for a place is the current
one, has no note and is on no list; a current draft that does not wait is itself on the list of its file,
as the last one there. When the run has ended, nothing is unfinished, listed or current, and nothing
waits. -/
theorem drafts_accounted_for {ε : Type} (setup : Setup) (listener : List Reports → Option ε)
    (calls : List Run.Call) :
    let ledger := Ledger.start.afterAll setup calls
    ledger.run = (Watched.start.afterAll setup listener calls).run ∧ ledger.InOrder setup := by
  have hgeneral : ∀ (l : Ledger) (w : Watched), l.run = w.run → l.InOrder setup →
      (l.afterAll setup calls).run = (w.afterAll setup listener calls).run ∧
        (l.afterAll setup calls).InOrder setup := by
    induction calls with
    | nil => exact fun l w hrun h => ⟨hrun, h⟩
    | cons call calls ih =>
      intro l w hrun h
      obtain ⟨hnext, hstep⟩ := h.step call
      refine ih _ _ ?_ hnext
      rw [Watched.run_call, ← hrun, ← hstep]
  exact hgeneral .start .start rfl Ledger.inOrder_start

/-- The note that places a draft and the note behind it change the one draft that was begun. -/
example :
    let ledger := Ledger.start.afterAll ⟨(· = "a.swift"), [], true⟩
      [.feed "@m:1: error: lost\na.swift:3: note: here\na.swift:4: note: there\n"]
    ledger.current = some 0 ∧ ledger.pending = false ∧ ledger.listOf "a.swift" = [0] ∧
      ledger.drafts.map (·.notes.length) = [2] := by
  decide +kernel

end Report

end Reconcile
