import Reconcile.Proofs.Agenda

/-!
# What was published and what is shown

A manager remembers what it published, and the board shows it. When the board refuses a list, the
manager has already taken note of it, and the two part; the board goes on showing the last list that
it took. This file says for how long.

* `published_eq_shown_unless_refused`: after every history on any board, the two agree on every file
  about which the last call was not refused. Right after a refusal, what counts as published is the
  merge of what is stored, as if the board had taken it.
* `refused_list_is_published`: a list that was refused counts as published.

The calls that a board received decide what it shows (`Agrees.shown`) and on which files the manager
is to be believed (`Agrees.standing`). Publishing a file, taken or refused, keeps both, whatever the
store holds; so every event does.
-/

namespace Reconcile

/-! ## Calls about a file -/

namespace Call

/-- Whether a call is about a file; clearing is about every file. -/
def isAbout (file : String) : Call → Bool
  | set name _ => name = file
  | refused name => name = file
  | delete name => name = file
  | clear => true

/-- Whether a board did what the call asked for. -/
def isTaken : Call → Bool
  | refused _ => false
  | _ => true

/-- What a call makes a board show for the file it is about. -/
def shows? : Call → Option (List Diagnostic)
  | set _ ds => some ds
  | _ => none

/-- The last of some calls that is about a file. -/
def lastAbout? (file : String) (calls : List Call) : Option Call :=
  (calls.filter (isAbout file)).getLast?

theorem lastAbout?_concat (file : String) (calls : List Call) (call : Call) :
    lastAbout? file (calls ++ [call]) =
      if call.isAbout file then some call else lastAbout? file calls :=
  getLast?_filter_concat (isAbout file) calls call

/-- What calls make a board show for a file: the last that it took decides. -/
def shown? (file : String) (calls : List Call) : Option (List Diagnostic) :=
  (lastAbout? file (calls.filter isTaken)).bind shows?

theorem shown?_concat (file : String) (calls : List Call) (call : Call) :
    shown? file (calls ++ [call]) =
      if call.isTaken && call.isAbout file then call.shows? else shown? file calls := by
  rw [shown?, shown?, lastAbout?, lastAbout?, List.filter_filter, List.filter_filter,
    getLast?_filter_concat, Bool.and_comm]
  split
  next => rfl
  next => rfl

end Call

/-! ## Agreement -/

/-- The board shows what the calls that it took make it show, and what was published is what it
shows, but for the files about which it refused the last call. -/
structure Agrees (published : FileMap (List Diagnostic)) (board : Board) : Prop where
  shown : ∀ file, board.shown.get? file = Call.shown? file board.calls
  standing : ∀ file, Call.lastAbout? file board.calls ≠ some (.refused file) →
    published.get? file = board.shown.get? file

namespace Agrees

open Call

variable {published : FileMap (List Diagnostic)} {board : Board}

theorem start : Agrees .empty .empty :=
  ⟨fun _ => rfl, fun _ _ => rfl⟩

theorem set (h : Agrees published board) (file : String) (ds : List Diagnostic) :
    Agrees (published.set file ds) (board.set file ds) where
  shown other := by
    show (board.shown.set file ds).get? other = shown? other (board.calls ++ [.set file ds])
    rw [FileMap.get?_set, shown?_concat, h.shown]
    by_cases heq : other = file
    · simp [heq, isTaken, isAbout, shows?]
    · simp [heq, Ne.symm heq, isTaken, isAbout]
  standing other hstanding := by
    show (published.set file ds).get? other = (board.shown.set file ds).get? other
    rw [FileMap.get?_set, FileMap.get?_set]
    by_cases heq : other = file
    · rw [if_pos heq, if_pos heq]
    · rw [if_neg heq, if_neg heq]
      refine h.standing other fun hlast => hstanding ?_
      show lastAbout? other (board.calls ++ [.set file ds]) = some (.refused other)
      rw [lastAbout?_concat, if_neg (by simpa [isAbout] using Ne.symm heq), hlast]

/-- A list that is refused counts as published, but the file no longer stands. -/
theorem refuse (h : Agrees published board) (file : String) (ds : List Diagnostic) :
    Agrees (published.set file ds) (board.refuse file) where
  shown other := by
    show board.shown.get? other = shown? other (board.calls ++ [.refused file])
    rw [shown?_concat, h.shown]
    rfl
  standing other hstanding := by
    have hlast : lastAbout? other (board.calls ++ [.refused file]) ≠ some (.refused other) :=
      hstanding
    rw [lastAbout?_concat] at hlast
    show (published.set file ds).get? other = board.shown.get? other
    by_cases heq : other = file
    · simp [heq, isAbout] at hlast
    · rw [FileMap.get?_set_of_ne _ _ heq]
      rw [if_neg (by simpa [isAbout] using Ne.symm heq)] at hlast
      exact h.standing other hlast

theorem delete (h : Agrees published board) (file : String) :
    Agrees (published.erase file) (board.delete file) where
  shown other := by
    show (board.shown.erase file).get? other = shown? other (board.calls ++ [.delete file])
    rw [FileMap.get?_erase, shown?_concat, h.shown]
    by_cases heq : other = file
    · simp [heq, isTaken, isAbout, shows?]
    · simp [heq, Ne.symm heq, isTaken, isAbout]
  standing other hstanding := by
    show (published.erase file).get? other = (board.shown.erase file).get? other
    rw [FileMap.get?_erase, FileMap.get?_erase]
    by_cases heq : other = file
    · rw [if_pos heq, if_pos heq]
    · rw [if_neg heq, if_neg heq]
      refine h.standing other fun hlast => hstanding ?_
      show lastAbout? other (board.calls ++ [.delete file]) = some (.refused other)
      rw [lastAbout?_concat, if_neg (by simpa [isAbout] using Ne.symm heq), hlast]

/-- A board that was cleared agrees with nothing published, whatever there was before. -/
theorem clear (board : Board) : Agrees .empty board.clear where
  shown other := by
    show none = shown? other (board.calls ++ [.clear])
    rw [shown?_concat]
    rfl
  standing _ _ := rfl

end Agrees

namespace Manager

/-- What was published agrees with the board, and a file that was just refused counts as published
with what is stored for it. -/
structure Accountable (m : Manager) : Prop where
  agrees : Agrees m.published m.board
  refused : ∀ file, m.board.calls.getLast? = some (.refused file) →
    m.published.get? file = some (m.merged file)

variable {m : Manager} (world : Surroundings)

/-! ## Publishing -/

/-- The last call decides whether a manager is accountable. -/
theorem accountable_of_lastCall {calls : List Call} {call : Call}
    (hagrees : Agrees m.published m.board) (hcalls : m.board.calls = calls ++ [call])
    (h : ∀ file, call = .refused file → m.published.get? file = some (m.merged file)) :
    Accountable m where
  agrees := hagrees
  refused file hlast := by
    rw [hcalls, List.getLast?_concat, Option.some.injEq] at hlast
    exact h file hlast

/-- Publishing makes a manager accountable, whatever became of its store before. -/
theorem accountable_publish (h : Agrees m.published m.board) (file : String) :
    Accountable (m.publish world file).1 := by
  rw [publish]
  dsimp only
  split
  next =>
    refine accountable_of_lastCall (h.refuse file (m.merged file)) rfl ?_
    rintro other ⟨⟩
    exact FileMap.get?_set_self ..
  next =>
    refine accountable_of_lastCall (h.set file (m.merged file)) rfl ?_
    rintro other ⟨⟩

theorem Accountable.publishAll (h : Accountable m) (files : List String) :
    Accountable (m.publishAll world files).1 :=
  publishAll_induction h fun _ hnext file _ => accountable_publish world hnext.agrees file

/-- So does publishing several files, which begins with a first. -/
theorem accountable_publishAll (h : Agrees m.published m.board) (file : String)
    (files : List String) : Accountable (m.publishAll world (file :: files)).1 := by
  have hnext := accountable_publish world h file
  rw [Manager.publishAll]
  split
  next next heq =>
    rw [heq] at hnext
    exact hnext.publishAll world files
  next => exact hnext

theorem Accountable.submit (h : Accountable m) (path : String) (source : Source)
    (ds : List Diagnostic) : Accountable (m.submit world path source ds).1 := by
  rw [Manager.submit]
  split
  next => exact h
  next =>
    let ingested := { m with store := (m.store.ingest (canonical path) source ds).1 }
    exact accountable_publish (m := ingested) world h.agrees (canonical path)

theorem Accountable.submitAll (h : Accountable m) (reports : List (String × List Diagnostic)) :
    Accountable (m.submitAll world reports).1 :=
  submitAll_induction h (fun _ hnext path ds => hnext.submit world path .textual ds) reports

/-! ## Events -/

theorem accountable_start (settings : Settings) : Accountable (start settings) where
  agrees := .start
  refused file hlast := by cases hlast

/-- Nothing counts as published once the board was cleared. -/
theorem accountable_of_cleared (board : Board) (hboard : m.board = board.clear)
    (hpublished : m.published = .empty) : Accountable m := by
  have hagrees : Agrees m.published m.board := by
    rw [hboard, hpublished]
    exact .clear board
  refine accountable_of_lastCall hagrees (congrArg Board.calls hboard) ?_
  rintro file ⟨⟩

theorem Accountable.deleteFile (h : Accountable m) (path : String) :
    Accountable (m.deleteFile path).1 := by
  rw [Manager.deleteFile]
  split
  next => exact h
  next =>
    refine accountable_of_lastCall (h.agrees.delete (canonical path)) rfl ?_
    rintro file ⟨⟩

/-- Without the compiler's records a manager is accountable once the first stored file is published;
if no file is stored, there are no records. -/
theorem Accountable.publishAll_stripped (h : Accountable m) :
    let stripped := { m with store := m.store.removeSource .textual }
    Accountable (stripped.publishAll world stripped.store.files).1 := by
  intro stripped
  cases hfiles : stripped.store.files with
  | nil =>
    have hmerged : ∀ file, m.merged file = stripped.merged file := by
      intro file
      have hnone : file ∉ m.store.files := by
        rw [← Store.files_removeSource m.store .textual, hfiles]
        exact List.not_mem_nil
      rw [merged, merged, show stripped.store.get file = _ from Store.get_removeSource ..,
        Store.get_of_not_mem_files hnone, List.filter_nil]
    exact ⟨h.agrees, fun file hlast => (h.refused file hlast).trans (congrArg some (hmerged file))⟩
  | cons file files => exact accountable_publishAll (m := stripped) world h.agrees file files

theorem Accountable.applyRun (h : Accountable m) (reports : Report.Reports) :
    Accountable (m.applyRun world reports).1 := by
  have hstripped := h.publishAll_stripped world
  rw [Manager.applyRun]
  split
  next => exact h
  next =>
    dsimp only at hstripped ⊢
    split
    next next heq =>
      rw [heq] at hstripped
      exact hstripped.submitAll world reports.entries
    next => exact hstripped

theorem accountable_reconfigureUnder (h : Accountable m) (settings : Settings)
    (policy : Option Policy) : Accountable (m.reconfigureUnder world settings policy).1 := by
  rw [Manager.reconfigureUnder]
  split
  next => exact h
  next => exact (accountable_of_cleared m.board rfl rfl).publishAll world m.store.files

/-- Every event keeps it so, whatever the board refuses. -/
theorem Accountable.after (h : Accountable m) (event : Event) :
    Accountable (m.after world event) := by
  apply after_cases (P := Accountable)
  case runs => exact fun _ _ => ⟨h.agrees, h.refused⟩
  case applied =>
    intro number reports _
    have hcompleted : Accountable (m.withRun number (.completed reports)) := ⟨h.agrees, h.refused⟩
    exact hcompleted.applyRun world reports
  case submit => exact fun path source ds _ => h.submit world path source ds
  case deleteFile => exact fun path => h.deleteFile path
  case reconfigureUnder =>
    exact fun settings policy => accountable_reconfigureUnder world h settings policy
  case clear => exact accountable_of_cleared m.board rfl rfl
  case dispose =>
    intro _
    rw [dispose]
    split
    next => exact h
    next => exact accountable_of_cleared (m.active.foldl abandon m).board rfl rfl

theorem accountable_afterAll (settings : Settings) (events : List Event) :
    Accountable ((start settings).afterAll world events) :=
  afterAll_induction (accountable_start settings) (fun _ event h => h.after world event) events

/-- **What was published is what is shown, unless the last call was refused.** After every history,
on a board that may refuse any file at any time: the board shows for a file what the last call about
it that was taken made it show. What counts as published for a file is the same, unless the last call
about the file was refused. If the very last call was refused, what counts as published for its file
is the merge of what is stored, though the board goes on showing the list from before. -/
theorem published_eq_shown_unless_refused (settings : Settings) (history : List Event) :
    let m := (start settings).afterAll world history
    (∀ file, m.board.shown.get? file = Call.shown? file m.board.calls) ∧
      (∀ path, Call.lastAbout? (canonical path) m.board.calls ≠ some (.refused (canonical path)) →
        m.publishedFor path = m.board.get (canonical path)) ∧
      ∀ file, m.board.calls.getLast? = some (.refused file) →
        m.published.get? file = some (merge (m.policy.getD .unionAll) (m.store.get file)) := by
  intro m
  have h : Accountable m := accountable_afterAll world settings history
  refine ⟨h.agrees.shown, fun path hstanding => ?_, h.refused⟩
  rw [publishedFor, Board.get, h.agrees.standing _ hstanding]

/-- A board refuses one file and then takes another. -/
theorem published_eq_shown_unless_refused_of_two :
    let boom : Diagnostic := ⟨"b.swift", .point ⟨0, 0⟩, .error, "Boom", .structured, [], none⟩
    let board := Surroundings.refusing (fun _ => true) fun file => decide (file = "a.swift")
    let m := (start .standard).afterAll board
      [.submit "a.swift" .structured [boom], .submit "b.swift" .structured [boom]]
    Call.lastAbout? "a.swift" m.board.calls = some (.refused "a.swift") ∧
      Call.lastAbout? (canonical "b.swift") m.board.calls ≠ some (.refused (canonical "b.swift")) ∧
      m.publishedFor "b.swift" = m.board.get (canonical "b.swift") ∧
      (m.publishedFor "b.swift").length = 1 := by
  intro boom board m
  have hstanding : Call.lastAbout? (canonical "b.swift") m.board.calls ≠
      some (.refused (canonical "b.swift")) := by decide +kernel
  obtain ⟨-, hagrees, -⟩ := published_eq_shown_unless_refused board .standard
    [.submit "a.swift" .structured [boom], .submit "b.swift" .structured [boom]]
  exact ⟨by decide +kernel, hstanding, hagrees "b.swift" hstanding, by decide +kernel⟩

/-- A list that the board refused counts as published, and the board shows nothing. -/
theorem refused_list_is_published :
    let boom : Diagnostic := ⟨"a.swift", .point ⟨0, 0⟩, .error, "Boom", .structured, [], none⟩
    let board := Surroundings.refusing (fun _ => true) fun _ => true
    let m := (start .standard).after board (.submit "a.swift" .structured [boom])
    (m.publishedFor "a.swift").length = 1 ∧ m.board.get "a.swift" = [] := by
  decide +kernel

end Manager

end Reconcile
