import Mathlib.Data.List.Basic
import Mathlib.Data.List.Nodup
import Reconcile.Proofs.Completion
import Reconcile.Proofs.Drafts

/-!
# Runs as ledgers

A draft that was reported is known twice: it is listed under its file, and it is the one that notes
belong to. A note that comes later changes it in both places. A run knows this by position, since the
draft that notes belong to is the last one of its file. Here the same run is kept as a ledger: drafts
get numbers as they are begun, the slot for the current draft and the lists of the files hold numbers,
and whoever changes a draft changes it under its number.

This file says what a ledger is, which run it shows (`Ledger.run`), and what can be done to it: drafts
are begun (`hold`), changed (`change`) and listed (`enlist`). Each of these has a lemma that says when
lists and drafts still agree (`Filed`), and one that says what becomes of the reports. The largest of
them is `reports_change_last`: a note for the draft that is listed last under its file goes to the last
report of that file and nowhere else.
-/

namespace Reconcile

/-! ## What is reported -/

/-- A place in a file: a range without characters, whose coordinates count from zero. -/
structure Range.IsPlace (range : Range) : Prop where
  empty : range.start = range.stop
  line : 0 ≤ range.start.line
  character : 0 ≤ range.start.character

/-- A diagnostic as the compiler reports a problem: an error or a warning at a place. -/
structure Diagnostic.IsProblem (d : Diagnostic) : Prop extends Diagnostic.IsDraft d where
  severity : d.severity = .error ∨ d.severity = .warning
  range : d.range.IsPlace

/-- The gravity of a line that is no note is that of a problem. -/
theorem Severity.ofWord_cases (word : String) :
    ofWord word = .information ∨ ofWord word = .error ∨ ofWord word = .warning := by
  unfold ofWord
  split
  next => exact Or.inr (Or.inr rfl)
  next =>
    split
    next => exact Or.inl rfl
    next => exact Or.inr (Or.inl rfl)

namespace Report

open Text

/-- What can be said of every line that is read. -/
structure Line.IsRead (line : Line) : Prop where
  file : Path.normalize line.file = line.file
  range : line.range.IsPlace
  severity : line.isNote = false → line.severity = .error ∨ line.severity = .warning

theorem Line.isRead {text : String} {line : Line} (h : Line.read? text = .ok (some line)) :
    line.IsRead := by
  obtain ⟨path, number, column, word, message, rfl⟩ := Line.exists_of_read? h
  refine ⟨Path.normalize_normalize path, ⟨rfl, Int.le_max_right .., Int.le_max_right ..⟩, ?_⟩
  intro hnote
  exact (Severity.ofWord_cases word).resolve_left (of_decide_eq_false hnote)

theorem Line.IsRead.draft {line : Line} (h : line.IsRead) (hnote : line.isNote = false) :
    line.draft.IsProblem where
  toIsDraft := Line.isDraft_draft h.file
  severity := h.severity hnote
  range := h.range

theorem Line.IsRead.rescue {line : Line} (h : line.IsRead) {d : Diagnostic} (hd : d.IsProblem) :
    (rescue d line.note).IsProblem where
  file := h.file
  source := hd.source
  message := hd.message
  code := hd.code
  severity := hd.severity
  range := h.range

/-- The diagnostic with one more note. -/
def noted (note : Note) (d : Diagnostic) : Diagnostic :=
  { d with notes := d.notes ++ [note] }

theorem nodup_concat {α : Type} {xs : List α} {x : α} (h : xs.Nodup) (hx : x ∉ xs) :
    (xs ++ [x]).Nodup :=
  List.nodup_append_comm.mp (List.nodup_cons.mpr ⟨hx, h⟩)

theorem isProblem_noted {note : Note} {d : Diagnostic} (h : d.IsProblem) :
    (noted note d).IsProblem where
  file := h.file
  source := h.source
  message := h.message
  code := h.code
  severity := h.severity
  range := h.range

/-! ## Ledgers -/

/-- A run whose drafts are kept by number. -/
structure Ledger where
  unfinished : List Char
  /-- Every draft that was begun; its number is its place here. -/
  drafts : List Diagnostic
  current : Option Nat
  /-- The current draft waits for a place. -/
  pending : Bool
  lists : FileMap (List Nat)
  result : Option Reports
  finished : Bool
  disposed : Bool

namespace Ledger

/-- A ledger in which nothing is written. -/
def start : Ledger :=
  ⟨[], [], none, false, .empty, none, false, false⟩

/-- The numbers on the list of a file. -/
def listOf (l : Ledger) (file : String) : List Nat :=
  (l.lists.get? file).getD []

/-- What is listed, draft for draft. -/
def reports (l : Ledger) : Reports :=
  l.lists.mapValues fun _ numbers => numbers.filterMap (l.drafts[·]?)

/-- Begins a draft. It is the current one and waits for a place. -/
def hold (l : Ledger) (draft : Diagnostic) : Ledger :=
  { l with drafts := l.drafts ++ [draft], current := some l.drafts.length, pending := true }

/-- Changes a draft, for everyone who knows its number. -/
def change (l : Ledger) (number : Nat) (f : Diagnostic → Diagnostic) : Ledger :=
  { l with drafts := l.drafts.modify number f }

/-- Lists a draft under a file. Nothing waits for a place any longer. -/
def enlist (l : Ledger) (file : String) (number : Nat) : Ledger :=
  { l with lists := l.lists.set file (l.listOf file ++ [number]), pending := false }

/-- No notes are taken until the next problem. -/
def drop (l : Ledger) : Ledger :=
  { l with current := none, pending := false }

/-- A note goes to the current draft, unless that has it already. If the draft waits for a place, it
moves to that of the note. -/
def takeNote (setup : Setup) (l : Ledger) (line : Line) : Ledger :=
  match l.current with
  | none => l
  | some number =>
    if setup.dropRepeats && (l.drafts[number]?).any (·.notes.contains line.note) then l
    else
      let l := l.change number (noted line.note)
      if l.pending then
        let l := l.change number fun d => { d with file := line.file, range := line.range }
        l.enlist line.file number
      else l

/-- A problem begins a draft, unless the list of its file has one like it. -/
def takeProblem (setup : Setup) (l : Ledger) (line : Line) : Ledger :=
  if setup.dropRepeats &&
      (l.listOf line.file).any fun number => (l.drafts[number]?).any (·.sameReport line.draft) then
    l.drop
  else
    let number := l.drafts.length
    let l := l.hold line.draft
    if setup.resolves line.file then l.enlist line.file number else l

/-- The ledger after a report line. -/
def take (setup : Setup) (l : Ledger) (line : Line) : Ledger :=
  if line.isNote then l.takeNote setup line else l.takeProblem setup line

/-- The ledger after any line that can be read. -/
def takeText (setup : Setup) (l : Ledger) (text : String) : Except LongNumeral Ledger :=
  if text.isEmpty then .ok l
  else
    (Line.read? text).map fun
      | none => l
      | some line => l.take setup line

/-- No line is unfinished and no draft is current. -/
def reset (l : Ledger) : Ledger :=
  { l.drop with unfinished := [] }

/-- Ends the run with what is listed. -/
def complete (l : Ledger) : Ledger :=
  { l.reset with finished := true, result := some l.reports, lists := .empty }

/-- Reads complete lines up to the first marker or fault. -/
def readLines (setup : Setup) (l : Ledger) : List (List Char) → Ledger × Option LineFault
  | [] => (l, none)
  | raw :: lines =>
    let line := plainLine raw
    match setup.isMarker line with
    | .error fault => (l, some (.crossedGroup fault))
    | .ok true => (l.complete, none)
    | .ok false =>
      match l.takeText setup line with
      | .error fault => (l, some (.numeral fault))
      | .ok next => next.readLines setup lines

/-- Reads a chunk of output. -/
def feed (setup : Setup) (chunk : String) (l : Ledger) : Ledger × Option LineFault :=
  if l.finished then (l, none)
  else
    let broken := breakLines (l.unfinished ++ chunk.toList)
    { l with unfinished := broken.2 }.readLines setup broken.1

/-- Ends the run. -/
def close (l : Ledger) : Ledger :=
  if l.finished then l else l.complete

/-- Gives the run up. -/
def abandon (l : Ledger) : Ledger :=
  if l.finished then l else { l.reset with finished := true, disposed := true, lists := .empty }

/-- The ledger after a call, and what is wrong with the line at which the call stopped. -/
def step (setup : Setup) (l : Ledger) : Run.Call → Ledger × Option LineFault
  | .feed chunk => l.feed setup chunk
  | .close => (l.close, none)
  | .abandon => (l.abandon, none)

/-- The ledger after calls, whether or not some of them stopped at a fault. -/
def afterAll (setup : Setup) (l : Ledger) (calls : List Run.Call) : Ledger :=
  calls.foldl (fun l call => (l.step setup call).1) l

/-! ### What a ledger shows -/

/-- The draft that notes belong to. -/
def focus (l : Ledger) : Focus :=
  match l.current.bind (l.drafts[·]?) with
  | none => .nothing
  | some draft => if l.pending then .held draft else .reported draft.file

/-- What the lines have come to. -/
def progress (l : Ledger) : Progress :=
  ⟨l.focus, l.reports⟩

/-- The run that a ledger shows. -/
def run (l : Ledger) : Run :=
  if l.finished then
    if l.disposed then .abandoned else .completed (l.result.getD .empty)
  else .reading l.unfinished l.progress

/-! ### Lists and drafts -/

/-- Lists and drafts agree, and the drafts are what the compiler reports. -/
structure Filed (setup : Setup) (l : Ledger) : Prop where
  nonempty : ∀ file ∈ l.lists.files, l.listOf file ≠ []
  listed : ∀ file, ∀ number ∈ l.listOf file,
    ∃ draft, l.drafts[number]? = some draft ∧ draft.file = file
  once : ∀ file, (l.listOf file).Nodup
  problems : ∀ draft ∈ l.drafts, draft.IsProblem
  distinct : setup.dropRepeats = true → ∀ draft ∈ l.drafts, draft.notes.Nodup

section

variable {setup : Setup} {l : Ledger} {number : Nat} {draft : Diagnostic}

theorem listOf_enlist (l : Ledger) (file other : String) (number : Nat) :
    (l.enlist file number).listOf other =
      if other = file then l.listOf file ++ [number] else l.listOf other := by
  show ((l.lists.set file (l.listOf file ++ [number])).get? other).getD [] = _
  rw [FileMap.get?_set]
  split <;> rfl

theorem getElem?_change (l : Ledger) (number other : Nat) (f : Diagnostic → Diagnostic) :
    (l.change number f).drafts[other]? =
      if number = other then (l.drafts[other]?).map f else l.drafts[other]? := by
  rw [change, List.getElem?_modify]
  split
  next => rfl
  next => rw [Option.map_eq_map, Option.map_id']

theorem getElem?_change_self (hdraft : l.drafts[number]? = some draft) (f : Diagnostic → Diagnostic) :
    (l.change number f).drafts[number]? = some (f draft) := by
  rw [getElem?_change, if_pos rfl, hdraft]
  rfl

/-- Only one draft is changed. -/
theorem mem_drafts_change (hdraft : l.drafts[number]? = some draft) {f : Diagnostic → Diagnostic}
    {d : Diagnostic} (h : d ∈ (l.change number f).drafts) : d ∈ l.drafts ∨ d = f draft := by
  obtain ⟨other, hother⟩ := List.mem_iff_getElem?.mp h
  rw [getElem?_change] at hother
  split at hother
  next heq =>
    rw [← heq, hdraft] at hother
    exact Or.inr (Option.some.inj hother).symm
  next => exact Or.inl (List.mem_iff_getElem?.mpr ⟨other, hother⟩)

theorem getElem?_hold (hdraft : l.drafts[number]? = some draft) (begun : Diagnostic) :
    (l.hold begun).drafts[number]? = some draft := by
  have hlt : number < l.drafts.length := (List.getElem?_eq_some_iff.mp hdraft).1
  exact (List.getElem?_append_left hlt).trans hdraft

theorem Filed.change (h : l.Filed setup) {f : Diagnostic → Diagnostic}
    (hdraft : l.drafts[number]? = some draft) (hproblem : (f draft).IsProblem)
    (hdistinct : setup.dropRepeats = true → (f draft).notes.Nodup)
    (hfile : ∀ file, number ∈ l.listOf file → (f draft).file = file) :
    (l.change number f).Filed setup where
  nonempty := h.nonempty
  listed file other hother := by
    by_cases heq : number = other
    · subst heq
      exact ⟨f draft, getElem?_change_self hdraft f, hfile file hother⟩
    · rw [getElem?_change, if_neg heq]
      exact h.listed file other hother
  once := h.once
  problems d hd := by
    rcases mem_drafts_change hdraft hd with hd | rfl
    · exact h.problems d hd
    · exact hproblem
  distinct hdrop d hd := by
    rcases mem_drafts_change hdraft hd with hd | rfl
    · exact h.distinct hdrop d hd
    · exact hdistinct hdrop

theorem Filed.hold (h : l.Filed setup) (hproblem : draft.IsProblem) (hnotes : draft.notes = []) :
    (l.hold draft).Filed setup where
  nonempty := h.nonempty
  listed file other hother := by
    obtain ⟨d, hd, hfile⟩ := h.listed file other hother
    exact ⟨d, getElem?_hold hd draft, hfile⟩
  once := h.once
  problems d hd := by
    rcases List.mem_append.mp hd with hd | hd
    · exact h.problems d hd
    · rw [List.mem_singleton.mp hd]
      exact hproblem
  distinct hdrop d hd := by
    rcases List.mem_append.mp hd with hd | hd
    · exact h.distinct hdrop d hd
    · rw [List.mem_singleton.mp hd, hnotes]
      exact List.nodup_nil

theorem Filed.enlist (h : l.Filed setup) (hdraft : l.drafts[number]? = some draft)
    (hunlisted : ∀ file, number ∉ l.listOf file) : (l.enlist draft.file number).Filed setup where
  nonempty file hfile := by
    rw [listOf_enlist]
    split
    next => exact List.append_ne_nil_of_right_ne_nil _ (List.cons_ne_nil _ _)
    next hne =>
      refine h.nonempty file ?_
      rw [show (l.enlist draft.file number).lists.files = _ from FileMap.files_set ..] at hfile
      split at hfile
      next => exact hfile
      next =>
        refine (List.mem_append.mp hfile).resolve_right fun hlast => ?_
        exact hne (List.mem_singleton.mp hlast)
  listed file other hother := by
    rw [listOf_enlist] at hother
    split at hother
    next heq =>
      rcases List.mem_append.mp hother with hother | hother
      · exact heq ▸ h.listed draft.file other hother
      · rw [List.mem_singleton.mp hother]
        exact ⟨draft, hdraft, heq.symm⟩
    next => exact h.listed file other hother
  once file := by
    rw [listOf_enlist]
    split
    next => exact nodup_concat (h.once _) (hunlisted _)
    next => exact h.once file
  problems := h.problems
  distinct := h.distinct

/-! ### What becomes of the reports -/

theorem get?_reports (l : Ledger) (file : String) :
    l.reports.get? file = (l.lists.get? file).map (·.filterMap (l.drafts[·]?)) :=
  FileMap.get?_mapValues ..

theorem reports_of (l : Ledger) (file : String) :
    l.reports.of file = (l.listOf file).filterMap (l.drafts[·]?) := by
  rw [Reports.of, get?_reports, listOf]
  cases l.lists.get? file <;> rfl

/-- Reports stay the same if the lists and the drafts on them do. -/
theorem reports_congr {next : Ledger} (hlists : next.lists = l.lists)
    (hdrafts : ∀ file, ∀ number ∈ l.listOf file, next.drafts[number]? = l.drafts[number]?) :
    next.reports = l.reports := by
  apply FileMap.ext_get?
  · rw [reports, reports, FileMap.files_mapValues, FileMap.files_mapValues, hlists]
  · intro file
    rw [get?_reports, get?_reports, hlists]
    cases hget : l.lists.get? file with
    | none => rfl
    | some numbers =>
      refine congrArg some (List.filterMap_congr fun number hnumber => hdrafts file number ?_)
      rw [listOf, hget]
      exact hnumber

theorem reports_change_of_unlisted (hunlisted : ∀ file, number ∉ l.listOf file)
    (f : Diagnostic → Diagnostic) : (l.change number f).reports = l.reports := by
  refine reports_congr rfl fun file other hother => ?_
  have hne : number ≠ other := by
    rintro rfl
    exact hunlisted file hother
  rw [getElem?_change, if_neg hne]

theorem reports_hold (h : l.Filed setup) (draft : Diagnostic) :
    (l.hold draft).reports = l.reports := by
  refine reports_congr rfl fun file other hother => ?_
  obtain ⟨d, hd, -⟩ := h.listed file other hother
  rw [getElem?_hold hd, hd]

theorem reports_enlist (hdraft : l.drafts[number]? = some draft) :
    (l.enlist draft.file number).reports = l.reports.add draft := by
  have hconcat : (l.listOf draft.file ++ [number]).filterMap (l.drafts[·]?) =
      l.reports.of draft.file ++ [draft] := by
    rw [List.filterMap_append, reports_of, List.filterMap_cons, hdraft]
    rfl
  rw [Reports.add, ← hconcat]
  exact FileMap.mapValues_set ..

/-- Only the lists on which a draft stands show that it was changed. -/
theorem filterMap_change_of_not_mem {numbers : List Nat} (h : number ∉ numbers)
    (f : Diagnostic → Diagnostic) :
    numbers.filterMap ((l.change number f).drafts[·]?) = numbers.filterMap (l.drafts[·]?) := by
  refine List.filterMap_congr fun other hother => ?_
  rw [getElem?_change, if_neg fun heq : number = other => h (heq ▸ hother)]

/-- The last number under a file stands on its list once. -/
theorem Filed.exists_front (h : l.Filed setup) {file : String}
    (hlast : (l.listOf file).getLast? = some number) :
    ∃ front, number ∉ front ∧ l.lists.get? file = some (front ++ [number]) := by
  obtain ⟨front, hfront⟩ := List.getLast?_eq_some_iff.mp hlast
  have honce := h.once file
  rw [hfront, ← List.concat_eq_append, List.nodup_concat] at honce
  refine ⟨front, honce.1, ?_⟩
  rw [listOf] at hfront
  cases hget : l.lists.get? file with
  | none =>
    rw [hget] at hfront
    exact absurd hfront.symm (List.append_ne_nil_of_right_ne_nil _ (List.cons_ne_nil _ _))
  | some numbers =>
    rw [hget] at hfront
    exact congrArg some hfront

/-- A note for the draft that is listed last under its file goes to the last report of the file. -/
theorem reports_change_last (h : l.Filed setup) (hdraft : l.drafts[number]? = some draft)
    (hlast : (l.listOf draft.file).getLast? = some number) (note : Note) :
    (l.change number (noted note)).reports =
      l.reports.set draft.file (noteLast note (l.reports.of draft.file)) := by
  obtain ⟨front, hfresh, hget⟩ := h.exists_front hlast
  have hreports : l.reports.of draft.file = front.filterMap (l.drafts[·]?) ++ [draft] := by
    rw [reports_of, listOf, hget, Option.getD_some, List.filterMap_append, List.filterMap_cons, hdraft]
    rfl
  have hown : (front ++ [number]).filterMap ((l.change number (noted note)).drafts[·]?) =
      noteLast note (l.reports.of draft.file) := by
    rw [hreports, noteLast_concat, List.filterMap_append, filterMap_change_of_not_mem hfresh,
      List.filterMap_cons, getElem?_change_self hdraft]
    rfl
  apply FileMap.ext_get?
  · have hmem : draft.file ∈ l.reports.files := by
      rw [FileMap.mem_files_iff, get?_reports, hget]
      rfl
    rw [FileMap.files_set, if_pos hmem, reports, reports, FileMap.files_mapValues,
      FileMap.files_mapValues]
    rfl
  · intro other
    rw [FileMap.get?_set, get?_reports, show (l.change number (noted note)).lists = l.lists from rfl]
    split
    next heq =>
      rw [heq, hget]
      exact congrArg some hown
    next hne =>
      rw [get?_reports]
      cases hlist : l.lists.get? other with
      | none => rfl
      | some numbers =>
        -- the draft stands under no other file than its own
        refine congrArg some (filterMap_change_of_not_mem (fun hnumber => hne ?_) _)
        obtain ⟨d, hd, hfile⟩ := h.listed other number (by rw [listOf, hlist]; exact hnumber)
        rw [hdraft] at hd
        rw [Option.some.inj hd, hfile]

/-- A draft that is listed last under its file is reported last of it. -/
theorem getLast?_reports (hdraft : l.drafts[number]? = some draft)
    (hlast : (l.listOf draft.file).getLast? = some number) :
    (l.reports.of draft.file).getLast? = some draft := by
  obtain ⟨front, hfront⟩ := List.getLast?_eq_some_iff.mp hlast
  rw [reports_of, hfront, List.filterMap_append, List.filterMap_cons, hdraft]
  exact List.getLast?_concat

theorem any_listOf (l : Ledger) (file : String) (p : Diagnostic → Bool) :
    (l.listOf file).any (fun number => (l.drafts[number]?).any p) = (l.reports.of file).any p := by
  rw [reports_of, List.any_filterMap]
  refine congrArg (l.listOf file).any (funext fun number => ?_)
  cases l.drafts[number]? <;> rfl

end

end Ledger

end Report

end Reconcile
