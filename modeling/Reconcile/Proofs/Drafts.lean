import Reconcile.Diagnostic.Normal
import Reconcile.Proofs.Paths
import Reconcile.Proofs.Streams

/-!
# What a run reports

A run goes on by being fed, ended and given up. Whatever comes of it, the diagnostics that it
reports are the compiler's, each under its own file, in the wording that both producers share and
without a code, and the files go by their normal paths (`Run.Evolves.sound`). So normalizing a
report leaves it as it is but for repeated notes (`normalize_of_isDraft`), and no two files of a run
are the same.
-/

namespace Reconcile

/-- A diagnostic as the compiler reports it. -/
structure Diagnostic.IsDraft (d : Diagnostic) : Prop where
  file : Path.normalize d.file = d.file
  source : d.source = .textual
  message : Wording.normalize d.message = d.message
  code : d.code = none

/-- The diagnostic with every note once. -/
def Diagnostic.withDistinctNotes (d : Diagnostic) : Diagnostic :=
  { d with notes := distinctNotes d.notes }

/-- Normalizing a report only drops repeated notes. -/
theorem Diagnostic.normalize_of_isDraft {d : Diagnostic} (h : d.IsDraft) (how : Normalization) :
    d.normalize how = d.withDistinctNotes := by
  have hcode : how.code d.code = d.code := by
    rw [h.code, Normalization.code]
    split <;> rfl
  rw [Diagnostic.normalize, h.message, hcode, withDistinctNotes]

namespace Report

open Text

/-- The files of reports go by their normal paths, and what is reported in them are drafts under
their names. -/
structure Reports.Sound (reports : Reports) : Prop where
  files : ∀ file ∈ reports.files, Path.normalize file = file
  drafts : ∀ file, ∀ d ∈ reports.of file, d.file = file ∧ d.IsDraft

theorem Reports.sound_empty : Reports.Sound .empty where
  files file hfile := by cases hfile
  drafts file d hd := by cases hd

/-- Reports stay sound when the list of a file is set to drafts under its name. -/
theorem Reports.Sound.set {reports : Reports} (h : reports.Sound) {file : String}
    {ds : List Diagnostic} (hfile : Path.normalize file = file)
    (hds : ∀ d ∈ ds, d.file = file ∧ d.IsDraft) : Reports.Sound (reports.set file ds) where
  files other hother := by
    rw [FileMap.files_set] at hother
    split at hother
    next => exact h.files other hother
    next =>
      rcases List.mem_append.mp hother with hother | hother
      · exact h.files other hother
      · rw [List.mem_singleton.mp hother]
        exact hfile
  drafts other d hd := by
    rw [Reports.of, FileMap.get?_set] at hd
    split at hd
    next heq => exact heq ▸ hds d hd
    next => exact h.drafts other d hd

theorem Reports.Sound.add {reports : Reports} (h : reports.Sound) {d : Diagnostic}
    (hd : d.IsDraft) : (reports.add d).Sound := by
  refine h.set hd.file fun e he => ?_
  rcases List.mem_append.mp he with he | he
  · exact h.drafts d.file e he
  · rw [List.mem_singleton.mp he]
    exact ⟨rfl, hd⟩

/-- What a line reports is put together from a path, two numerals, a word and a message. -/
theorem Line.exists_of_read? {text : String} {line : Line} (h : Line.read? text = .ok (some line)) :
    ∃ (path : String) (number column : Nat) (word message : String),
      line = ⟨Path.normalize path, .point (.ofReport number column), .ofWord word, message⟩ := by
  rw [Line.read?] at h
  split at h
  next => cases h
  next path tail _ =>
    split at h
    next => cases h
    next =>
      cases hline : readNumeral tail.line with
      | error fault => rw [hline] at h; cases h
      | ok number =>
        cases hcolumn : readNumeral (tail.column.getD ['1']) with
        | error fault => rw [hline, hcolumn] at h; cases h
        | ok column =>
          rw [hline, hcolumn] at h
          cases h
          exact ⟨_, number, column, _, _, rfl⟩

/-- A line that is read names its file by the normal path. -/
theorem Line.normalize_file {text : String} {line : Line} (h : Line.read? text = .ok (some line)) :
    Path.normalize line.file = line.file := by
  obtain ⟨path, _, _, _, _, rfl⟩ := Line.exists_of_read? h
  exact Path.normalize_normalize path

theorem normalize_file_of_mem_linesRead {markers : List Pattern} {lines : List (List Char)}
    {line : Line} (h : line ∈ (linesRead markers lines).1) :
    Path.normalize line.file = line.file := by
  induction lines with
  | nil => cases h
  | cons raw lines ih =>
    rw [linesRead] at h
    split at h
    next => cases h
    next => cases h
    next =>
      split at h
      next => cases h
      next => exact ih h
      next hread =>
        rcases List.mem_cons.mp h with rfl | h
        · exact Line.normalize_file hread
        · exact ih h

theorem Line.isDraft_draft {line : Line} (h : Path.normalize line.file = line.file) :
    line.draft.IsDraft :=
  ⟨h, rfl, Wording.normalize_normalize line.message, rfl⟩

/-- A note changes nothing but the notes of a diagnostic. -/
theorem exists_of_mem_noteLast {note : Note} {ds : List Diagnostic} {d : Diagnostic}
    (h : d ∈ noteLast note ds) : ∃ e ∈ ds, ∃ notes, d = { e with notes } := by
  induction ds with
  | nil => cases h
  | cons e ds ih =>
    cases ds with
    | nil => exact ⟨e, List.mem_cons_self .., _, List.mem_singleton.mp h⟩
    | cons e' ds =>
      rcases List.mem_cons.mp h with rfl | h
      · exact ⟨d, List.mem_cons_self .., d.notes, rfl⟩
      · obtain ⟨f, hf, heq⟩ := ih h
        exact ⟨f, List.mem_cons_of_mem _ hf, heq⟩

namespace Progress

/-- All reports are drafts under their own file, and so is what is held back. -/
structure Sound (progress : Progress) : Prop where
  reports : progress.reports.Sound
  held : ∀ draft, progress.focus = .held draft → draft.IsDraft

theorem sound_start : start.Sound :=
  ⟨Reports.sound_empty, fun _ h => by cases h⟩

variable {progress : Progress} {line : Line}

theorem Sound.note (h : progress.Sound) (setup : Setup)
    (hline : Path.normalize line.file = line.file) :
    (progress.record (progress.judgeNote setup line)).Sound := by
  rw [judgeNote]
  split
  next => exact h
  next draft hfocus =>
    -- the draft moves to the file of the note and stays a draft
    have hdraft := h.held draft hfocus
    exact ⟨h.reports.add ⟨hline, hdraft.source, hdraft.message, hdraft.code⟩, fun _ h => by cases h⟩
  next file hfocus =>
    split
    next => exact h
    next draft hlast =>
      split
      next => exact h
      next =>
        obtain ⟨hfile, hdraft⟩ := h.reports.drafts file draft (List.mem_of_getLast? hlast)
        refine ⟨h.reports.set (hfile ▸ hdraft.file) fun d hd => ?_, fun draft hheld =>
          h.held draft hheld⟩
        obtain ⟨e, he, notes, rfl⟩ := exists_of_mem_noteLast hd
        obtain ⟨hfile, hdraft⟩ := h.reports.drafts file e he
        exact ⟨hfile, hdraft.file, hdraft.source, hdraft.message, hdraft.code⟩

theorem Sound.problem (h : progress.Sound) (setup : Setup)
    (hline : Path.normalize line.file = line.file) :
    (progress.record (progress.judgeProblem setup line)).Sound := by
  rw [judgeProblem]
  split
  next => exact ⟨h.reports, fun _ h => by cases h⟩
  next =>
    split
    next => exact ⟨h.reports.add (Line.isDraft_draft hline), fun _ h => by cases h⟩
    next =>
      refine ⟨h.reports, fun draft hheld => ?_⟩
      obtain rfl : line.draft = draft := Focus.held.inj hheld
      exact Line.isDraft_draft hline

theorem Sound.take (h : progress.Sound) (setup : Setup)
    (hline : Path.normalize line.file = line.file) : (progress.take setup line).Sound := by
  rw [Progress.take]
  split
  next => exact h.note setup hline
  next => exact h.problem setup hline

theorem Sound.foldl_take {progress : Progress} (h : progress.Sound) (setup : Setup)
    {lines : List Line} (hlines : ∀ line ∈ lines, Path.normalize line.file = line.file) :
    (lines.foldl (Progress.take setup) progress).Sound := by
  induction lines generalizing progress with
  | nil => exact h
  | cons line lines ih =>
    rw [List.forall_mem_cons] at hlines
    exact ih (h.take setup hlines.1) hlines.2

end Progress

namespace Run

/-! ## What becomes of a run -/

/-- What may become of a run that is read against a setup. -/
inductive Evolves (setup : Setup) (run : Run) : Run → Prop where
  | refl : Evolves setup run run
  | feed {next : Run} (chunk : String) :
    Evolves setup run next → Evolves setup run (next.feed setup chunk).1
  | close {next : Run} : Evolves setup run next → Evolves setup run next.close
  | abandon {next : Run} : Evolves setup run next → Evolves setup run next.abandon

theorem Evolves.trans {setup : Setup} {run next last : Run} (h : run.Evolves setup next)
    (hlast : next.Evolves setup last) : run.Evolves setup last := by
  induction hlast with
  | refl => exact h
  | feed chunk _ ih => exact ih.feed chunk
  | close _ ih => exact ih.close
  | abandon _ ih => exact ih.abandon

/-- A run that has ended stays as it is. -/
theorem Evolves.eq_of_isFinished {setup : Setup} {run next : Run} (h : run.Evolves setup next)
    (hfinished : run.isFinished = true) : next = run := by
  induction h with
  | refl => rfl
  | feed chunk _ ih =>
    rw [ih]
    cases run with
    | reading unfinished progress => cases hfinished
    | completed reports => rfl
    | abandoned => rfl
  | close _ ih =>
    rw [ih]
    cases run with
    | reading unfinished progress => cases hfinished
    | completed reports => rfl
    | abandoned => rfl
  | abandon _ ih =>
    rw [ih]
    cases run with
    | reading unfinished progress => cases hfinished
    | completed reports => rfl
    | abandoned => rfl

/-- What a run has come to so far is sound. -/
def Sound : Run → Prop
  | reading _ progress => progress.Sound
  | completed reports => reports.Sound
  | abandoned => True

theorem Sound.feed {run : Run} (h : run.Sound) (setup : Setup) (chunk : String) :
    (run.feed setup chunk).1.Sound := by
  cases run with
  | completed reports => exact h
  | abandoned => trivial
  | reading unfinished progress =>
    rw [Run.feed, readLines_eq_foldl]
    rcases hread : linesRead setup.markers (breakLines (unfinished ++ chunk.toList)).1
      with ⟨lines, ending⟩
    have hlines : ∀ line ∈ lines, Path.normalize line.file = line.file := by
      intro line hline
      rw [show lines = _ from (congrArg Prod.fst hread).symm] at hline
      exact normalize_file_of_mem_linesRead hline
    have hsound := Progress.Sound.foldl_take h setup hlines
    cases ending with
    | unfinished => exact hsound
    | marker => exact hsound.reports
    | fault fault => exact hsound

/-- Whatever becomes of a run, what it reports are drafts under their own files. -/
theorem Evolves.sound {setup : Setup} {run : Run} (h : start.Evolves setup run) : run.Sound := by
  induction h with
  | refl => exact Progress.sound_start
  | feed chunk _ ih => exact ih.feed setup chunk
  | @close next _ ih =>
    cases next with
    | reading unfinished progress => exact ih.reports
    | completed reports => exact ih
    | abandoned => trivial
  | @abandon next _ ih =>
    cases next with
    | reading unfinished progress => trivial
    | completed reports => exact ih
    | abandoned => trivial

end Run

end Report

end Reconcile
