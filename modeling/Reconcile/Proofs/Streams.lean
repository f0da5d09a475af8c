import Reconcile.Proofs.Blocks

/-!
# What a stream reports

The output of the compiler is a stream of chunks, and whoever feeds them may go on after a fault: the
fault costs the lines behind it in its chunk, and the run reads on from the next one. This file says
what a run reports that is fed any chunks in this way and then closed.

* `close_afterAll`: the run is complete, and reports what the blocks of the stream add.
* `readChunks_eq_streamReports`: without a fault, that is what `readChunks` yields.

Which lines of a stream are read depends on its chunks and on the markers, and on nothing else
(`streamLines`): not on which files can be resolved, nor on whether repeats are dropped. So runs that
differ in these read the same blocks.
-/

namespace Reconcile.Report

open Text

/-- The report lines among complete lines, up to the first marker or fault, and how their reading
ends. -/
def linesRead (markers : List Pattern) : List (List Char) → List Line × Ending
  | [] => ([], .unfinished)
  | raw :: lines =>
    match anyOccurs (plainLine raw) markers with
    | .error fault => ([], .fault (.crossedGroup fault))
    | .ok true => ([], .marker)
    | .ok false =>
      match Line.read? (plainLine raw) with
      | .error fault => ([], .fault (.numeral fault))
      | .ok none => linesRead markers lines
      | .ok (some line) => (line :: (linesRead markers lines).1, (linesRead markers lines).2)

/-- The report lines of chunks that follow an unfinished line. A marker ends them; a fault costs the
rest of its chunk. -/
def streamLines (markers : List Pattern) (unfinished : List Char) : List String → List Line
  | [] => []
  | chunk :: chunks =>
    let broken := breakLines (unfinished ++ chunk.toList)
    match linesRead markers broken.1 with
    | (lines, .marker) => lines
    | (lines, _) => lines ++ streamLines markers broken.2 chunks

/-- The blocks of a stream. -/
def streamBlocks (markers : List Pattern) (chunks : List String) : List Block :=
  blocks (streamLines markers [] chunks)

/-- A run after chunks, whether or not some of them had a fault. -/
def Run.afterAll (setup : Setup) (run : Run) (chunks : List String) : Run :=
  chunks.foldl (fun run chunk => (run.feed setup chunk).1) run

/-- The reports of a stream that is closed after its chunks. -/
def streamReports (setup : Setup) (chunks : List String) : Reports :=
  ((Run.start.afterAll setup chunks).close.reports?).getD .empty

/-! ## Lines of one chunk -/

/-- Reading complete lines takes the report lines among them. -/
theorem readLines_eq_foldl (setup : Setup) (progress : Progress) (lines : List (List Char)) :
    progress.readLines setup lines =
      ((linesRead setup.markers lines).1.foldl (Progress.take setup) progress,
        (linesRead setup.markers lines).2) := by
  induction lines generalizing progress with
  | nil => rfl
  | cons raw lines ih =>
    rw [readLines_cons, linesRead, Setup.isMarker]
    cases anyOccurs (plainLine raw) setup.markers with
    | error fault => rfl
    | ok marked =>
      cases marked with
      | true => rfl
      | false =>
        cases Line.read? (plainLine raw) with
        | error fault => rfl
        | ok found =>
          cases found with
          | none => exact ih progress
          | some line => exact ih (progress.take setup line)

/-! ## Chunks -/

namespace Run

variable (setup : Setup)

theorem afterAll_completed (reports : Reports) (chunks : List String) :
    (completed reports).afterAll setup chunks = completed reports := by
  induction chunks with
  | nil => rfl
  | cons chunk chunks ih => exact ih

/-- A run that is fed chunks and closed has taken the report lines of the stream. -/
theorem close_afterAll_reading (unfinished : List Char) (progress : Progress)
    (chunks : List String) :
    ((reading unfinished progress).afterAll setup chunks).close =
      completed ((streamLines setup.markers unfinished chunks).foldl
        (Progress.take setup) progress).reports := by
  induction chunks generalizing unfinished progress with
  | nil => rfl
  | cons chunk chunks ih =>
    rw [streamLines, afterAll, List.foldl_cons, ← afterAll, feed, readLines_eq_foldl]
    rcases linesRead setup.markers (breakLines (unfinished ++ chunk.toList)).1 with ⟨lines, ending⟩
    cases ending with
    | unfinished => rw [ih, List.foldl_append]
    | marker => rw [afterAll_completed]; rfl
    | fault fault => rw [ih, List.foldl_append]

/-- **A stream reports what its blocks add.** A run that is fed any chunks, whether or not some had a
fault, and then closed is complete. -/
theorem close_afterAll (chunks : List String) :
    (start.afterAll setup chunks).close =
      completed (reportBlocks setup (streamBlocks setup.markers chunks)) := by
  rw [start, close_afterAll_reading, Progress.reports_foldl_take_start, streamBlocks]

/-- Without a fault, feeding chunks up to the first fault feeds all of them. -/
theorem afterAll_of_feedAll {run next : Run} {chunks : List String}
    (h : run.feedAll setup chunks = .ok next) : run.afterAll setup chunks = next := by
  induction chunks generalizing run with
  | nil => exact Except.ok.inj h
  | cons chunk chunks ih =>
    rw [feedAll] at h
    split at h
    next fed heq =>
      have hfed : (run.feed setup chunk).1 = fed := congrArg Prod.fst heq
      rw [afterAll, List.foldl_cons, hfed]
      exact ih h
    next => cases h

end Run

theorem streamReports_eq (setup : Setup) (chunks : List String) :
    streamReports setup chunks = reportBlocks setup (streamBlocks setup.markers chunks) := by
  rw [streamReports, Run.close_afterAll]
  rfl

/-- What chunks yield when none has a fault are the reports of the stream. -/
theorem readChunks_eq_streamReports {setup : Setup} {chunks : List String} {reports : Reports}
    (h : readChunks setup chunks = .ok reports) : reports = streamReports setup chunks := by
  rw [readChunks] at h
  cases hfed : Run.start.feedAll setup chunks with
  | error fault => rw [hfed] at h; cases h
  | ok run =>
    rw [hfed] at h
    rw [streamReports, Run.afterAll_of_feedAll setup hfed]
    exact (Except.ok.inj h).symm

end Reconcile.Report
