import Reconcile.Diagnostic.Normal
import Reconcile.Report.Run

/-!
# A run is its blocks

`readLines` takes lines one by one and keeps a draft that notes go to, wherever it stands by then.
This file gives the meaning of a whole output at once: the report lines up to the first marker fall
into `blocks`, a problem line and the note lines up to the next one, and each block adds at most one
diagnostic, which is complete when it is added (`Reports.addBlock`).

* `readChunks_text_eq_blocks`: reading a text whose numerals are short yields what its blocks add.

The bridge has two halves. `readChunks_text` reads lines and faults off the loop and leaves a fold of
`Progress.take` over report lines. `reports_foldl_take` cuts that fold at the problem lines: whatever
came before, a problem line and its notes change the reports by `addBlock` (`reports_foldl_block`),
because while notes arrive the draft is the last diagnostic of its file (`take_note_reported`).
-/

namespace Reconcile.Report

open Text

/-! ## Blocks of report lines -/

/-- A problem line and the note lines that belong to it. -/
structure Block where
  problem : Line
  notes : List Line

/-- The blocks of report lines. Notes before the first problem belong to none. -/
def blocks : List Line → List Block
  | [] => []
  | line :: lines =>
    if line.isNote then blocks lines else ⟨line, lines.takeWhile Line.isNote⟩ :: blocks lines

/-- The notes of a diagnostic, given those that were reported for it. -/
def Setup.gather (setup : Setup) (notes : List Note) : List Note :=
  if setup.dropRepeats then notes.eraseDups else notes

/-- The diagnostic of a block. If the file of the problem cannot be resolved, the diagnostic stands
where the first note does; without a note there is none. -/
def Block.diagnostic? (setup : Setup) (block : Block) : Option Diagnostic :=
  let whole := { block.problem.draft with notes := setup.gather (block.notes.map Line.note) }
  if setup.resolves block.problem.file then some whole
  else block.notes.head?.map fun note => { whole with file := note.file, range := note.range }

/-- The reports with the diagnostic of a block. A block whose problem was reported in its file before
is dropped as a whole. -/
def Reports.addBlock (setup : Setup) (reports : Reports) (block : Block) : Reports :=
  if setup.dropRepeats && (reports.of block.problem.file).any (·.sameReport block.problem.draft) then
    reports
  else
    match block.diagnostic? setup with
    | some d => reports.add d
    | none => reports

/-- What blocks report, in order. -/
def reportBlocks (setup : Setup) (bs : List Block) : Reports :=
  bs.foldl (Reports.addBlock setup) .empty

/-- The complete lines of a text, as they are read. -/
def completeLines (text : String) : List String :=
  (splitLines text).dropLast.map fun line => plainLine line.toList

/-- The lines in front of the first marker. -/
def linesBeforeMarker (setup : Setup) : List String → Except Pattern.CrossedGroup (List String)
  | [] => .ok []
  | line :: lines => do
    if ← setup.isMarker line then return []
    else return line :: (← linesBeforeMarker setup lines)

/-- What a line reports, if it reports anything and its numerals can be read. -/
def reportLine? (text : String) : Option Line :=
  (Line.read? text).toOption.join

/-- The numerals of a report line are short enough to be read. -/
def ShortNumerals (text : String) : Prop :=
  ∀ path tail, splitAtTail? (text.toList.dropWhile isDecoration) = some (path, tail) →
    tail.line.length ≤ numeralLimit ∧ ∀ column ∈ tail.column, column.length ≤ numeralLimit

/-! ## Notes that belong to a diagnostic -/

/-- A diagnostic with one more note, unless it has the note already and repeats are dropped. -/
def Setup.addNote (setup : Setup) (d : Diagnostic) (note : Note) : Diagnostic :=
  if setup.dropRepeats && d.notes.contains note then d else { d with notes := d.notes ++ [note] }

theorem file_addNote (setup : Setup) (d : Diagnostic) (note : Note) :
    (setup.addNote d note).file = d.file := by
  unfold Setup.addNote
  split <;> rfl

theorem gather_concat (setup : Setup) (notes : List Note) (note : Note) :
    setup.gather (notes ++ [note]) =
      if setup.dropRepeats && (setup.gather notes).contains note then setup.gather notes
      else setup.gather notes ++ [note] := by
  unfold Setup.gather
  cases setup.dropRepeats with
  | false => rfl
  | true =>
    show distinctNotes (notes ++ [note]) =
      if (distinctNotes notes).contains note then distinctNotes notes
      else distinctNotes notes ++ [note]
    simp only [distinctNotes_concat, List.contains_iff_mem, mem_distinctNotes]

theorem addNote_gather (setup : Setup) (d : Diagnostic) {seen : List Note}
    (h : d.notes = setup.gather seen) (note : Note) :
    setup.addNote d note = { d with notes := setup.gather (seen ++ [note]) } := by
  rw [gather_concat, Setup.addNote, h]
  split
  next => rw [← h]
  next => rfl

/-- Notes that arrive one by one are gathered. -/
theorem foldl_addNote (setup : Setup) (notes : List Note) (d : Diagnostic) {seen : List Note}
    (h : d.notes = setup.gather seen) :
    notes.foldl setup.addNote d = { d with notes := setup.gather (seen ++ notes) } := by
  induction notes generalizing d seen with
  | nil => rw [List.foldl_nil, List.append_nil, ← h]
  | cons note notes ih =>
    rw [List.foldl_cons, addNote_gather setup d h, ih _ rfl, List.append_assoc,
      List.singleton_append]

theorem noteLast_concat (note : Note) (ds : List Diagnostic) (d : Diagnostic) :
    noteLast note (ds ++ [d]) = ds ++ [{ d with notes := d.notes ++ [note] }] := by
  induction ds with
  | nil => rfl
  | cons e ds ih =>
    cases ds with
    | nil => rfl
    | cons e' ds => exact congrArg (e :: ·) ih

theorem of_add (reports : Reports) (d : Diagnostic) (file : String) :
    (reports.add d).of file = if file = d.file then reports.of file ++ [d] else reports.of file := by
  unfold Reports.add Reports.of
  rw [FileMap.get?_set]
  split
  next h => rw [h]; rfl
  next => rfl

theorem set_add (reports : Reports) {d e : Diagnostic} (h : e.file = d.file) :
    (reports.add d).set d.file (reports.of d.file ++ [e]) = reports.add e := by
  rw [Reports.add, FileMap.set_set, Reports.add, h]

namespace Progress

/-! ## Progress through report lines -/

/-- The progress after a report line. -/
def take (setup : Setup) (progress : Progress) (line : Line) : Progress :=
  progress.record
    (if line.isNote then progress.judgeNote setup line else progress.judgeProblem setup line)

variable (setup : Setup) (reports : Reports)

/-- Notes without a draft are passed over. -/
theorem foldl_take_nothing {notes : List Line} (h : ∀ note ∈ notes, note.isNote = true) :
    notes.foldl (take setup) ⟨.nothing, reports⟩ = ⟨.nothing, reports⟩ := by
  induction notes with
  | nil => rfl
  | cons note notes ih =>
    have htake : take setup ⟨.nothing, reports⟩ note = ⟨.nothing, reports⟩ := by
      rw [take, if_pos (h note (List.mem_cons_self ..))]
      rfl
    rw [List.foldl_cons, htake]
    exact ih fun n hn => h n (List.mem_cons_of_mem _ hn)

/-- The first note of a held draft supplies its place. -/
theorem take_note_held (draft : Diagnostic) {line : Line} (h : line.isNote = true) :
    take setup ⟨.held draft, reports⟩ line =
      ⟨.reported (rescue draft line.note).file, reports.add (rescue draft line.note)⟩ := by
  rw [take, if_pos h]
  rfl

/-- A note for a reported draft, the last diagnostic of its file, is added in place. -/
theorem take_note_reported (d : Diagnostic) {line : Line} (h : line.isNote = true) :
    take setup ⟨.reported d.file, reports.add d⟩ line =
      ⟨.reported d.file, reports.add (setup.addNote d line.note)⟩ := by
  have hof : (reports.add d).of d.file = reports.of d.file ++ [d] := by
    rw [of_add, if_pos rfl]
  have hlast : ((reports.add d).of d.file).getLast? = some d := by
    rw [hof, List.getLast?_concat]
  rw [take, if_pos h, judgeNote, Setup.addNote]
  dsimp only
  rw [hlast]
  dsimp only
  split
  next => rfl
  next =>
    rw [record, hof, noteLast_concat]
    exact congrArg _ (set_add reports rfl)

/-- The notes for a reported draft are added in place, one after the other. -/
theorem foldl_take_reported {notes : List Line} (h : ∀ note ∈ notes, note.isNote = true)
    (d : Diagnostic) :
    notes.foldl (take setup) ⟨.reported d.file, reports.add d⟩ =
      ⟨.reported d.file, reports.add ((notes.map Line.note).foldl setup.addNote d)⟩ := by
  induction notes generalizing d with
  | nil => rfl
  | cons note notes ih =>
    rw [List.foldl_cons, take_note_reported setup reports d (h note (List.mem_cons_self ..)),
      ← file_addNote setup d note.note,
      ih (fun n hn => h n (List.mem_cons_of_mem _ hn)) (setup.addNote d note.note)]
    rfl

theorem judgeProblem_eq (progress : Progress) (line : Line) :
    progress.judgeProblem setup line =
      if setup.dropRepeats && (progress.reports.of line.file).any (·.sameReport line.draft) then
        .repeated line.draft
      else if setup.resolves line.file then .reported line.draft
      else .held line.draft :=
  rfl

/-- A problem line and its notes change the reports by their block, whatever came before. -/
theorem reports_foldl_block (progress : Progress) {problem : Line} {notes : List Line}
    (hproblem : problem.isNote = false) (hnotes : ∀ note ∈ notes, note.isNote = true) :
    ((problem :: notes).foldl (take setup) progress).reports =
      progress.reports.addBlock setup ⟨problem, notes⟩ := by
  rw [List.foldl_cons, take, if_neg (by simp [hproblem]), judgeProblem_eq, Reports.addBlock]
  dsimp only
  by_cases hrepeated : (setup.dropRepeats &&
      (progress.reports.of problem.file).any (·.sameReport problem.draft)) = true
  · rw [if_pos hrepeated, if_pos hrepeated, record, foldl_take_nothing setup _ hnotes]
  · rw [if_neg hrepeated, if_neg hrepeated, Block.diagnostic?]
    by_cases hresolves : setup.resolves problem.file = true
    · have hgather : problem.draft.notes = setup.gather [] := by
        unfold Setup.gather
        split <;> rfl
      rw [if_pos hresolves, if_pos hresolves, record, foldl_take_reported setup _ hnotes,
        foldl_addNote setup _ _ hgather]
      rfl
    · rw [if_neg hresolves, if_neg hresolves, record]
      cases notes with
      | nil => rfl
      | cons note notes =>
        -- the first note is in place once it has rescued the draft, so it counts as seen
        have hgather : (rescue problem.draft note.note).notes = setup.gather [note.note] := by
          unfold Setup.gather
          split <;> rfl
        rw [List.foldl_cons, take_note_held setup _ _ (hnotes note (List.mem_cons_self ..)),
          foldl_take_reported setup _ fun n hn => hnotes n (List.mem_cons_of_mem _ hn),
          foldl_addNote setup _ _ hgather]
        rfl

/-- The notes in front of the first problem line are in no block. -/
theorem blocks_dropWhile (lines : List Line) :
    blocks (lines.dropWhile Line.isNote) = blocks lines := by
  induction lines with
  | nil => rfl
  | cons line lines ih =>
    by_cases h : line.isNote = true
    · rw [List.dropWhile_cons_of_pos h, ih, blocks, if_pos h]
    · rw [List.dropWhile_cons_of_neg h]

theorem isNote_of_mem_takeWhile {lines : List Line} :
    ∀ note ∈ lines.takeWhile Line.isNote, note.isNote = true :=
  List.all_eq_true.mp List.all_takeWhile

theorem isNote_head?_dropWhile {lines : List Line} :
    ∀ line, (lines.dropWhile Line.isNote).head? = some line → line.isNote = false := by
  intro line hline
  have hnot := List.head?_dropWhile_not Line.isNote lines
  rw [hline] at hnot
  simpa using hnot

/-- Reading lines is reading the notes in front first. -/
theorem foldl_take_dropWhile (lines : List Line) (progress : Progress) :
    lines.foldl (take setup) progress =
      (lines.dropWhile Line.isNote).foldl (take setup)
        ((lines.takeWhile Line.isNote).foldl (take setup) progress) := by
  rw [← List.foldl_append, List.takeWhile_append_dropWhile]

/-- From a problem line on, lines change the reports by their blocks. -/
theorem reports_foldl_take : ∀ (lines : List Line) (progress : Progress),
    (∀ line, lines.head? = some line → line.isNote = false) →
      (lines.foldl (take setup) progress).reports =
        (blocks lines).foldl (Reports.addBlock setup) progress.reports
  | [], _, _ => rfl
  | line :: lines, progress, h => by
    have hproblem : line.isNote = false := h line rfl
    have hnotes : ∀ note ∈ lines.takeWhile Line.isNote, note.isNote = true :=
      isNote_of_mem_takeWhile
    have hblock := reports_foldl_block setup progress hproblem hnotes
    rw [List.foldl_cons] at hblock
    rw [List.foldl_cons, foldl_take_dropWhile,
      reports_foldl_take (lines.dropWhile Line.isNote) _ isNote_head?_dropWhile, hblock, blocks,
      if_neg (by simp [hproblem]), List.foldl_cons, blocks_dropWhile]
  termination_by lines => lines.length
  decreasing_by
    exact Nat.lt_succ_of_le (List.dropWhile_sublist _).length_le

/-- All the lines of a run report what their blocks report. -/
theorem reports_foldl_take_start (lines : List Line) :
    (lines.foldl (take setup) start).reports = reportBlocks setup (blocks lines) := by
  rw [foldl_take_dropWhile, start, foldl_take_nothing setup _ isNote_of_mem_takeWhile,
    reports_foldl_take setup _ _ isNote_head?_dropWhile, blocks_dropWhile]
  rfl

end Progress

/-! ## Lines and faults -/

/-- The report lines in front of the first marker. The first line that cannot be read is a fault. -/
def reportLines (setup : Setup) : List String → Except LineFault (List Line)
  | [] => .ok []
  | text :: texts =>
    match setup.isMarker text with
    | .error fault => .error (.crossedGroup fault)
    | .ok true => .ok []
    | .ok false =>
      match Line.read? text with
      | .error fault => .error (.numeral fault)
      | .ok none => reportLines setup texts
      | .ok (some line) => (reportLines setup texts).map (line :: ·)

/-- Reading a line takes its report, if it is no marker and has a report. -/
theorem readLines_cons (setup : Setup) (progress : Progress) (raw : List Char)
    (lines : List (List Char)) :
    progress.readLines setup (raw :: lines) =
      match setup.isMarker (plainLine raw) with
      | .error fault => (progress, .fault (.crossedGroup fault))
      | .ok true => (progress, .marker)
      | .ok false =>
        match Line.read? (plainLine raw) with
        | .error fault => (progress, .fault (.numeral fault))
        | .ok none => progress.readLines setup lines
        | .ok (some line) => (progress.take setup line).readLines setup lines := by
  rw [Progress.readLines, Progress.judge]
  cases setup.isMarker (plainLine raw) with
  | error fault => rfl
  | ok marked =>
    cases marked with
    | true => rfl
    | false =>
      by_cases hempty : (plainLine raw).isEmpty = true
      · rw [String.isEmpty_iff.mp hempty]
        rfl
      · dsimp only
        rw [if_neg hempty]
        cases Line.read? (plainLine raw) with
        | error fault => rfl
        | ok found => cases found <;> rfl

/-- Reading lines takes their reports up to the first marker, or ends with the first fault. -/
theorem readLines_eq (setup : Setup) (progress : Progress) (lines : List (List Char)) :
    match reportLines setup (lines.map plainLine) with
    | .error fault => (progress.readLines setup lines).2 = .fault fault
    | .ok found =>
      progress.readLines setup lines = (found.foldl (Progress.take setup) progress, .unfinished) ∨
        progress.readLines setup lines = (found.foldl (Progress.take setup) progress, .marker) := by
  induction lines generalizing progress with
  | nil => exact Or.inl rfl
  | cons raw lines ih =>
    rw [readLines_cons, List.map_cons, reportLines]
    cases setup.isMarker (plainLine raw) with
    | error fault => rfl
    | ok marked =>
      cases marked with
      | true => exact Or.inr rfl
      | false =>
        cases Line.read? (plainLine raw) with
        | error fault => rfl
        | ok found =>
          cases found with
          | none => exact ih progress
          | some line =>
            have hrest := ih (progress.take setup line)
            dsimp only
            cases hlines : reportLines setup (lines.map plainLine) with
            | error fault => rw [hlines] at hrest; exact hrest
            | ok found => rw [hlines] at hrest; exact hrest

theorem completeLines_eq (text : String) :
    completeLines text = (breakLines text.toList).1.map plainLine := by
  rw [completeLines, splitLines, ← List.map_dropLast, List.dropLast_concat, List.map_map]
  refine List.map_congr_left ?_
  intro raw _
  exact congrArg plainLine String.toList_ofList

/-- Reading a text in one chunk yields what its report lines come to. -/
theorem readChunks_text (setup : Setup) (text : String) :
    readChunks setup [text] =
      (reportLines setup (completeLines text)).map
        fun lines => reportBlocks setup (blocks lines) := by
  have hlines := readLines_eq setup .start (breakLines text.toList).1
  rw [← completeLines_eq] at hlines
  rw [readChunks, Run.feedAll, Run.start, Run.feed]
  dsimp only [List.nil_append]
  cases hreport : reportLines setup (completeLines text) with
  | error fault =>
    rw [hreport] at hlines
    generalize Progress.readLines setup .start (breakLines text.toList).1 = read at hlines
    obtain ⟨progress, ending⟩ := read
    obtain rfl : ending = .fault fault := hlines
    rfl
  | ok found =>
    rw [hreport] at hlines
    have hreports := Progress.reports_foldl_take_start setup found
    rcases hlines with hlines | hlines
    · rw [hlines]
      exact congrArg Except.ok hreports
    · rw [hlines]
      exact congrArg Except.ok hreports

/-! ## Short numerals -/

theorem readNumeral_of_length_le {digits : List Char} (h : digits.length ≤ numeralLimit) :
    readNumeral digits = .ok (numeralValue digits) :=
  if_pos h

/-- A numeral and what follows it are shorter than the text. -/
theorem length_of_numeral? {text digits rest : List Char} (h : numeral? text = some (digits, rest)) :
    digits.length + rest.length < text.length := by
  unfold numeral? at h
  split at h
  next text =>
    dsimp only at h
    split at h
    next => simp at h
    next =>
      obtain ⟨rfl, rfl⟩ := Prod.mk.inj (Option.some.inj h)
      have hle := (List.takeWhile_sublist isDigit (l := text)).length_le
      rw [List.length_drop, List.length_cons]
      omega
  next => simp at h

/-- The numerals of a tail are the ones it was read with. -/
theorem numerals_of_read {line text : List Char} {column : Option (List Char)} {tail : Tail}
    (h : Tail.read line column text = some tail) : tail.line = line ∧ tail.column = column := by
  simp only [Tail.read, Option.bind_eq_bind, Option.bind_eq_some_iff, Option.pure_def] at h
  obtain ⟨_, _, _, _, _, _, _, _, h⟩ := h
  rw [← Option.some.inj h]
  exact ⟨rfl, rfl⟩

/-- The numerals of a tail are no longer than the text. -/
theorem length_of_tail {text : List Char} {tail : Tail} (h : Tail.read? text = some tail) :
    tail.line.length ≤ text.length ∧ ∀ column ∈ tail.column, column.length ≤ text.length := by
  simp only [Tail.read?, Option.bind_eq_bind, Option.bind_eq_some_iff] at h
  obtain ⟨⟨line, rest⟩, hline, h⟩ := h
  have hlength := length_of_numeral? hline
  dsimp only at h
  split at h
  next column rest' hcolumn =>
    have hlength' := length_of_numeral? hcolumn
    obtain ⟨heq, heq'⟩ := numerals_of_read h
    rw [heq, heq']
    refine ⟨by omega, ?_⟩
    rintro _ ⟨⟩
    omega
  next =>
    obtain ⟨heq, heq'⟩ := numerals_of_read h
    rw [heq, heq']
    refine ⟨by omega, ?_⟩
    rintro _ ⟨⟩

theorem length_of_splitAtTail? {text path : List Char} {tail : Tail}
    (h : splitAtTail? text = some (path, tail)) :
    tail.line.length ≤ text.length ∧ ∀ column ∈ tail.column, column.length ≤ text.length := by
  induction text generalizing path with
  | nil => simp [splitAtTail?] at h
  | cons c text ih =>
    rw [splitAtTail?] at h
    split at h
    next found hfound =>
      obtain ⟨-, rfl⟩ := Prod.mk.inj (Option.some.inj h)
      exact length_of_tail hfound
    next =>
      split at h
      next => simp at h
      next =>
        obtain ⟨⟨path', tail'⟩, hsplit, heq⟩ := Option.map_eq_some_iff.mp h
        obtain ⟨-, rfl⟩ := Prod.mk.inj heq
        obtain ⟨hline, hcolumn⟩ := ih hsplit
        rw [List.length_cons]
        exact ⟨by omega, fun column hmem => Nat.le_succ_of_le (hcolumn column hmem)⟩

/-- A line that is itself no longer than a numeral may be has short numerals. -/
theorem shortNumerals_of_length_le {text : String} (h : text.length ≤ numeralLimit) :
    ShortNumerals text := by
  intro path tail hsplit
  have hle : (text.toList.dropWhile isDecoration).length ≤ numeralLimit :=
    Nat.le_trans (List.dropWhile_sublist _).length_le h
  obtain ⟨hline, hcolumn⟩ := length_of_splitAtTail? hsplit
  exact ⟨Nat.le_trans hline hle, fun column hmem => Nat.le_trans (hcolumn column hmem) hle⟩

/-- A line with short numerals is read without a fault. -/
theorem read?_of_shortNumerals {text : String} (h : ShortNumerals text) :
    Line.read? text = .ok (reportLine? text) := by
  have hok : ∃ found, Line.read? text = .ok found := by
    unfold Line.read?
    split
    next => exact ⟨none, rfl⟩
    next path tail hsplit =>
      obtain ⟨hline, hcolumn⟩ := h path tail hsplit
      split
      next => exact ⟨none, rfl⟩
      next =>
        have hshort : (tail.column.getD ['1']).length ≤ numeralLimit := by
          cases hc : tail.column with
          | none => decide
          | some column => exact hcolumn column hc
        rw [readNumeral_of_length_le hline, readNumeral_of_length_le hshort]
        exact ⟨_, rfl⟩
  obtain ⟨found, hfound⟩ := hok
  rw [reportLine?, hfound]
  rfl

/-- Where all numerals are short, only a marker can end in a fault. -/
theorem reportLines_of_shortNumerals (setup : Setup) {texts : List String}
    (h : ∀ text ∈ texts, ShortNumerals text) :
    reportLines setup texts =
      ((linesBeforeMarker setup texts).mapError LineFault.crossedGroup).map
        fun lines => lines.filterMap reportLine? := by
  induction texts with
  | nil => rfl
  | cons text texts ih =>
    have hrest := ih fun t ht => h t (List.mem_cons_of_mem _ ht)
    rw [reportLines, linesBeforeMarker]
    cases setup.isMarker text with
    | error fault => rfl
    | ok marked =>
      cases marked with
      | true => rfl
      | false =>
        rw [read?_of_shortNumerals (h text (List.mem_cons_self ..)), hrest]
        dsimp only [bind, Except.bind]
        rw [if_neg (by decide)]
        cases linesBeforeMarker setup texts with
        | error fault => cases reportLine? text <;> rfl
        | ok lines =>
          cases hline : reportLine? text with
          | none =>
            have hmap : (text :: lines).filterMap reportLine? = lines.filterMap reportLine? :=
              List.filterMap_cons_none hline
            exact congrArg Except.ok hmap.symm
          | some line =>
            have hmap : (text :: lines).filterMap reportLine? =
                line :: lines.filterMap reportLine? :=
              List.filterMap_cons_some hline
            exact congrArg Except.ok hmap.symm

/-- **A run is its blocks.** Reading a text whose numerals are short yields what the blocks of its
report lines add, up to the first marker; only a marker that cannot be matched is a fault. -/
theorem readChunks_text_eq_blocks (setup : Setup) (text : String)
    (h : ∀ line ∈ completeLines text, ShortNumerals line) :
    readChunks setup [text] =
      ((linesBeforeMarker setup (completeLines text)).mapError LineFault.crossedGroup).map
        fun lines => reportBlocks setup (blocks (lines.filterMap reportLine?)) := by
  rw [readChunks_text, reportLines_of_shortNumerals setup h]
  cases linesBeforeMarker setup (completeLines text) <;> rfl

/-- A problem that cannot be placed, a note that places it, and a line that is not complete. -/
theorem readChunks_rescued :
    readChunks ⟨(· = "a.swift"), [], true⟩ ["@m:2: error: lost\r\na.swift:7: note: here\nrest"] =
      .ok (reportBlocks ⟨(· = "a.swift"), [], true⟩
        [⟨⟨"@m", .point ⟨1, 0⟩, .error, "lost"⟩,
          [⟨"a.swift", .point ⟨6, 0⟩, .information, "here"⟩]⟩]) := by
  have hlines : completeLines "@m:2: error: lost\r\na.swift:7: note: here\nrest" =
      ["@m:2: error: lost", "a.swift:7: note: here"] := by decide +kernel
  have hshort : ∀ line ∈ completeLines "@m:2: error: lost\r\na.swift:7: note: here\nrest",
      ShortNumerals line := by
    rw [hlines]
    intro line hmem
    refine shortNumerals_of_length_le ?_
    rcases List.mem_cons.mp hmem with rfl | hmem
    · decide
    · obtain rfl := List.mem_singleton.mp hmem
      decide
  have hreports : ["@m:2: error: lost", "a.swift:7: note: here"].filterMap reportLine? =
      [⟨"@m", .point ⟨1, 0⟩, .error, "lost"⟩,
        ⟨"a.swift", .point ⟨6, 0⟩, .information, "here"⟩] := by decide +kernel
  rw [readChunks_text_eq_blocks _ _ hshort, hlines]
  exact congrArg (fun lines => Except.ok (reportBlocks _ (blocks lines))) hreports

end Reconcile.Report
