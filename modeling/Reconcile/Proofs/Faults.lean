import Reconcile.Proofs.Chunks
import Reconcile.Proofs.Grammar
import Reconcile.Proofs.Styling

/-!
# Lines that cannot be read

Most lines of a run report nothing and are passed over. A line can also be such that it cannot be read
at all (`Faulty`): it is a report with a numeral that is too long, or a marker goes wrong on it. This
file says what such a line costs.

* `feed_reads_all_iff`: a chunk is fed without a fault exactly if every complete line before the first
  marker can be read, and then all of them have been taken. Otherwise the lines before the first that
  cannot be read have been taken, and those behind it are lost.
* `feed_loses_line`: one numeral can cost a report that has nothing to do with it.
-/

namespace Reconcile.Report

open Text

/-! ## What can be wrong with a line -/

/-- A line cannot be read: a marker goes wrong on it, or it is a report with a numeral that is too
long. The markers come first. -/
inductive Faulty (markers : List Pattern) (raw : List Char) : LineFault → Prop
  | marker {fault : Pattern.CrossedGroup} :
    anyOccurs (plainLine raw) markers = .error fault → Faulty markers raw (.crossedGroup fault)
  | numeral {marked : Bool} {decoration path : List Char} {tail : Tail} {fault : LongNumeral} :
    anyOccurs (plainLine raw) markers = .ok marked →
    Reads (Terminal.strip raw) decoration path tail → path ≠ [] → tail.fault? = some fault →
    Faulty markers raw (.numeral fault)

/-- What is wrong with a line. -/
def lineFault? (markers : List Pattern) (raw : List Char) : Option LineFault :=
  match anyOccurs (plainLine raw) markers with
  | .error fault => some (.crossedGroup fault)
  | .ok _ =>
    match Line.read? (plainLine raw) with
    | .error fault => some (.numeral fault)
    | .ok _ => none

/-- Whether a marker occurs in a line. -/
def endsBuild (markers : List Pattern) (raw : List Char) : Bool :=
  match anyOccurs (plainLine raw) markers with
  | .ok marked => marked
  | .error _ => false

/-- The lines before the first in which a marker occurs. -/
def beforeMarker (markers : List Pattern) (lines : List (List Char)) : List (List Char) :=
  lines.takeWhile fun raw => !endsBuild markers raw

/-- The progress with what complete lines report. -/
def Progress.takeAll (setup : Setup) (progress : Progress) (lines : List (List Char)) : Progress :=
  (lines.filterMap fun raw => reportLine? (plainLine raw)).foldl (Progress.take setup) progress

/-- The run when all complete lines of a text have been taken, up to the first marker. -/
def Run.havingRead (setup : Setup) (progress : Progress) (text : List Char) : Run :=
  let broken := breakLines text
  let next := progress.takeAll setup (beforeMarker setup.markers broken.1)
  if broken.1.any (endsBuild setup.markers) then .completed next.reports
  else .reading broken.2 next

theorem not_mem_plainLine {raw : List Char} (h : Unbroken raw) : '\n' ∉ (plainLine raw).toList := by
  rw [plainLine, String.toList_ofList]
  exact fun hmem => (h '\n' ((Terminal.stripBy_sublist _ raw).subset hmem)).1 rfl

theorem lineFault?_eq_some_iff {markers : List Pattern} {raw : List Char} (h : Unbroken raw)
    {fault : LineFault} : lineFault? markers raw = some fault ↔ Faulty markers raw fault := by
  have hread := @read?_eq_error_iff (plainLine raw) (not_mem_plainLine h)
  rw [plainLine, String.toList_ofList, ← plainLine] at hread
  rw [lineFault?]
  constructor
  · intro hfault
    split at hfault
    next crossed hmarkers =>
      cases hfault
      exact .marker hmarkers
    next marked hmarkers =>
      split at hfault
      next long hlong =>
        cases hfault
        obtain ⟨decoration, path, tail, hreads, hpath, htail⟩ := hread.mp hlong
        exact .numeral hmarkers hreads hpath htail
      next => cases hfault
  · intro hfaulty
    cases hfaulty with
    | marker hmarkers => rw [hmarkers]
    | numeral hmarkers hreads hpath htail =>
      rw [hmarkers, hread.mpr ⟨_, _, _, hreads, hpath, htail⟩]

/-! ## Reading lines -/

namespace Progress

variable (setup : Setup) (progress : Progress)

theorem takeAll_append (front back : List (List Char)) :
    progress.takeAll setup (front ++ back) = (progress.takeAll setup front).takeAll setup back := by
  rw [takeAll, takeAll, takeAll, List.filterMap_append, List.foldl_append]

/-- What the first of some lines does: it ends the build, it cannot be read, or it is taken. -/
theorem readLines_cons_eq (raw : List Char) (lines : List (List Char)) :
    progress.readLines setup (raw :: lines) =
      if endsBuild setup.markers raw then (progress, .marker)
      else
        match lineFault? setup.markers raw with
        | some fault => (progress, .fault fault)
        | none => (progress.takeAll setup [raw]).readLines setup lines := by
  rw [readLines_cons, Setup.isMarker, endsBuild, lineFault?]
  cases anyOccurs (plainLine raw) setup.markers with
  | error fault => rfl
  | ok marked =>
    cases marked with
    | true => rfl
    | false =>
      cases hread : Line.read? (plainLine raw) with
      | error fault => rfl
      | ok found =>
        have htaken : progress.takeAll setup [raw] =
            (found.toList.foldl (take setup) progress) := by
          simp only [takeAll, reportLine?, hread, List.filterMap_cons, List.filterMap_nil]
          cases found <;> rfl
        dsimp only
        rw [if_neg (by decide), htaken]
        cases found <;> rfl

theorem readLines_of_endsBuild {raw : List Char} (h : endsBuild setup.markers raw = true)
    (lines : List (List Char)) : progress.readLines setup (raw :: lines) = (progress, .marker) := by
  rw [readLines_cons_eq, if_pos h]

theorem readLines_of_lineFault? {raw : List Char} {fault : LineFault}
    (hmarker : endsBuild setup.markers raw = false)
    (h : lineFault? setup.markers raw = some fault) (lines : List (List Char)) :
    progress.readLines setup (raw :: lines) = (progress, .fault fault) := by
  rw [readLines_cons_eq, hmarker, h]
  rfl

/-- Lines that can be read are taken one after the other. -/
theorem readLines_of_readable {lines : List (List Char)}
    (hmarker : ∀ raw ∈ lines, endsBuild setup.markers raw = false)
    (h : ∀ raw ∈ lines, lineFault? setup.markers raw = none) :
    progress.readLines setup lines = (progress.takeAll setup lines, .unfinished) := by
  induction lines generalizing progress with
  | nil => rfl
  | cons raw lines ih =>
    rw [List.forall_mem_cons] at hmarker h
    rw [readLines_cons_eq, hmarker.1, h.1]
    dsimp only
    rw [if_neg (by decide), ih _ hmarker.2 h.2, ← takeAll_append]
    rfl

end Progress

/-! ## Feeding a chunk -/

theorem endsBuild_of_mem_beforeMarker {markers : List Pattern} {lines : List (List Char)} :
    ∀ raw ∈ beforeMarker markers lines, endsBuild markers raw = false := by
  intro raw hmem
  simpa using List.mem_takeWhile_imp hmem

/-- The lines before the first marker end where one occurs, if one does. -/
theorem beforeMarker_append (markers : List Pattern) (lines : List (List Char)) :
    (lines.any (endsBuild markers) = false ∧ beforeMarker markers lines = lines) ∨
      ∃ raw later, lines.any (endsBuild markers) = true ∧ endsBuild markers raw = true ∧
        lines = beforeMarker markers lines ++ raw :: later := by
  have hwhole := List.takeWhile_append_dropWhile (p := fun raw => !endsBuild markers raw) (l := lines)
  cases hrest : lines.dropWhile fun raw => !endsBuild markers raw with
  | nil =>
    rw [hrest, List.append_nil] at hwhole
    refine Or.inl ⟨?_, hwhole⟩
    rw [List.any_eq_false]
    intro raw hmem
    rw [← hwhole] at hmem
    exact Bool.eq_false_iff.mp (endsBuild_of_mem_beforeMarker raw hmem)
  | cons raw later =>
    have hends : endsBuild markers raw = true := by
      have hhead := List.head?_dropWhile_not (fun raw => !endsBuild markers raw) lines
      rw [hrest] at hhead
      simpa using hhead
    rw [hrest] at hwhole
    refine Or.inr ⟨raw, later, ?_, hends, hwhole.symm⟩
    rw [List.any_eq_true]
    exact ⟨raw, hwhole ▸ List.mem_append_right _ (List.mem_cons_self ..), hends⟩

namespace Run

variable {setup : Setup} {unfinished : List Char} {chunk : String}

/-- A chunk whose lines before the first marker can be read is read up to the marker. -/
theorem feed_of_readable (progress : Progress)
    (h : ∀ raw ∈ beforeMarker setup.markers (breakLines (unfinished ++ chunk.toList)).1,
      lineFault? setup.markers raw = none) :
    (reading unfinished progress).feed setup chunk =
      (havingRead setup progress (unfinished ++ chunk.toList), none) := by
  rw [feed, havingRead]
  generalize breakLines (unfinished ++ chunk.toList) = broken at h ⊢
  have hread := progress.readLines_of_readable setup endsBuild_of_mem_beforeMarker h
  rcases beforeMarker_append setup.markers broken.1 with
    ⟨hany, hlines⟩ | ⟨raw, later, hany, hends, hlines⟩
  · rw [hlines] at hread
    rw [hread, hlines, hany]
    rfl
  · have hwhole : progress.readLines setup broken.1 =
        (progress.takeAll setup (beforeMarker setup.markers broken.1), .marker) := by
      rw [hlines, Progress.readLines_append, ← hlines, hread]
      exact Progress.readLines_of_endsBuild setup _ hends later
    rw [hwhole, hany]
    rfl

/-- A chunk is read up to the first line that cannot be read. -/
theorem feed_of_lineFault? (progress : Progress) {front later : List (List Char)} {raw : List Char}
    {fault : LineFault}
    (hlines : beforeMarker setup.markers (breakLines (unfinished ++ chunk.toList)).1 =
      front ++ raw :: later)
    (hfront : ∀ r ∈ front, lineFault? setup.markers r = none)
    (hfault : lineFault? setup.markers raw = some fault) :
    (reading unfinished progress).feed setup chunk =
      (.reading (breakLines (unfinished ++ chunk.toList)).2 (progress.takeAll setup front),
        some fault) := by
  rw [feed]
  generalize breakLines (unfinished ++ chunk.toList) = broken at hlines ⊢
  have hends : ∀ r ∈ front ++ raw :: later, endsBuild setup.markers r = false :=
    hlines ▸ endsBuild_of_mem_beforeMarker
  rw [List.forall_mem_append, List.forall_mem_cons] at hends
  have hwhole : broken.1 = front ++ raw :: (later ++ broken.1.dropWhile
      fun raw => !endsBuild setup.markers raw) := by
    rw [← List.cons_append, ← List.append_assoc, ← hlines]
    exact List.takeWhile_append_dropWhile.symm
  have hread : progress.readLines setup broken.1 =
      (progress.takeAll setup front, .fault fault) := by
    rw [hwhole, Progress.readLines_append, progress.readLines_of_readable setup hends.1 hfront]
    exact Progress.readLines_of_lineFault? setup _ hends.2.1 hfault _
  rw [hread]

/-- A chunk is fed without a fault exactly if its lines before the first marker can be read. -/
theorem feed_eq_none_iff (progress : Progress) :
    ((reading unfinished progress).feed setup chunk).2 = none ↔
      ∀ raw ∈ beforeMarker setup.markers (breakLines (unfinished ++ chunk.toList)).1,
        lineFault? setup.markers raw = none := by
  constructor
  · intro hfed
    cases hfound : (beforeMarker setup.markers (breakLines (unfinished ++ chunk.toList)).1).findSome?
        (lineFault? setup.markers) with
    | none => exact List.findSome?_eq_none_iff.mp hfound
    | some fault =>
      obtain ⟨front, raw, later, hlines, hfault, hfront⟩ := List.findSome?_eq_some_iff.mp hfound
      rw [feed_of_lineFault? progress hlines hfront hfault] at hfed
      cases hfed
  · intro h
    rw [feed_of_readable progress h]

/-- **What a line costs that cannot be read.** Feed any chunk to a run that is still being read. It is
fed without a fault exactly if every complete line before the first marker can be read, and then all of
these lines have been taken. Otherwise the first line that cannot be read gives the fault: the lines
before it have been taken, it and the lines behind it have not, and the unfinished line is kept. -/
theorem feed_reads_all_iff (setup : Setup) (unfinished : List Char) (progress : Progress)
    (chunk : String) :
    let text := unfinished ++ chunk.toList
    let lines := beforeMarker setup.markers (breakLines text).1
    let fed := (reading unfinished progress).feed setup chunk
    (fed.2 = none ↔ ∀ raw ∈ lines, ∀ fault, ¬ Faulty setup.markers raw fault) ∧
      (fed.2 = none → fed.1 = havingRead setup progress text) ∧
      ∀ front raw later fault, lines = front ++ raw :: later →
        (∀ r ∈ front, ∀ fault', ¬ Faulty setup.markers r fault') → Faulty setup.markers raw fault →
        fed = (reading (breakLines text).2 (progress.takeAll setup front), some fault) := by
  intro text lines fed
  have hfaulty : ∀ raw ∈ lines, ∀ fault,
      lineFault? setup.markers raw = some fault ↔ Faulty setup.markers raw fault := by
    intro raw hmem fault
    have hline : raw ∈ (breakLines text).1 := (List.takeWhile_sublist _).subset hmem
    exact lineFault?_eq_some_iff (unbroken_of_mem_breakLines text raw hline)
  have hreadable : ∀ raw ∈ lines,
      lineFault? setup.markers raw = none ↔ ∀ fault, ¬ Faulty setup.markers raw fault := by
    intro raw hmem
    simp only [← hfaulty raw hmem, Option.eq_none_iff_forall_ne_some, ne_eq]
  have hnone : fed.2 = none ↔ ∀ raw ∈ lines, lineFault? setup.markers raw = none :=
    feed_eq_none_iff progress
  refine ⟨?_, ?_, ?_⟩
  · rw [hnone]
    exact forall₂_congr hreadable
  · intro hfed
    have hall : fed = (havingRead setup progress text, none) :=
      feed_of_readable progress (hnone.mp hfed)
    rw [hall]
  · intro front raw later fault hlines hfront hfault
    have hmem : ∀ r ∈ front ++ raw :: later, r ∈ lines := fun r hr => hlines ▸ hr
    rw [List.forall_mem_append, List.forall_mem_cons] at hmem
    have hnofault : ∀ r ∈ front, lineFault? setup.markers r = none := fun r hr =>
      (hreadable r (hmem.1 r hr)).mpr (hfront r hr)
    exact feed_of_lineFault? progress hlines hnofault ((hfaulty raw hmem.2.1 fault).mpr hfault)

end Run

/-! ## A report that is lost -/

/-- A text without an escape character has nothing that decorates it for a terminal. -/
theorem strip_of_not_mem {text : List Char} (h : Terminal.escape ∉ text) :
    Terminal.strip text = text :=
  Terminal.Styled.plain.stripBy_eq Terminal.plainWhereBounded_controlSequence h

/-- A note whose line number is too long, and behind it a report on another file. The note belongs to
nothing, but the report is lost with it. -/
theorem feed_loses_line :
    let setup : Setup := ⟨fun _ => true, [], true⟩
    let note := "a.swift".toList ++ ':' :: (List.replicate 4301 '1' ++ ": note: here".toList)
    let lost := "b.swift:1: error: lost".toList
    let text := note ++ '\n' :: (lost ++ ['\n'])
    let fed := Run.start.feed setup (String.ofList text)
    lost ∈ beforeMarker setup.markers (breakLines text).1 ∧
      reportLine? (plainLine lost) = some ⟨"b.swift", .point ⟨0, 0⟩, .error, "lost"⟩ ∧
      fed.2 = some (.numeral (.read 4301)) ∧ fed.1.close.reports? = some .empty := by
  intro setup note lost text fed
  have habsent : ∀ c, c ∉ "a.swift".toList → c ≠ ':' → c ≠ '1' → c ∉ ": note: here".toList →
      c ∉ note := by
    intro c hpath hcolon hone hrest hmem
    rcases List.mem_append.mp hmem with hmem | hmem
    · exact hpath hmem
    · rcases List.mem_cons.mp hmem with hmem | hmem
      · exact hcolon hmem
      · rcases List.mem_append.mp hmem with hmem | hmem
        · exact hone (List.eq_of_mem_replicate hmem)
        · exact hrest hmem
  have hfeed : '\n' ∉ note := habsent _ (by decide) (by decide) (by decide) (by decide)
  have hreturn : '\r' ∉ note := habsent _ (by decide) (by decide) (by decide) (by decide)
  have hescape : Terminal.escape ∉ note :=
    habsent _ (by decide) (by decide) (by decide) (by decide)
  have hunbroken : Unbroken note := fun c hc => ⟨fun heq => hfeed (heq ▸ hc),
    fun heq => hreturn (heq ▸ hc)⟩
  have hbroken : breakLines text = ([note, lost], []) :=
    breakLines_unbroken_append hunbroken (by rw [breakLines_feed]; decide)
  have hlines : beforeMarker setup.markers (breakLines text).1 = [note, lost] := by
    rw [hbroken]
    rfl
  have hdigits : IsNumeral (List.replicate 4301 '1') := by
    refine ⟨List.cons_ne_nil _ _, fun c hc => ?_⟩
    rw [List.eq_of_mem_replicate hc]
    decide
  have htail : IsTail (':' :: (List.replicate 4301 '1' ++ ": note: here".toList))
      ⟨List.replicate 4301 '1', none, "note", "here".toList⟩ := by
    have hgap : IsGap [' '] :=
      ⟨List.cons_ne_nil _ _, List.forall_mem_singleton.mpr (by decide)⟩
    refine ⟨⟨[' '], [' '], hgap, hgap, ?_⟩, hdigits, ?_, by decide, ?_⟩
    · rw [spelled_eq]
      rfl
    · rintro _ ⟨⟩
    · rintro _ ⟨⟩
      decide
  have hreads : Reads (Terminal.strip note) [] "a.swift".toList
      ⟨List.replicate 4301 '1', none, "note", "here".toList⟩ := by
    have hhead : ∀ c ∈ note.head?, isDecoration c = false := by
      rintro c ⟨⟩
      decide
    rw [strip_of_not_mem hescape]
    exact reads_of_not_mem (List.forall_mem_nil _) hhead (by decide) htail
  have hfault : lineFault? setup.markers note = some (.numeral (.read 4301)) := by
    refine (lineFault?_eq_some_iff hunbroken).mpr (.numeral rfl hreads (by decide) ?_)
    rw [Tail.fault?, List.length_replicate]
    rfl
  have hfed : fed = (.reading [] .start, some (.numeral (.read 4301))) := by
    have hfirst : beforeMarker setup.markers (breakLines ([] ++ (String.ofList text).toList)).1 =
        [] ++ note :: [lost] := by
      rw [String.toList_ofList]
      exact hlines
    have hstop := Run.feed_of_lineFault? .start hfirst (by simp) hfault
    rw [String.toList_ofList, List.nil_append, hbroken] at hstop
    exact hstop
  refine ⟨?_, by decide +kernel, ?_, ?_⟩
  · rw [hlines]
    exact List.mem_cons_of_mem _ (List.mem_cons_self ..)
  · rw [hfed]
  · rw [hfed]
    rfl

end Reconcile.Report
