import Reconcile.Proofs.Blocks
import Reconcile.Proofs.LineEnds
import Reconcile.Proofs.Places

/-!
# A run does not depend on how its output is cut

The output of the compiler arrives in chunks that may end anywhere. This file shows that a run comes
to the same, reports and faults alike, as if the output had come at once.

* `readChunks_join`: reading chunks yields what reading all of their text at once does, if no cut
  goes through a line end of two characters, or if no marker occurs in an empty line.

A chunk that has been fed without a fault leaves a line unfinished that has no line end in it
(`Run.Clean`). From such a run on, feeding two chunks amounts to feeding the two as one
(`feedAll_pair`): the lines of the pieces are those of the whole (`breakLines_append`), but for one
empty line where the cut goes through a line end, and an empty line that is no marker changes
nothing (`readLines_empty`). What holds of two chunks holds of any number by induction.
-/

namespace Reconcile.Report

open Text

/-! ## Empty lines -/

theorem plainLine_nil : plainLine [] = "" := by
  have hstrip : Terminal.strip [] = [] := List.sublist_nil.mp (Terminal.stripBy_sublist _ [])
  rw [plainLine, hstrip]

/-- Where no pattern occurs in the empty line, none goes wrong there either. -/
theorem anyOccurs_empty {patterns : List Pattern}
    (h : ∀ pattern ∈ patterns, pattern.occursIn "" ≠ .ok true) :
    anyOccurs "" patterns = .ok false := by
  induction patterns with
  | nil => rfl
  | cons pattern patterns ih =>
    obtain ⟨found, hfound⟩ := pattern.occursIn_empty
    have hnone : found = false := by
      cases found with
      | false => rfl
      | true => exact absurd hfound (h pattern (List.mem_cons_self ..))
    rw [anyOccurs, hfound, hnone]
    exact ih fun p hp => h p (List.mem_cons_of_mem _ hp)

namespace Progress

variable (setup : Setup)

/-- An empty line changes nothing, unless it is a marker. -/
theorem readLines_empty (h : setup.isMarker "" = .ok false) (progress : Progress)
    (lines : List (List Char)) :
    progress.readLines setup ([] :: lines) = progress.readLines setup lines := by
  rw [readLines_cons, plainLine_nil, h]
  rfl

/-- Lines are read on unless a marker or a fault ends the reading. -/
theorem readLines_append (progress : Progress) (front back : List (List Char)) :
    progress.readLines setup (front ++ back) =
      match progress.readLines setup front with
      | (next, .unfinished) => next.readLines setup back
      | ended => ended := by
  induction front generalizing progress with
  | nil => rfl
  | cons raw front ih =>
    rw [List.cons_append, readLines_cons, readLines_cons]
    cases setup.isMarker (plainLine raw) with
    | error fault => rfl
    | ok marked =>
      cases marked with
      | true => rfl
      | false =>
        cases Line.read? (plainLine raw) with
        | error fault => rfl
        | ok found =>
          cases found with
          | none => exact ih progress
          | some line => exact ih (progress.take setup line)

/-- The lines of two pieces are read like those of the whole. -/
theorem readLines_pieces (progress : Progress) {front back : List Char}
    (h : setup.isMarker "" = .ok false ∨ ¬ CutsLineEnd front back) :
    progress.readLines setup
        ((breakLines front).1 ++ (breakLines ((breakLines front).2 ++ back)).1) =
      progress.readLines setup (breakLines (front ++ back)).1 := by
  by_cases hcut : CutsLineEnd front back
  · have hblank : setup.isMarker "" = .ok false := h.resolve_right fun hnot => hnot hcut
    obtain ⟨later, hlater, hwhole⟩ := breakLines_append_cut hcut
    rw [hlater, hwhole, readLines_append, readLines_append]
    rcases progress.readLines setup (breakLines front).1 with ⟨next, ending⟩
    cases ending with
    | unfinished => exact readLines_empty setup hblank next later
    | marker => rfl
    | fault fault => rfl
  · rw [breakLines_append hcut]

end Progress

/-! ## Chunks -/

/-- No cut between chunks goes through a line end. -/
def KeepLineEnds (chunks : List String) : Prop :=
  ∀ front back, chunks = front ++ back →
    ¬ CutsLineEnd (String.join front).toList (String.join back).toList

theorem KeepLineEnds.tail {chunk : String} {chunks : List String}
    (h : KeepLineEnds (chunk :: chunks)) : KeepLineEnds chunks := by
  rintro front back rfl hcut
  refine h (chunk :: front) back rfl ⟨?_, hcut.2⟩
  rw [String.join_cons, String.toList_append, List.getLast?_append, hcut.1]
  rfl

theorem KeepLineEnds.head {chunk : String} {chunks : List String}
    (h : KeepLineEnds (chunk :: chunks)) :
    ¬ CutsLineEnd chunk.toList (String.join chunks).toList := by
  have hcut := h [chunk] chunks rfl
  rw [String.join_cons, String.join_nil, String.append_empty] at hcut
  exact hcut

namespace Run

/-- What a run has left unfinished has no line end in it. -/
def Clean : Run → Prop
  | reading unfinished _ => Unbroken unfinished
  | completed _ => True
  | abandoned => True

variable (setup : Setup)

/-- Feeding leaves a clean run behind. -/
theorem clean_feed (run : Run) (chunk : String) : (run.feed setup chunk).1.Clean := by
  cases run with
  | completed reports => trivial
  | abandoned => trivial
  | reading unfinished progress =>
    have hunbroken := unbroken_unfinished (unfinished ++ chunk.toList)
    rw [feed]
    rcases progress.readLines setup (breakLines (unfinished ++ chunk.toList)).1 with ⟨next, ending⟩
    cases ending with
    | unfinished => exact hunbroken
    | marker => trivial
    | fault fault => exact hunbroken

/-- Feeding no text changes nothing. -/
theorem feedAll_empty {run : Run} (h : run.Clean) : run.feedAll setup [""] = .ok run := by
  cases run with
  | completed reports => rfl
  | abandoned => rfl
  | reading unfinished progress =>
    rw [feedAll, feed, String.toList_empty, List.append_nil, breakLines_of_unbroken h]
    rfl

/-- Feeding two chunks amounts to feeding them as one. -/
theorem feedAll_pair {run : Run} (hclean : run.Clean) {front back : String}
    (h : setup.isMarker "" = .ok false ∨ ¬ CutsLineEnd front.toList back.toList) :
    run.feedAll setup [front, back] = run.feedAll setup [front ++ back] := by
  cases run with
  | completed reports => rfl
  | abandoned => rfl
  | reading unfinished progress =>
    have hcut : setup.isMarker "" = .ok false ∨
        ¬ CutsLineEnd (unfinished ++ front.toList) back.toList :=
      h.imp_right fun hnot hcut => hnot (hcut.of_append hclean)
    have hlines := Progress.readLines_pieces setup progress hcut
    have hleft := unfinished_append (unfinished ++ front.toList) back.toList
    rw [Progress.readLines_append] at hlines
    rw [feedAll, feedAll, feed, feed, String.toList_append, ← List.append_assoc]
    rw [← hlines, hleft]
    rcases progress.readLines setup (breakLines (unfinished ++ front.toList)).1 with ⟨next, ending⟩
    cases ending with
    | unfinished => rfl
    | marker => rfl
    | fault fault => rfl

/-- Chunks that are fed one by one come to what all of their text comes to. -/
theorem feedAll_join (chunks : List String) {run : Run} (hclean : run.Clean)
    (h : setup.isMarker "" = .ok false ∨ KeepLineEnds chunks) :
    run.feedAll setup chunks = run.feedAll setup [String.join chunks] := by
  induction chunks generalizing run with
  | nil =>
    rw [String.join_nil, feedAll_empty setup hclean]
    rfl
  | cons chunk chunks ih =>
    have htwo : run.feedAll setup (chunk :: chunks) =
        run.feedAll setup [chunk, String.join chunks] := by
      have hnext := ih (clean_feed setup run chunk) (h.imp_right KeepLineEnds.tail)
      rw [feedAll, feedAll]
      generalize run.feed setup chunk = fed at hnext
      rcases fed with ⟨next, fault?⟩
      cases fault? with
      | none => exact hnext
      | some fault => rfl
    rw [htwo, String.join_cons, feedAll_pair setup hclean (h.imp_right KeepLineEnds.head)]

end Run

/-- **A run does not depend on how its output is cut.** Reading chunks yields what reading all of
their text at once does, reports or fault, if no marker occurs in the empty line or no cut goes
through a line end. -/
theorem readChunks_join (setup : Setup) (chunks : List String)
    (h : (∀ pattern ∈ setup.markers, pattern.occursIn "" ≠ .ok true) ∨ KeepLineEnds chunks) :
    readChunks setup chunks = readChunks setup [String.join chunks] := by
  have hstart : Run.start.Clean := fun c hmem => absurd hmem (by simp)
  rw [readChunks, readChunks, Run.feedAll_join setup chunks hstart (h.imp_left anyOccurs_empty)]

/-- A numeral, a word and a line end are cut; the marker does not occur in the empty line. -/
theorem readChunks_cut_in_four :
    readChunks ⟨(· = "a.swift"), [⟨"x", ⟨.char (.letterIn .exact false 120), 1, .inUse⟩⟩], true⟩
        ["a.swift:1", "2: er", "ror: lost\r", "\nrest"] =
      readChunks ⟨(· = "a.swift"), [⟨"x", ⟨.char (.letterIn .exact false 120), 1, .inUse⟩⟩], true⟩
        ["a.swift:12: error: lost\r\nrest"] := by
  have hmarkers : ∀ pattern ∈ [Pattern.mk "x" ⟨.char (.letterIn .exact false 120), 1, .inUse⟩],
      pattern.occursIn "" ≠ .ok true := by
    intro pattern hmem
    obtain rfl := List.mem_singleton.mp hmem
    have hnone : (Pattern.mk "x" ⟨.char (.letterIn .exact false 120), 1, .inUse⟩).occursIn "" =
        .ok false := rfl
    rw [hnone]
    exact fun hfound => absurd hfound (by simp)
  have hjoin : String.join ["a.swift:1", "2: er", "ror: lost\r", "\nrest"] =
      "a.swift:12: error: lost\r\nrest" := by decide
  rw [readChunks_join _ _ (Or.inl hmarkers), hjoin]

end Reconcile.Report
