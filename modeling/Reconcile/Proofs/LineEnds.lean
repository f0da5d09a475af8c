import Reconcile.Text.Lines

/-!
# Lines of a text that comes in two pieces

Text that arrives in pieces is broken into lines piece by piece: what a piece leaves unfinished is
put in front of the next one. This file compares that with breaking the whole text.

* `breakLines_append`: the pieces yield the same lines and leave the same text unfinished, unless the
  cut goes through a line end.
* `breakLines_append_cut`: a cut through a line end adds an empty line, and nothing else changes.

Both rest on what is left unfinished: it has no line end in it (`unbroken_unfinished`), so it only
makes the first line of the next piece longer.
-/

namespace Reconcile.Text

/-- A text has no line end in it. -/
def Unbroken (text : List Char) : Prop :=
  ∀ c ∈ text, c ≠ '\n' ∧ c ≠ '\r'

/-- A cut between two texts goes through a line end of two characters. -/
def CutsLineEnd (front back : List Char) : Prop :=
  front.getLast? = some '\r' ∧ back.head? = some '\n'

/-- Lines and an unfinished line, with one more character in front. -/
def extendFirst (c : Char) : List (List Char) × List Char → List (List Char) × List Char
  | ([], unfinished) => ([], c :: unfinished)
  | (line :: lines, unfinished) => ((c :: line) :: lines, unfinished)

/-! ## One character -/

theorem breakLines_char {c : Char} (h : c ≠ '\n' ∧ c ≠ '\r') (text : List Char) :
    breakLines (c :: text) = extendFirst c (breakLines text) := by
  rw [breakLines.eq_3 c text fun _ hreturn => absurd hreturn h.2, if_neg (by simp [h.1, h.2])]
  rcases breakLines text with ⟨lines, unfinished⟩
  cases lines <;> rfl

theorem breakLines_feed (text : List Char) :
    breakLines ('\n' :: text) = ([] :: (breakLines text).1, (breakLines text).2) := by
  rw [breakLines.eq_3 '\n' text (by simp)]
  rfl

theorem breakLines_return {text : List Char} (h : text.head? ≠ some '\n') :
    breakLines ('\r' :: text) = ([] :: (breakLines text).1, (breakLines text).2) := by
  rw [breakLines.eq_3 '\r' text ?_]
  · rfl
  · rintro rest - rfl
    exact h rfl

/-- Induction along the line ends of a text. -/
@[elab_as_elim]
theorem lineEnd_induction {motive : List Char → Prop} (nil : motive [])
    (returnFeed : ∀ text, motive text → motive ('\r' :: '\n' :: text))
    (feed : ∀ text, motive text → motive ('\n' :: text))
    (loneReturn : ∀ text, text.head? ≠ some '\n' → motive text → motive ('\r' :: text))
    (char : ∀ c text, c ≠ '\n' ∧ c ≠ '\r' → motive text → motive (c :: text)) :
    ∀ text, motive text
  | [] => nil
  | c :: text => by
    have hnext : motive text := lineEnd_induction nil returnFeed feed loneReturn char text
    by_cases hfeed : c = '\n'
    · exact hfeed ▸ feed text hnext
    · by_cases hreturn : c = '\r'
      · cases text with
        | nil => exact hreturn ▸ loneReturn [] (by simp) nil
        | cons d rest =>
          by_cases hpair : d = '\n'
          · rw [hreturn, hpair]
            exact returnFeed rest (lineEnd_induction nil returnFeed feed loneReturn char rest)
          · exact hreturn ▸ loneReturn (d :: rest) (by simp [hpair]) hnext
      · exact char c text ⟨hfeed, hreturn⟩ hnext
termination_by text => text.length

/-! ## The unfinished line -/

/-- What is left unfinished has no line end in it. -/
theorem unbroken_unfinished (text : List Char) : Unbroken (breakLines text).2 := by
  induction text using lineEnd_induction with
  | nil => exact fun c hmem => absurd hmem (by simp [breakLines])
  | returnFeed text ih => exact ih
  | feed text ih => rw [breakLines_feed]; exact ih
  | loneReturn text hhead ih => rw [breakLines_return hhead]; exact ih
  | char c text hc ih =>
    rw [breakLines_char hc]
    generalize breakLines text = broken at ih
    rcases broken with ⟨lines, unfinished⟩
    cases lines with
    | nil =>
      intro d hmem
      rcases List.mem_cons.mp hmem with rfl | hmem
      · exact hc
      · exact ih d hmem
    | cons line lines => exact ih

/-- A complete line has no line end in it either. -/
theorem unbroken_of_mem_breakLines (text : List Char) :
    ∀ line ∈ (breakLines text).1, Unbroken line := by
  have hempty : Unbroken [] := fun c hmem => absurd hmem (by simp)
  induction text using lineEnd_induction with
  | nil => exact fun line hmem => absurd hmem (by simp [breakLines])
  | returnFeed text ih => exact List.forall_mem_cons.mpr ⟨hempty, ih⟩
  | feed text ih => rw [breakLines_feed]; exact List.forall_mem_cons.mpr ⟨hempty, ih⟩
  | loneReturn text hhead ih =>
    rw [breakLines_return hhead]
    exact List.forall_mem_cons.mpr ⟨hempty, ih⟩
  | char c text hc ih =>
    rw [breakLines_char hc]
    generalize breakLines text = broken at ih
    rcases broken with ⟨lines, unfinished⟩
    cases lines with
    | nil => exact ih
    | cons line lines =>
      obtain ⟨hline, hlines⟩ := List.forall_mem_cons.mp ih
      exact List.forall_mem_cons.mpr ⟨List.forall_mem_cons.mpr ⟨hc, hline⟩, hlines⟩

theorem breakLines_of_unbroken {text : List Char} (h : Unbroken text) :
    breakLines text = ([], text) := by
  induction text with
  | nil => rfl
  | cons c text ih =>
    rw [breakLines_char (h c (List.mem_cons_self ..)),
      ih fun d hd => h d (List.mem_cons_of_mem _ hd)]
    rfl

/-- An unfinished line makes the first line of what follows longer. -/
theorem breakLines_unbroken_append {unfinished text : List Char} (h : Unbroken unfinished)
    {lines : List (List Char)} {left : List Char} (htext : breakLines text = ([] :: lines, left)) :
    breakLines (unfinished ++ text) = (unfinished :: lines, left) := by
  induction unfinished with
  | nil => exact htext
  | cons c unfinished ih =>
    rw [List.cons_append, breakLines_char (h c (List.mem_cons_self ..)),
      ih fun d hd => h d (List.mem_cons_of_mem _ hd)]
    rfl

/-! ## Two pieces -/

theorem CutsLineEnd.cons {front back : List Char} (c : Char) (h : CutsLineEnd front back) :
    CutsLineEnd (c :: front) back := by
  refine ⟨?_, h.2⟩
  rw [List.getLast?_cons, h.1]
  rfl

/-- What is left unfinished by an earlier text is never part of a line end that is cut. -/
theorem CutsLineEnd.of_append {unfinished front back : List Char} (hunbroken : Unbroken unfinished)
    (h : CutsLineEnd (unfinished ++ front) back) : CutsLineEnd front back := by
  refine ⟨?_, h.2⟩
  have hlast := h.1
  rw [List.getLast?_append] at hlast
  cases hfront : front.getLast? with
  | some c => rw [hfront] at hlast; exact hlast
  | none =>
    rw [hfront] at hlast
    exact absurd rfl (hunbroken '\r' (List.mem_of_getLast? hlast)).2

/-- Text in two pieces has the lines of both, if no line end is cut. -/
theorem breakLines_append {front back : List Char} (h : ¬ CutsLineEnd front back) :
    breakLines (front ++ back) =
      ((breakLines front).1 ++ (breakLines ((breakLines front).2 ++ back)).1,
        (breakLines ((breakLines front).2 ++ back)).2) := by
  induction front using lineEnd_induction with
  | nil => rfl
  | returnFeed text ih =>
    have hrest := ih fun hcut => h ((hcut.cons _).cons _)
    rw [List.cons_append, List.cons_append, breakLines, breakLines, hrest]
    rfl
  | feed text ih =>
    have hrest := ih fun hcut => h (hcut.cons _)
    rw [List.cons_append, breakLines_feed, breakLines_feed, hrest]
    rfl
  | loneReturn text hhead ih =>
    have hrest := ih fun hcut => h (hcut.cons _)
    have hhead' : (text ++ back).head? ≠ some '\n' := by
      cases text with
      | nil => exact fun hback => h ⟨rfl, hback⟩
      | cons d text => exact hhead
    rw [List.cons_append, breakLines_return hhead', breakLines_return hhead, hrest]
    rfl
  | char c text hc ih =>
    have hrest := ih fun hcut => h (hcut.cons _)
    rw [List.cons_append, breakLines_char hc, breakLines_char hc, hrest]
    rcases breakLines text with ⟨lines, unfinished⟩
    cases lines with
    | nil =>
      show _ = (_ ++ (breakLines (c :: (unfinished ++ back))).1,
        (breakLines (c :: (unfinished ++ back))).2)
      rw [breakLines_char hc]
      rfl
    | cons line lines => rfl

/-- A cut through a line end adds an empty line. -/
theorem breakLines_append_cut {front back : List Char} (h : CutsLineEnd front back) :
    ∃ later, (breakLines ((breakLines front).2 ++ back)).1 = [] :: later ∧
      breakLines (front ++ back) =
        ((breakLines front).1 ++ later, (breakLines ((breakLines front).2 ++ back)).2) := by
  obtain ⟨hfront, hback⟩ := h
  obtain ⟨text, rfl⟩ := List.getLast?_eq_some_iff.mp hfront
  obtain ⟨rest, rfl⟩ := List.head?_eq_some_iff.mp hback
  have hunbroken := unbroken_unfinished text
  have hreturn : breakLines (text ++ ['\r']) =
      ((breakLines text).1 ++ [(breakLines text).2], []) := by
    rw [breakLines_append fun hcut => absurd hcut.2 (by simp),
      breakLines_unbroken_append hunbroken (breakLines_return (by simp))]
    rfl
  have hwhole : breakLines (text ++ '\r' :: '\n' :: rest) =
      ((breakLines text).1 ++ (breakLines text).2 :: (breakLines rest).1, (breakLines rest).2) := by
    rw [breakLines_append fun hcut => absurd hcut.2 (by simp),
      breakLines_unbroken_append hunbroken (breakLines.eq_2 rest)]
  refine ⟨(breakLines rest).1, ?_, ?_⟩
  · rw [hreturn, List.nil_append, breakLines_feed]
  · rw [List.append_assoc, List.cons_append, List.nil_append, hwhole, hreturn, List.nil_append,
      breakLines_feed, List.append_assoc]
    rfl

theorem unfinished_append (front back : List Char) :
    (breakLines (front ++ back)).2 = (breakLines ((breakLines front).2 ++ back)).2 := by
  by_cases h : CutsLineEnd front back
  · obtain ⟨later, -, hwhole⟩ := breakLines_append_cut h
    rw [hwhole]
  · rw [breakLines_append h]

end Reconcile.Text
