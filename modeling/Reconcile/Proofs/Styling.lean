import Mathlib.Data.List.Basic
import Mathlib.Data.List.TakeWhile
import Reconcile.Proofs.Removal
import Reconcile.Terminal.Escape

/-!
# Styling is transparent

A line that was decorated for a terminal, and decorated again inside of the decorations, comes out
of `strip` as the line it was. The decorations are the complete sequences (`IsComplete`), and a
decorated line is one that complete sequences were put into, one after another and anywhere
(`Styled`).

* Complete sequences neither overlap nor nest (`IsComplete.apart`), so it does not matter in which
  order they are taken out: whichever goes, a decorated line is left (`Styled.remove`).
* A removal takes out complete sequences and nothing else. For commands this is so on every line; a
  control sequence may have other finals than letters, but not on a decorated line, where parameters
  end in a letter or are interrupted by another escape (`Styled.isBounded`).
* What is left at the end has no complete sequence, so nothing was put into it: it is the line.

`styling_is_transparent` says this for whatever may count as a control sequence, as long as it is
plain where parameters are bounded (`PlainWhereBounded`). Nothing more is relied on of the control
sequences that `strip` takes; the plain ones alone (`plainControl`) would do as well.
-/

namespace Reconcile.Terminal

open Reconcile.Text

/-! ## Complete sequences -/

/-- What the parameters of a plain control sequence are made of. -/
def isParameter (c : Char) : Bool :=
  c.isDigit || c == ';' || c == '?'

/-- A plain control sequence: escape, an opening bracket, parameters, and a letter. -/
def IsPlainControl (sequence : List Char) : Prop :=
  ∃ parameters letter, (∀ c ∈ parameters, isParameter c = true) ∧ letter.isAlpha = true ∧
    sequence = escape :: '[' :: (parameters ++ [letter])

/-- An operating system command: escape, a closing bracket, a body, and a bell or an escape with a
backslash. -/
def IsCommand (sequence : List Char) : Prop :=
  ∃ body ending, escape ∉ body ∧ bell ∉ body ∧ (ending = [bell] ∨ ending = [escape, '\\']) ∧
    sequence = escape :: ']' :: (body ++ ending)

/-- A complete sequence. -/
def IsComplete (sequence : List Char) : Prop :=
  IsPlainControl sequence ∨ IsCommand sequence

/-- The lines that come of putting complete sequences into a line, one after another and at any
place, inside of others too. -/
inductive Styled (line : List Char) : List Char → Prop where
  | plain : Styled line line
  | insert {before after sequence : List Char} : Styled line (before ++ after) →
    IsComplete sequence → Styled line (before ++ sequence ++ after)

theorem toNat_of_isParameter {c : Char} (h : isParameter c = true) :
    0x30 ≤ c.toNat ∧ c.toNat ≤ 0x3f := by
  simp only [isParameter, Char.isDigit, Bool.or_eq_true, Bool.and_eq_true, decide_eq_true_eq,
    beq_iff_eq] at h
  rcases h with (⟨hlow, hhigh⟩ | rfl) | rfl
  · exact ⟨UInt32.le_iff_toNat_le.mp hlow,
      Nat.le_trans (UInt32.le_iff_toNat_le.mp hhigh) (by decide)⟩
  · decide
  · decide

theorem toNat_of_isAlpha {c : Char} (h : c.isAlpha = true) : 0x41 ≤ c.toNat ∧ c.toNat ≤ 0x7a := by
  have hcase : c.isUpper = true ∨ c.isLower = true := Bool.or_eq_true_iff.mp h
  rcases hcase with hupper | hlower
  · have hrange : 'A'.val ≤ c.val ∧ c.val ≤ 'Z'.val := of_decide_eq_true hupper
    have hhigh : c.toNat ≤ 0x5a := UInt32.le_iff_toNat_le.mp hrange.2
    exact ⟨UInt32.le_iff_toNat_le.mp hrange.1, Nat.le_trans hhigh (by decide)⟩
  · obtain ⟨hlow, hhigh⟩ : decide ('a'.val ≤ c.val) = true ∧ decide (c.val ≤ 'z'.val) = true :=
      Bool.and_eq_true_iff.mp hlower
    have hlow' : 0x61 ≤ c.toNat := UInt32.le_iff_toNat_le.mp (of_decide_eq_true hlow)
    exact ⟨Nat.le_trans (by decide) hlow',
      UInt32.le_iff_toNat_le.mp (of_decide_eq_true hhigh)⟩

/-- A letter is no parameter. -/
theorem isParameter_of_isAlpha {c : Char} (h : c.isAlpha = true) : isParameter c = false := by
  rw [← Bool.not_eq_true]
  intro hparameter
  have hletter := toNat_of_isAlpha h
  have hrange := toNat_of_isParameter hparameter
  omega

/-- What follows the parameters and the letter of a plain control sequence. -/
def afterPlain? (text : List Char) : Option (List Char) :=
  match text.dropWhile isParameter with
  | letter :: rest => if letter.isAlpha then some rest else none
  | [] => none

theorem afterPlain?_iff {text rest : List Char} :
    afterPlain? text = some rest ↔ ∃ parameters letter,
      (∀ c ∈ parameters, isParameter c = true) ∧ letter.isAlpha = true ∧
        text = parameters ++ letter :: rest := by
  rw [afterPlain?]
  constructor
  · intro h
    split at h
    next letter rest' hdrop =>
      split at h
      next hletter =>
        cases h
        refine ⟨text.takeWhile isParameter, letter, fun _ => List.mem_takeWhile_imp, hletter, ?_⟩
        rw [← hdrop, List.takeWhile_append_dropWhile]
      next => cases h
    next => cases h
  · rintro ⟨parameters, letter, hparameters, hletter, rfl⟩
    rw [List.dropWhile_append_of_pos hparameters,
      List.dropWhile_cons_of_neg (by simp [isParameter_of_isAlpha hletter])]
    exact if_pos hletter

/-- Plain control sequences alone. -/
def plainControl : Passage where
  after?
    | first :: '[' :: text => if first = escape then afterPlain? text else none
    | _ => none
  split {text rest} h := by
    split at h
    next first text' =>
      split at h
      next =>
        obtain ⟨parameters, letter, -, -, rfl⟩ := afterPlain?_iff.mp h
        exact ⟨first :: '[' :: (parameters ++ [letter]), by simp, by simp⟩
      next => cases h
    next => cases h

theorem afterCommand?_iff {text rest : List Char} :
    afterCommand? text = some rest ↔ ∃ body ending, escape ∉ body ∧ bell ∉ body ∧
      (ending = [bell] ∨ ending = [escape, '\\']) ∧ text = body ++ (ending ++ rest) := by
  constructor
  · intro h
    induction text with
    | nil => cases h
    | cons c text ih =>
      unfold afterCommand? at h
      split at h
      next hbell =>
        cases h
        exact ⟨[], [bell], List.not_mem_nil, List.not_mem_nil, .inl rfl, by rw [hbell]; rfl⟩
      next hbell =>
        split at h
        next hescape =>
          split at h
          next =>
            cases h
            refine ⟨[], [escape, '\\'], List.not_mem_nil, List.not_mem_nil, .inr rfl, ?_⟩
            rw [hescape]
            rfl
          next => cases h
        next hescape =>
          obtain ⟨body, ending, hbody, hbody', hending, rfl⟩ := ih h
          refine ⟨c :: body, ending, ?_, ?_, hending, rfl⟩
          · simp [Ne.symm hescape, hbody]
          · simp [Ne.symm hbell, hbody']
  · rintro ⟨body, ending, hescape, hbell, hending, rfl⟩
    induction body with
    | nil =>
      rcases hending with rfl | rfl
      · rfl
      · rfl
    | cons c body ih =>
      rw [List.mem_cons, not_or] at hescape hbell
      rw [List.cons_append]
      unfold afterCommand?
      rw [if_neg (Ne.symm hbell.1), if_neg (Ne.symm hescape.1)]
      exact ih hescape.2 hbell.2

theorem plainControl_after?_iff {text rest : List Char} :
    plainControl.after? text = some rest ↔
      ∃ sequence, IsPlainControl sequence ∧ text = sequence ++ rest := by
  dsimp only [plainControl]
  constructor
  · intro h
    split at h
    next first tail =>
      split at h
      next hfirst =>
        obtain ⟨parameters, letter, hparameters, hletter, rfl⟩ := afterPlain?_iff.mp h
        exact ⟨_, ⟨parameters, letter, hparameters, hletter, rfl⟩, by simp [hfirst]⟩
      next => cases h
    next => cases h
  · rintro ⟨sequence, ⟨parameters, letter, hparameters, hletter, rfl⟩, rfl⟩
    have hafter : afterPlain? (parameters ++ [letter] ++ rest) = some rest :=
      afterPlain?_iff.mpr ⟨parameters, letter, hparameters, hletter, by simp⟩
    exact (if_pos rfl).trans hafter

theorem systemCommand_after?_iff {text rest : List Char} :
    systemCommand.after? text = some rest ↔
      ∃ sequence, IsCommand sequence ∧ text = sequence ++ rest := by
  dsimp only [systemCommand]
  constructor
  · intro h
    split at h
    next first tail =>
      split at h
      next hfirst =>
        obtain ⟨body, ending, hescape, hbell, hending, rfl⟩ := afterCommand?_iff.mp h
        exact ⟨_, ⟨body, ending, hescape, hbell, hending, rfl⟩, by simp [hfirst]⟩
      next => cases h
    next => cases h
  · rintro ⟨sequence, ⟨body, ending, hescape, hbell, hending, rfl⟩, rfl⟩
    have hafter : afterCommand? (body ++ ending ++ rest) = some rest :=
      afterCommand?_iff.mpr ⟨body, ending, hescape, hbell, hending, List.append_assoc ..⟩
    exact (if_pos rfl).trans hafter

theorem IsPlainControl.after? {sequence : List Char} (h : IsPlainControl sequence)
    (rest : List Char) : plainControl.after? (sequence ++ rest) = some rest :=
  plainControl_after?_iff.mpr ⟨sequence, h, rfl⟩

theorem IsCommand.after? {sequence : List Char} (h : IsCommand sequence) (rest : List Char) :
    systemCommand.after? (sequence ++ rest) = some rest :=
  systemCommand_after?_iff.mpr ⟨sequence, h, rfl⟩

/-! ## Complete sequences stand apart -/

theorem IsComplete.exists_cons {sequence : List Char} (h : IsComplete sequence) :
    ∃ c tail, sequence = escape :: c :: tail ∧ (c = '[' ∨ c = ']') := by
  rcases h with ⟨parameters, letter, -, -, rfl⟩ | ⟨body, ending, -, -, -, rfl⟩
  · exact ⟨'[', _, rfl, .inl rfl⟩
  · exact ⟨']', _, rfl, .inr rfl⟩

/-- No complete sequence starts with another one. -/
theorem IsComplete.eq_of_append {p q a b : List Char} (hp : IsComplete p) (hq : IsComplete q)
    (heq : p ++ a = q ++ b) : p = q ∧ a = b := by
  have hback : a = b := by
    rcases hp with hp | hp <;> rcases hq with hq | hq
    · have hfirst := hp.after? a
      rw [heq, hq.after? b] at hfirst
      exact (Option.some.inj hfirst).symm
    · obtain ⟨_, _, -, -, rfl⟩ := hp
      obtain ⟨_, _, -, -, -, rfl⟩ := hq
      simp at heq
    · obtain ⟨_, _, -, -, -, rfl⟩ := hp
      obtain ⟨_, _, -, -, rfl⟩ := hq
      simp at heq
    · have hfirst := hp.after? a
      rw [heq, hq.after? b] at hfirst
      exact (Option.some.inj hfirst).symm
  subst hback
  exact ⟨List.append_cancel_right heq, rfl⟩

/-- An escape inside of a complete sequence is that of its end. -/
theorem IsComplete.eq_of_escape {front back : List Char}
    (h : IsComplete (front ++ escape :: back)) (hfront : front ≠ []) : back = ['\\'] := by
  obtain ⟨c, front, rfl⟩ := List.exists_cons_of_ne_nil hfront
  have hmem : escape ∈ front ++ escape :: back := by simp
  rcases h with ⟨parameters, letter, hparameters, hletter, heq⟩ |
    ⟨body, ending, hescape, -, rfl | rfl, heq⟩
  · -- neither the bracket nor a parameter nor the letter is an escape
    have htail : front ++ escape :: back = '[' :: (parameters ++ [letter]) := (List.cons.inj heq).2
    rw [htail, List.mem_cons, List.mem_append, List.mem_singleton] at hmem
    rcases hmem with hbracket | hmem | hmem
    · exact absurd hbracket (by decide)
    · exact absurd (hparameters _ hmem) (by decide)
    · rw [← hmem] at hletter
      exact absurd hletter (by decide)
  · have htail : front ++ escape :: back = ']' :: (body ++ [bell]) := (List.cons.inj heq).2
    rw [htail, List.mem_cons, List.mem_append, List.mem_singleton] at hmem
    rcases hmem with hbracket | hmem | hmem
    · exact absurd hbracket (by decide)
    · exact absurd hmem hescape
    · exact absurd hmem (by decide)
  · -- the only escape behind the first one is that of the ending
    have hbody : escape ∉ ']' :: body := by
      rw [List.mem_cons, not_or]
      exact ⟨by decide, hescape⟩
    have htail : (']' :: body) ++ escape :: ['\\'] = front ++ escape :: back :=
      (List.cons.inj heq).2.symm
    exact ((List.append_cons_inj_of_notMem hbody (by decide)).mp htail).2.2.symm

/-- A sequence that starts behind the start of a complete one starts behind its end. -/
theorem IsComplete.exists_middle {p a front rest : List Char} {c : Char} (hp : IsComplete p)
    (hc : c ≠ '\\') (hfront : front ≠ []) (heq : p ++ a = front ++ escape :: c :: rest) :
    ∃ middle, front = p ++ middle ∧ a = middle ++ escape :: c :: rest := by
  rcases List.append_eq_append_iff.mp heq with ⟨middle, hmiddle, ha⟩ | ⟨extra, hextra, hrest⟩
  · exact ⟨middle, hmiddle, ha⟩
  · cases extra with
    | nil => exact ⟨[], by simpa using hextra.symm, hrest.symm⟩
    | cons d extra =>
      obtain ⟨rfl, htail⟩ := List.cons.inj hrest
      rw [hextra] at hp
      rw [hp.eq_of_escape hfront] at htail
      exact absurd (List.cons.inj htail).1 hc

/-- Two complete sequences of a text are the same one, or the second starts where the first has
ended. -/
theorem IsComplete.apart {p q a b front : List Char} (hp : IsComplete p) (hq : IsComplete q)
    (heq : p ++ a = front ++ (q ++ b)) :
    (front = [] ∧ p = q ∧ a = b) ∨ ∃ middle, front = p ++ middle ∧ a = middle ++ (q ++ b) := by
  by_cases hfront : front = []
  · subst hfront
    exact .inl ⟨rfl, hp.eq_of_append hq heq⟩
  · obtain ⟨c, tail, rfl, hc⟩ := hq.exists_cons
    have hbackslash : c ≠ '\\' := by rcases hc with rfl | rfl <;> decide
    exact .inr (hp.exists_middle hbackslash hfront heq)

/-! ## Styled lines -/

section Styled

variable {line : List Char} (hline : escape ∉ line)

include hline

/-- Whichever complete sequence is taken out of a styled line, a styled line is left. -/
theorem Styled.remove {text before sequence after : List Char} (h : Styled line text)
    (hsequence : IsComplete sequence) (htext : text = before ++ (sequence ++ after)) :
    Styled line (before ++ after) := by
  induction h generalizing before after with
  | plain =>
    obtain ⟨c, tail, rfl, -⟩ := hsequence.exists_cons
    rw [htext] at hline
    simp at hline
  | @insert front back put hstyled hput ih =>
    -- what goes is what was put in last, or stands behind it, or in front of it
    rw [List.append_assoc] at htext
    rcases List.append_eq_append_iff.mp htext with ⟨extra, rfl, hextra⟩ | ⟨extra, rfl, hextra⟩
    · rcases hput.apart hsequence hextra with ⟨rfl, -, rfl⟩ | ⟨middle, rfl, rfl⟩
      · rw [List.append_nil]
        exact hstyled
      · have hleft : Styled line (front ++ middle ++ after) := ih (by simp)
        rw [List.append_assoc] at hleft
        simpa using hleft.insert hput
    · rcases hsequence.apart hput hextra with ⟨rfl, -, rfl⟩ | ⟨middle, rfl, rfl⟩
      · rw [List.append_nil] at hstyled
        exact hstyled
      · have hleft : Styled line (before ++ (middle ++ back)) := ih (by simp)
        rw [← List.append_assoc] at hleft
        simpa using hleft.insert hput

/-- A passage that takes complete sequences only leaves a styled line. -/
theorem Styled.erase {passage : Passage}
    (hpassage : ∀ text rest, passage.after? text = some rest →
      ∃ sequence, IsComplete sequence ∧ text = sequence ++ rest)
    (front : List Char) {text : List Char} (h : Styled line (front ++ text)) :
    Styled line (front ++ passage.erase text) := by
  fun_induction passage.erase text generalizing front with
  | case1 => exact h
  | case2 c text rest hafter ih =>
    obtain ⟨sequence, hsequence, htext⟩ := hpassage _ _ hafter
    exact ih _ (h.remove hline hsequence (by rw [htext]))
  | case3 c text hafter ih =>
    have hleft : Styled line (front ++ [c] ++ passage.erase text) :=
      ih _ (by simpa using h)
    simpa using hleft

end Styled

/-- The parameters at the start of a text end in a letter, or are interrupted by an escape. -/
def IsBounded (text : List Char) : Prop :=
  ∃ c rest, text.dropWhile isParameter = c :: rest ∧ (c.isAlpha = true ∨ c = escape)

theorem IsComplete.isBounded {sequence rest tail : List Char} (h : IsComplete sequence)
    (heq : sequence ++ rest = escape :: '[' :: tail) : IsBounded tail := by
  rcases h with ⟨parameters, letter, hparameters, hletter, rfl⟩ | ⟨body, ending, -, -, -, rfl⟩
  · have htail : tail = parameters ++ (letter :: rest) := by
      simpa using (List.cons.inj (List.cons.inj heq).2).2.symm
    refine ⟨letter, rest, ?_, .inl hletter⟩
    rw [htail, List.dropWhile_append_of_pos hparameters,
      List.dropWhile_cons_of_neg (by simp [isParameter_of_isAlpha hletter])]
  · exact absurd (List.cons.inj (List.cons.inj heq).2).1 (by decide)

/-- Parameters stay bounded when a complete sequence is put in behind them or among them. -/
theorem IsBounded.insert {front back sequence : List Char} (h : IsBounded (front ++ back))
    (hsequence : IsComplete sequence) : IsBounded (front ++ (sequence ++ back)) := by
  obtain ⟨c, rest, hdrop, hc⟩ := h
  rw [IsBounded]
  rw [List.dropWhile_append] at hdrop ⊢
  split
  next hempty =>
    obtain ⟨d, tail, rfl, -⟩ := hsequence.exists_cons
    exact ⟨escape, _, List.dropWhile_cons_of_neg (by decide), .inr rfl⟩
  next hempty =>
    rw [if_neg hempty] at hdrop
    obtain ⟨d, front', hfront⟩ := List.exists_cons_of_ne_nil
      (mt List.isEmpty_iff.mpr hempty)
    rw [hfront] at hdrop ⊢
    obtain ⟨rfl, -⟩ := List.cons.inj hdrop
    exact ⟨d, _, rfl, hc⟩

/-- In a styled line, the parameters of every control sequence are bounded. -/
theorem Styled.isBounded {line text front tail : List Char} (hline : escape ∉ line)
    (h : Styled line text) (htext : text = front ++ escape :: '[' :: tail) : IsBounded tail := by
  induction h generalizing front tail with
  | plain =>
    rw [htext] at hline
    simp at hline
  | @insert before after put _ hput ih =>
    -- the bracket stands in what was put in last, behind it, or in front of it, and in front of it
    -- the parameters may now be interrupted by the escape of what was put in
    rw [List.append_assoc] at htext
    rcases List.append_eq_append_iff.mp htext with ⟨extra, rfl, hextra⟩ | ⟨extra, rfl, hextra⟩
    · by_cases hextra' : extra = []
      · subst hextra'
        exact hput.isBounded hextra
      · obtain ⟨middle, rfl, rfl⟩ := hput.exists_middle (by decide) hextra' hextra
        exact ih (List.append_assoc ..).symm
    · match extra, hextra with
      | [], hextra => exact hput.isBounded hextra.symm
      | [_], hextra =>
        -- what was put in starts with an escape, not with a bracket
        obtain ⟨c, rest, rfl, -⟩ := hput.exists_cons
        exact absurd (List.cons.inj (List.cons.inj hextra).2).1 (by decide)
      | _ :: _ :: extra, hextra =>
        obtain ⟨rfl, hrest⟩ := List.cons.inj hextra
        obtain ⟨rfl, rfl⟩ := List.cons.inj hrest
        have hbounded : IsBounded (extra ++ after) := ih (List.append_assoc ..)
        exact hbounded.insert hput

/-- Where parameters are bounded, the control sequences are the plain ones. -/
theorem afterControl?_of_isBounded {text : List Char} (h : IsBounded text) :
    afterControl? text = afterPlain? text := by
  obtain ⟨c, rest, hdrop, hc⟩ := h
  have htext : text = text.takeWhile isParameter ++ c :: rest := by
    rw [← hdrop, List.takeWhile_append_dropWhile]
  have hrange : c.toNat = 0x1b ∨ 0x41 ≤ c.toNat ∧ c.toNat ≤ 0x7a := by
    rcases hc with hletter | rfl
    · exact .inr (toNat_of_isAlpha hletter)
    · exact .inl rfl
  have hfinal : (decide (0x40 ≤ c.toNat) && decide (c.toNat ≤ 0x7e)) = c.isAlpha := by
    rcases hc with hletter | rfl
    · have hletters := toNat_of_isAlpha hletter
      rw [hletter, Bool.and_eq_true, decide_eq_true_eq, decide_eq_true_eq]
      omega
    · rfl
  have hparameters : ∀ d ∈ text.takeWhile isParameter,
      (decide (0x30 ≤ d.toNat) && decide (d.toNat ≤ 0x3f)) = true := by
    intro d hd
    have hrange := toNat_of_isParameter (List.mem_takeWhile_imp hd)
    simpa using hrange
  have hfirst : text.dropWhile (fun d => decide (0x30 ≤ d.toNat) && decide (d.toNat ≤ 0x3f)) =
      c :: rest := by
    rw [htext, List.dropWhile_append_of_pos hparameters, List.dropWhile_cons_of_neg]
    simp only [Bool.and_eq_true, decide_eq_true_eq]
    omega
  rw [afterPlain?, hdrop, afterControl?]
  dsimp only
  rw [hfirst, List.dropWhile_cons_of_neg]
  · show (if (decide (0x40 ≤ c.toNat) && decide (c.toNat ≤ 0x7e)) = true then some rest
      else none) = _
    rw [hfinal]
  · simp only [Bool.and_eq_true, decide_eq_true_eq]
    omega

/-- What is relied on of whatever counts as a control sequence: none starts elsewhere than at an
escape and an opening bracket, and where the parameters behind these are bounded, it is plain. -/
structure PlainWhereBounded (control : Passage) : Prop where
  elsewhere : ∀ {text}, (¬ ∃ tail, text = escape :: '[' :: tail) → control.after? text = none
  bounded : ∀ {tail}, IsBounded tail → control.after? (escape :: '[' :: tail) = afterPlain? tail

/-- What starts at an escape and an opening bracket starts nowhere else. -/
theorem eq_none_elsewhere (after? : List Char → Option (List Char)) {text : List Char}
    (h : ¬ ∃ tail, text = escape :: '[' :: tail) :
    (match text with
      | first :: '[' :: text => if first = escape then after? text else none
      | _ => none) = none := by
  split
  next first tail => exact if_neg fun hfirst => h ⟨tail, by rw [hfirst]⟩
  next => rfl

theorem plainWhereBounded_plainControl : PlainWhereBounded plainControl where
  elsewhere := eq_none_elsewhere afterPlain?
  bounded {tail} _ :=
    show (if escape = escape then afterPlain? tail else none) = afterPlain? tail from if_pos rfl

theorem plainWhereBounded_controlSequence : PlainWhereBounded controlSequence where
  elsewhere := eq_none_elsewhere afterControl?
  bounded {tail} h := by
    show (if escape = escape then afterControl? tail else none) = afterPlain? tail
    rw [if_pos rfl, afterControl?_of_isBounded h]

theorem PlainWhereBounded.after?_eq {control : Passage} (h : PlainWhereBounded control)
    {text : List Char} (hbounded : ∀ tail, text = escape :: '[' :: tail → IsBounded tail) :
    control.after? text = plainControl.after? text := by
  by_cases htext : ∃ tail, text = escape :: '[' :: tail
  · obtain ⟨tail, rfl⟩ := htext
    have hthere : IsBounded tail := hbounded tail rfl
    rw [h.bounded hthere, plainWhereBounded_plainControl.bounded hthere]
  · rw [h.elsewhere htext, plainWhereBounded_plainControl.elsewhere htext]

/-! ## Stripping -/

section Strip

variable {control : Passage}

theorem stripBy_of_stripOnceBy {line : List Char} (h : stripOnceBy control line = line) :
    stripBy control line = line := by
  rw [stripBy, if_pos h]

theorem stripBy_of_ne {line : List Char} (h : stripOnceBy control line ≠ line) :
    stripBy control line = stripBy control (stripOnceBy control line) := by
  rw [stripBy.eq_def control line, if_neg h]

variable (control)

/-- Nothing is left to remove. -/
theorem stripOnceBy_stripBy (line : List Char) :
    stripOnceBy control (stripBy control line) = stripBy control line := by
  fun_induction stripBy control line with
  | case1 line h => exact h
  | case2 line h ih => exact ih

/-- As many rounds as the line has characters are enough. -/
theorem exists_iterate_stripOnceBy (line : List Char) :
    ∃ rounds ≤ line.length, stripBy control line = (stripOnceBy control)^[rounds] line :=
  exists_iterate_eq (fun _ => stripBy_of_stripOnceBy) (fun _ => stripBy_of_ne)
    (fun _ => length_stripOnceBy_lt) line

variable {control} (hcontrol : PlainWhereBounded control)

include hcontrol

/-- On a styled line, the control sequences are the plain ones. -/
theorem Styled.erase_control {line text : List Char} (hline : escape ∉ line)
    (h : Styled line text) : control.erase text = plainControl.erase text := by
  refine Passage.erase_congr fun rest hrest => hcontrol.after?_eq ?_
  rintro tail rfl
  obtain ⟨front, htext⟩ := hrest
  exact h.isBounded hline htext.symm

/-- A round on a styled line leaves a styled line. -/
theorem Styled.stripOnceBy {line text : List Char} (hline : escape ∉ line)
    (h : Styled line text) : Styled line (stripOnceBy control text) := by
  have hcommands : Styled line (systemCommand.erase text) := by
    refine Styled.erase hline (fun _ _ hafter => ?_) [] h
    obtain ⟨sequence, hsequence, htext⟩ := systemCommand_after?_iff.mp hafter
    exact ⟨sequence, .inr hsequence, htext⟩
  rw [Terminal.stripOnceBy, hcommands.erase_control hcontrol hline]
  refine Styled.erase hline (fun _ _ hafter => ?_) [] hcommands
  obtain ⟨sequence, hsequence, htext⟩ := plainControl_after?_iff.mp hafter
  exact ⟨sequence, .inl hsequence, htext⟩

/-- Plain control sequences are taken, whatever else is. -/
theorem IsPlainControl.control_after? {sequence : List Char} (h : IsPlainControl sequence)
    (rest : List Char) : control.after? (sequence ++ rest) = some rest := by
  rw [hcontrol.after?_eq fun tail htail => IsComplete.isBounded (.inl h) htail]
  exact h.after? rest

/-- A line that a round leaves alone has no complete sequence. -/
theorem not_isInfix_of_stripOnceBy {line sequence : List Char}
    (h : stripOnceBy control line = line) (hsequence : IsComplete sequence) :
    ¬ sequence <:+: line := by
  rintro ⟨front, back, htext⟩
  have hlength := congrArg List.length h
  have hcommands := (systemCommand.erase_sublist line).length_le
  have hcontrols := (control.erase_sublist (systemCommand.erase line)).length_le
  rw [Terminal.stripOnceBy] at hlength h
  have hfirst : systemCommand.erase line = line :=
    (systemCommand.erase_sublist line).eq_of_length_le (by omega)
  rw [hfirst] at h
  have hsuffix : sequence ++ back <:+ line := ⟨front, by rw [← htext, List.append_assoc]⟩
  rw [Passage.erase_eq_self_iff, Passage.occursIn_eq_false_iff] at hfirst h
  rcases hsequence with hplain | hcommand
  · have hnone := h _ hsuffix
    rw [hplain.control_after? hcontrol] at hnone
    cases hnone
  · have hnone := hfirst _ hsuffix
    rw [hcommand.after?] at hnone
    cases hnone

/-- A styled line is stripped to the line. -/
theorem Styled.stripBy_eq {line text : List Char} (hline : escape ∉ line) (h : Styled line text) :
    stripBy control text = line := by
  have hstyled : Styled line (stripBy control text) := by
    fun_induction stripBy control text with
    | case1 text _ => exact h
    | case2 text _ ih => exact ih (h.stripOnceBy hcontrol hline)
  -- what is left has no complete sequence, so none was put into the line
  generalize hleft : stripBy control text = left at hstyled
  cases hstyled with
  | plain => rfl
  | @insert before after sequence _ hsequence =>
    have hdone := stripOnceBy_stripBy control text
    rw [hleft] at hdone
    exact absurd ⟨before, after, rfl⟩ (not_isInfix_of_stripOnceBy hcontrol hdone hsequence)

end Strip

/-- **Styling is transparent.** A line without an escape that complete sequences are put into, one
after another and anywhere, is stripped to itself. Stripping any line at all ends, after at most as
many rounds as it has characters, in a line without a complete sequence. This is so whatever counts
as a control sequence, if only it is plain where parameters are bounded: with `controlSequence`,
which `strip` takes, and with the plain ones alone. -/
theorem styling_is_transparent :
    strip = stripBy controlSequence ∧
    (∀ control ∈ [controlSequence, plainControl], PlainWhereBounded control) ∧
    ∀ control, PlainWhereBounded control →
      (∀ line styled, escape ∉ line → Styled line styled → stripBy control styled = line) ∧
      ∀ line,
        (∃ rounds ≤ line.length, stripBy control line = (stripOnceBy control)^[rounds] line) ∧
        ∀ sequence, IsComplete sequence → ¬ sequence <:+: stripBy control line := by
  refine ⟨rfl, ?_, ?_⟩
  · exact List.forall_mem_cons.mpr ⟨plainWhereBounded_controlSequence,
      List.forall_mem_singleton.mpr plainWhereBounded_plainControl⟩
  · refine fun control hcontrol => ⟨?_, fun line => ⟨?_, ?_⟩⟩
    · exact fun line styled hline hstyled => hstyled.stripBy_eq hcontrol hline
    · exact exists_iterate_stripOnceBy control line
    · exact fun sequence =>
        not_isInfix_of_stripOnceBy hcontrol (stripOnceBy_stripBy control line)

/-- A word in colour; the colour is interrupted by a link, and the link by another control
sequence. -/
theorem styling_is_transparent_of_nested :
    let styled := escape :: '[' :: '3' :: escape :: ']' :: '8' :: escape :: '[' :: 'K' :: bell ::
      "1mok".toList
    Styled "ok".toList styled ∧ strip styled = "ok".toList := by
  intro styled
  have hcolour : IsComplete (escape :: '[' :: ("31".toList ++ ['m'])) := by
    refine .inl ⟨"31".toList, 'm', ?_, by decide, rfl⟩
    exact List.forall_mem_cons.mpr ⟨by decide, List.forall_mem_singleton.mpr (by decide)⟩
  have hlink : IsComplete (escape :: ']' :: (['8'] ++ [bell])) :=
    .inr ⟨['8'], [bell], by decide, by decide, .inl rfl, rfl⟩
  have herase : IsComplete (escape :: '[' :: ([] ++ ['K'])) :=
    .inl ⟨[], 'K', List.forall_mem_nil _, by decide, rfl⟩
  have hone : Styled "ok".toList ([escape, '[', '3'] ++ "1mok".toList) :=
    .insert (show Styled _ ([] ++ "ok".toList) from .plain) hcolour
  have htwo : Styled "ok".toList
      ([escape, '[', '3'] ++ (escape :: ']' :: (['8'] ++ [bell])) ++ "1mok".toList) :=
    .insert hone hlink
  have hinside : Styled "ok".toList
      ([escape, '[', '3', escape, ']', '8'] ++ bell :: "1mok".toList) := htwo
  have hthree : Styled "ok".toList styled := .insert hinside herase
  obtain ⟨hstrip, hplain, hall⟩ := styling_is_transparent
  have hcontrol := (hall controlSequence (hplain _ (List.mem_cons_self ..))).1
  exact ⟨hthree, hstrip ▸ hcontrol _ _ (by decide) hthree⟩

end Reconcile.Terminal
