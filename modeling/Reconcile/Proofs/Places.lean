import Reconcile.Pattern.Reader

/-!
# Matches stay in the text

A match is looked for by running steps, each of which goes on with the rest of the match and leaves
a trail, whether it succeeds or not. This file shows that no trail leaves the text: how far an
attempt has got and every mark that it has set are places of the text, the place behind the last
character included (`Trail.Within`).

* `Step.keepsRest`: a step keeps trails within the text, if the rest of the match does.
* `Pattern.occursIn_empty`: matching against the empty text cannot go wrong.

The invariant goes through every form of a step and, inside the repetitions, through every round;
`Keeps` states it for a run from a place on, `KeepsRest` for one that is given the rest of a match.
The empty text has one place, so no group there can end in front of its start.
-/

namespace Reconcile.Pattern

/-! ## Trails within a text -/

/-- Every mark that is set is a place of a text of some size. -/
def MarksWithin (size : Nat) (marks : List (Option Nat)) : Prop :=
  ∀ place, some place ∈ marks → place ≤ size

/-- A trail that has not left a text of some size. -/
structure Trail.Within (size : Nat) (trail : Trail) : Prop where
  reached : trail.reached ≤ size
  marks : MarksWithin size trail.marks

/-- A run that keeps trails within a text of some size. -/
def Keeps (size : Nat) (run : Nat → Trail → Attempt) : Prop :=
  ∀ here trail, here ≤ size → trail.Within size → (run here trail).trail.Within size

/-- A run that keeps trails within a text if the rest of the match does. -/
def KeepsRest (size : Nat) (run : Rest → Nat → Trail → Attempt) : Prop :=
  ∀ rest, Keeps size rest.run → Keeps size (run rest)

namespace Trail

variable {size place : Nat} {trail : Trail}

theorem Within.at (h : trail.Within size) (hplace : place ≤ size) : (trail.at place).Within size :=
  ⟨hplace, h.marks⟩

theorem Within.restore (h : trail.Within size) {before : List (Option Nat)}
    (hbefore : MarksWithin size before) (repeating : Bool) :
    (trail.restore repeating before).Within size := by
  refine ⟨h.reached, ?_⟩
  intro place hmem
  unfold Trail.restore at hmem
  dsimp only at hmem
  split at hmem
  next => exact hbefore place hmem
  next => exact h.marks place (List.mem_of_mem_take hmem)

theorem Within.setMark (h : trail.Within size) (index : Nat) (hplace : place ≤ size) :
    (trail.setMark index place).Within size := by
  refine ⟨h.reached, ?_⟩
  intro other hmem
  rcases List.mem_or_eq_of_mem_set hmem with hmem | heq
  · rcases List.mem_append.mp hmem with hmem | hmem
    · exact h.marks other hmem
    · exact absurd (List.eq_of_mem_replicate hmem) (by simp)
  · obtain rfl := Option.some.inj heq
    exact hplace

end Trail

theorem keeps_complete (size : Nat) : Keeps size Rest.complete.run := by
  intro here trail hhere htrail
  exact htrail.at hhere

/-! ## Tests -/

variable {text : Chars}

theorem CharTest.lt_of_holds {test : CharTest} {here : Nat} (h : test.holds text here = true) :
    here < text.size := by
  unfold CharTest.holds at h
  rcases Nat.lt_or_ge here text.size with hlt | hge
  · exact hlt
  · rw [Array.getElem?_eq_none hge] at h
    exact absurd h (by simp)

/-- Characters that pass a test end in the text. -/
theorem CharTest.add_count_le (test : CharTest) (limit : Nat) {here : Nat} (h : here ≤ text.size) :
    here + test.count text limit here ≤ text.size := by
  induction limit generalizing here with
  | zero => exact h
  | succ limit ih =>
    rw [CharTest.count]
    split
    next hholds =>
      have hnext : here + 1 + test.count text limit (here + 1) ≤ text.size :=
        ih (CharTest.lt_of_holds hholds)
      omega
    next => exact h

/-- A text that is repeated ends in the text. -/
theorem add_length_le_of_sameText {casing : Casing} {length start here : Nat}
    (h : sameText casing text length start here = true) (hhere : here ≤ text.size) :
    here + length ≤ text.size := by
  induction length generalizing start here with
  | zero => exact hhere
  | succ length ih =>
    rw [sameText] at h
    split at h
    next hc =>
      have hlt : here < text.size := by
        rcases Nat.lt_or_ge here text.size with hlt | hge
        · exact hlt
        · rw [Array.getElem?_eq_none hge] at hc
          simp at hc
      have hnext : here + 1 + length ≤ text.size := ih (Bool.and_eq_true_iff.mp h).2 hlt
      omega
    next => simp at h

/-! ## Repetitions of one character -/

section

variable {rest : Rest} {marks : List (Option Nat)} {repeating : Bool}

/-- A place may be passed over untried. -/
theorem Keeps.tried (hrest : Keeps text.size rest.run) (hopeless : Bool) {here : Nat}
    (hhere : here ≤ text.size) {trail : Trail} (htrail : trail.Within text.size) :
    (if hopeless then .failed trail else rest.run here (trail.at here)).trail.Within text.size := by
  split
  next => exact htrail
  next => exact hrest here _ hhere (htrail.at hhere)

/-- A place that was passed over leaves nothing to take back. -/
theorem Trail.Within.undone {trail tried : Trail} (htrail : trail.Within text.size)
    (htried : tried.Within text.size) (hmarks : MarksWithin text.size marks) (hopeless : Bool) :
    (if hopeless then trail else tried.restore repeating marks).Within text.size := by
  split
  next => exact htrail
  next => exact htried.restore hmarks repeating

theorem giveBack_within (hrest : Keeps text.size rest.run) (hmarks : MarksWithin text.size marks)
    {least : Nat} (extra : Nat) {trail : Trail} (hle : least + extra ≤ text.size)
    (htrail : trail.Within text.size) :
    (giveBack text repeating marks rest least extra trail).trail.Within text.size := by
  induction extra generalizing trail with
  | zero =>
    unfold giveBack
    extract_lets here hopeless tried undone
    have htried : tried.trail.Within text.size := hrest.tried hopeless hle htrail
    split
    next => exact htried
    next => exact htrail.undone htried hmarks hopeless
  | succ extra ih =>
    unfold giveBack
    extract_lets here hopeless tried undone
    have htried : tried.trail.Within text.size := hrest.tried hopeless hle htrail
    split
    next => exact htried
    next => exact ih (by omega) (htrail.undone htried hmarks hopeless)

theorem takeMore_within (hrest : Keeps text.size rest.run) (hmarks : MarksWithin text.size marks)
    {test : CharTest} (left : Nat) {most : Option Nat} {trail : Trail}
    (htrail : trail.Within text.size) :
    (takeMore text repeating marks rest test left most trail).trail.Within text.size := by
  induction left generalizing most trail with
  | zero =>
    unfold takeMore
    extract_lets here tried undone
    have hhere : here ≤ text.size := Nat.sub_le ..
    have htried : tried.trail.Within text.size := hrest here _ hhere (htrail.at hhere)
    split
    next => exact htried
    next => exact (htried.restore hmarks repeating).at hhere
  | succ left ih =>
    unfold takeMore
    extract_lets here tried undone further
    have hhere : here ≤ text.size := Nat.sub_le ..
    have htried : tried.trail.Within text.size := hrest here _ hhere (htrail.at hhere)
    have hundone : undone.Within text.size := (htried.restore hmarks repeating).at hhere
    split
    next => exact htried
    next =>
      dsimp only
      split
      next hholds =>
        have hfurther : further.Within text.size := by
          unfold further
          split
          next => exact hundone.at (CharTest.lt_of_holds hholds)
          next => exact hundone
        split
        next => exact hfurther
        next => exact ih hfurther
      next => exact hundone

theorem keepsRest_runSingle (greed : Greed) (least : Nat) (most : Option Nat) (test : CharTest) :
    KeepsRest text.size (runSingle text repeating greed least most test) := by
  intro rest hrest here trail hhere htrail
  unfold runSingle
  extract_lets left limit count counted
  have hcount : here + count ≤ text.size := test.add_count_le limit hhere
  have hcounted : counted.Within text.size := by
    refine htrail.at ?_
    split
    next => exact hcount
    next => exact hhere
  split
  next => exact htrail
  next =>
    split
    next => exact hcounted
    next =>
      split
      next => exact giveBack_within hrest hcounted.marks _ (by omega) hcounted
      next => exact takeMore_within hrest hcounted.marks _ hcounted
      next => exact hrest _ _ hcount hcounted

end

/-! ## Repetitions of steps -/

section

variable {size : Nat} {body : Rest → Nat → Trail → Attempt}

theorem keeps_runRequired (hbody : KeepsRest size body) {after : Nat → Trail → Attempt}
    (hafter : Keeps size after) (count : Nat) : Keeps size (runRequired body after count) := by
  induction count with
  | zero => exact hafter
  | succ count ih =>
    intro here trail hhere htrail
    unfold runRequired
    extract_lets tried
    have htried : tried.trail.Within size := hbody _ ih here _ hhere (htrail.at hhere)
    split
    next => exact htried
    next => exact htried.at hhere

theorem keeps_runMost (hbody : KeepsRest size body) {rest : Rest} (hrest : Keeps size rest.run)
    (fuel : Nat) (limit last : Option Nat) : Keeps size (runMost body rest fuel limit last) := by
  induction fuel generalizing limit last with
  | zero =>
    intro here trail hhere htrail
    have hthere : (trail.at here).Within size := htrail.at hhere
    have hlast := hrest here _ hhere hthere
    unfold runMost
    dsimp only
    split
    next => exact hthere
    next =>
      split
      next => exact hlast
      next => exact hlast.at hhere
  | succ fuel ih =>
    intro here trail hhere htrail
    have hthere : (trail.at here).Within size := htrail.at hhere
    have hlast := hrest here _ hhere hthere
    have hround := hbody ⟨.other, runMost body rest fuel (limit.map (· - 1)) (some here)⟩
      (ih _ _) here _ hhere hthere
    unfold runMost
    extract_lets there tried last
    have htried : tried.trail.Within size := by
      unfold tried
      dsimp only
      split
      next => exact hthere
      next =>
        split
        next => exact hround
        next => exact hthere
    split
    next => exact htried
    next =>
      split
      next => exact hlast
      next => exact hlast.at hhere

theorem keeps_runFewest (repeating : Bool) (hbody : KeepsRest size body) {rest : Rest}
    (hrest : Keeps size rest.run) (fuel : Nat) (limit last : Option Nat) :
    Keeps size (runFewest repeating body rest fuel limit last) := by
  induction fuel generalizing limit last with
  | zero =>
    intro here trail hhere htrail
    unfold runFewest
    extract_lets tried undone
    have htried : tried.trail.Within size := hrest here _ hhere (htrail.at hhere)
    split
    next => exact htried
    next => exact (htried.restore htrail.marks repeating).at hhere
  | succ fuel ih =>
    intro here trail hhere htrail
    unfold runFewest
    extract_lets tried undone
    have htried : tried.trail.Within size := hrest here _ hhere (htrail.at hhere)
    have hundone : undone.Within size := (htried.restore htrail.marks repeating).at hhere
    split
    next => exact htried
    next =>
      dsimp only
      split
      next => exact hundone
      next =>
        have hround := hbody ⟨.other, runFewest repeating body rest fuel _ _⟩
          (ih (limit.map (· - 1)) (some here)) here _ hhere hundone
        split
        next => exact hround
        next => exact hround.at hhere

theorem keepRequired_within (hbody : KeepsRest size body) (count : Nat) {trail : Trail}
    (htrail : trail.Within size) : (keepRequired body count trail).trail.Within size := by
  induction count generalizing trail with
  | zero => exact htrail
  | succ count ih =>
    unfold keepRequired
    extract_lets tried
    have htried : tried.trail.Within size :=
      hbody _ (keeps_complete size) _ _ htrail.reached htrail
    split
    next => exact ih htried
    next => exact htried

theorem keepMost_within (engine : Engine) (hbody : KeepsRest size body) (fuel : Nat)
    {limit : Option Nat} {trail : Trail} (htrail : trail.Within size) :
    (keepMost engine body fuel limit trail).Within size := by
  induction fuel generalizing limit trail with
  | zero => exact htrail
  | succ fuel ih =>
    unfold keepMost
    split
    next => exact htrail
    next =>
      extract_lets tried
      have htried : tried.trail.Within size :=
        hbody _ (keeps_complete size) _ _ htrail.reached htrail
      split
      next =>
        cases engine with
        | exact => exact htrail
        | straying => exact htrail.at htried.reached
      next =>
        split
        next => exact htried
        next => exact ih htried

theorem keepsRest_runRounds (engine : Engine) (repeating : Bool) (greed : Greed) (least : Nat)
    (limit : Option Nat) (hbody : KeepsRest text.size body) :
    KeepsRest text.size (runRounds engine text repeating greed least limit body) := by
  intro rest hrest here trail hhere htrail
  unfold runRounds
  extract_lets fuel limit kept most
  split
  next =>
    exact keeps_runRequired hbody (keeps_runMost hbody hrest _ _ _) _ _ _ hhere (htrail.at hhere)
  next =>
    exact keeps_runRequired hbody (keeps_runFewest repeating hbody hrest _ _ _) _ _ _ hhere
      (htrail.at hhere)
  next =>
    have hkept : kept.trail.Within text.size := keepRequired_within hbody _ (htrail.at hhere)
    have hmost : most.Within text.size := keepMost_within engine hbody _ hkept
    split
    next => exact hrest _ _ hmost.reached hmost
    next => exact hkept.at hhere

end

/-! ## Steps -/

/-- **Matches stay in the text.** A step keeps trails within the text, if the rest of the match
does. -/
theorem Step.keepsRest (engine : Engine) (step : Step) (repeating : Bool) :
    KeepsRest text.size (step.run engine text repeating) := by
  induction step generalizing repeating with
  | done => exact fun rest hrest => hrest
  | never => exact fun rest hrest here trail hhere htrail => htrail
  | char test =>
    intro rest hrest here trail hhere htrail
    rw [Step.run]
    split
    next hholds => exact hrest _ _ (CharTest.lt_of_holds hholds) htrail
    next => exact htrail
  | place test =>
    intro rest hrest here trail hhere htrail
    rw [Step.run]
    split
    next => exact hrest _ _ hhere htrail
    next => exact htrail
  | mark index =>
    intro rest hrest here trail hhere htrail
    exact hrest _ _ hhere (htrail.setMark index hhere)
  | both a b iha ihb =>
    intro rest hrest
    exact iha repeating _ (ihb repeating rest hrest)
  | either a b iha ihb =>
    intro rest hrest here trail hhere htrail
    rw [Step.run]
    dsimp only
    have htried := iha repeating ⟨.other, rest.run⟩ hrest _ _ hhere (htrail.at hhere)
    split
    next => exact ihb repeating rest hrest _ _ hhere htrail
    next =>
      split
      next => exact htried
      next =>
        exact ihb repeating rest hrest _ _ hhere (htried.restore htrail.marks repeating)
  | single greed least most test => exact keepsRest_runSingle greed least most test
  | rounds greed least most body ih =>
    exact keepsRest_runRounds engine repeating greed least most (ih _)
  | sameAs casing number =>
    intro rest hrest here trail hhere htrail
    rw [Step.run]
    split
    next start stop hgroup =>
      split
      next hsame => exact hrest _ _ (add_length_le_of_sameText hsame hhere) htrail
      next => exact htrail
    next => exact htrail
  | ahead negated body ih =>
    intro rest hrest here trail hhere htrail
    rw [Step.run]
    have htried := ih repeating .complete (keeps_complete _) _ _ hhere (htrail.at hhere)
    split
    next => exact htried
    next =>
      split
      next => exact hrest _ _ hhere (htried.restore htrail.marks repeating)
      next => exact hrest _ _ hhere htried
  | behind negated width body ih =>
    intro rest hrest here trail hhere htrail
    have hback : here - width ≤ text.size := Nat.le_trans (Nat.sub_le ..) hhere
    rw [Step.run]
    dsimp only
    have htried := ih repeating .complete (keeps_complete _) _ _ hback (htrail.at hback)
    split
    next =>
      split
      next => exact hrest _ _ hhere htrail
      next => exact htrail
    next =>
      split
      next => exact htried
      next =>
        split
        next => exact hrest _ _ hhere (htried.restore htrail.marks repeating)
        next => exact hrest _ _ hhere htried
  | settled body ih =>
    intro rest hrest here trail hhere htrail
    rw [Step.run]
    have htried := ih repeating .complete (keeps_complete _) _ _ hhere (htrail.at hhere)
    split
    next => exact hrest _ _ htried.reached htried
    next => exact htried.at hhere
  | given number ifSet ifUnset ihSet ihUnset =>
    intro rest hrest here trail hhere htrail
    by_cases hset : (trail.group? number).isSome = true
    · have hrun : ∃ opening, (given number ifSet ifUnset).run engine text repeating rest here trail =
          ifSet.run engine text repeating ⟨opening, rest.run⟩ here trail := ⟨_, if_pos hset⟩
      obtain ⟨opening, hrun⟩ := hrun
      rw [hrun]
      exact ihSet repeating ⟨opening, rest.run⟩ hrest _ _ hhere htrail
    · have hrun : (given number ifSet ifUnset).run engine text repeating rest here trail =
          ifUnset.run engine text repeating rest here trail := if_neg hset
      rw [hrun]
      exact ihUnset repeating rest hrest _ _ hhere htrail

/-! ## The empty text -/

/-- Where there is one place only, no mark stands behind another. -/
theorem anyCrossed_of_within {marks : List (Option Nat)} (h : MarksWithin 0 marks) :
    anyCrossed marks = false := by
  fun_induction anyCrossed marks with
  | case1 start stop marks ih =>
    have hstart : start ≤ 0 := h start (List.mem_cons_self ..)
    have hrest : anyCrossed marks = false :=
      ih fun place hmem => h place (List.mem_cons_of_mem _ (List.mem_cons_of_mem _ hmem))
    rw [hrest, Bool.or_false]
    exact decide_eq_false (by omega)
  | case2 first second marks _ ih =>
    exact ih fun place hmem => h place (List.mem_cons_of_mem _ (List.mem_cons_of_mem _ hmem))
  | case3 => rfl

/-- No group is crossed where a match in the empty text starts. -/
theorem Program.find_empty (program : Program) {count : Nat} (h : count ≤ 1) :
    ∃ found, program.find #[] count 0 = .ok found := by
  cases count with
  | zero => exact ⟨false, rfl⟩
  | succ count =>
    obtain rfl : count = 0 := by omega
    have hstep : KeepsRest (#[] : Chars).size (program.step.run program.engine #[] false) :=
      program.step.keepsRest program.engine false
    have hwithin := hstep .complete (keeps_complete 0) 0 ⟨0, []⟩ (Nat.le_refl 0)
      ⟨Nat.le_refl 0, fun place hmem => absurd hmem (by simp)⟩
    unfold Program.find
    dsimp only
    rw [anyCrossed_of_within hwithin.marks]
    split
    next => exact ⟨false, rfl⟩
    next => exact ⟨true, rfl⟩

theorem Program.places_empty_le (program : Program) : program.places #[] ≤ 1 := by
  have hsize : (#[] : Chars).size = 0 := rfl
  unfold Program.places
  split
  next => exact Nat.zero_le 1
  next hleast =>
    have hzero : program.least = 0 := by omega
    exact Nat.le_of_eq (if_pos hzero)

/-- Matching against the empty text cannot go wrong. -/
theorem occursIn_empty (pattern : Pattern) : ∃ found, pattern.occursIn "" = .ok found :=
  pattern.program.find_empty pattern.program.places_empty_le

end Reconcile.Pattern
