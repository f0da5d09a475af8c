import Reconcile.Pattern.Matching

/-!
# Keeping rounds is settling

A repetition that does not go back on its rounds is meant to be the greedy one, settled: `x*+` is
`(?>x*)`. This file shows that an exact engine takes it so.

* `Step.run_rounds_mostOnly`: on an exact engine, a repetition that keeps its rounds, none of which
  has to be made, runs as the greedy one does when it is settled.

Inside of what is settled, what follows a round are more rounds, and those cannot fail: at worst
there are none. What cannot fail gives no reason to go back, so it may as well be run once a step
has succeeded by itself (`Step.detaches`). Each round of the greedy repetition is then run by itself,
as those that are kept are.
-/

namespace Reconcile.Pattern

/-! ## More that cannot fail -/

/-- An attempt, and from where a successful one has got to, a further run. -/
def Attempt.andThen (tried : Attempt) (more : Nat → Trail → Attempt) : Attempt :=
  if tried.matched then more tried.trail.reached tried.trail else tried

/-- A run, and then a further one. -/
def followed (run more : Nat → Trail → Attempt) (here : Nat) (trail : Trail) : Attempt :=
  (run here trail).andThen more

/-- The rest of a match, and then a further run. -/
def Rest.andThen (rest : Rest) (more : Nat → Trail → Attempt) : Rest :=
  ⟨rest.opening, followed rest.run more⟩

/-- A run that succeeds wherever it starts. -/
def Succeeds (more : Nat → Trail → Attempt) : Prop :=
  ∀ here trail, (more here trail).matched = true

/-- A run for which it makes no difference whether more belongs to the rest of the match or follows
the match. -/
def Detaches (more : Nat → Trail → Attempt) (run : Rest → Nat → Trail → Attempt) : Prop :=
  ∀ rest : Rest, run (rest.andThen more) = followed (run rest) more

section

variable {more : Nat → Trail → Attempt} (hmore : Succeeds more)

theorem Rest.run_andThen (rest : Rest) (more : Nat → Trail → Attempt) (here : Nat)
    (trail : Trail) : (rest.andThen more).run here trail = (rest.run here trail).andThen more :=
  rfl

theorem Attempt.andThen_of_matched {tried : Attempt} (h : tried.matched = true)
    (more : Nat → Trail → Attempt) :
    tried.andThen more = more tried.trail.reached tried.trail :=
  if_pos h

theorem Attempt.andThen_of_failed {tried : Attempt} (h : tried.matched = false)
    (more : Nat → Trail → Attempt) : tried.andThen more = tried :=
  if_neg (by rw [h]; decide)

theorem Attempt.andThen_failed (more : Nat → Trail → Attempt) (trail : Trail) :
    (Attempt.failed trail).andThen more = .failed trail :=
  rfl

include hmore

/-- Where more cannot fail, the second way is tried in the same cases. -/
theorem Attempt.orElse_andThen (tried : Attempt) {second other : Attempt}
    (h : tried.andThen more = tried → second = other.andThen more) :
    (if (tried.andThen more).matched then tried.andThen more else second) =
      (if tried.matched then tried else other).andThen more := by
  cases htried : tried.matched with
  | true =>
    have hthen := Attempt.andThen_of_matched htried more
    rw [hthen, if_pos (hmore _ _), if_pos rfl, hthen]
  | false =>
    have hthen := Attempt.andThen_of_failed htried more
    rw [h hthen, hthen, if_neg (by rw [htried]; decide), if_neg (by decide)]

/-- Where more cannot fail, the second way starts with the trail of the same failure. -/
theorem orElse_followed (run : Nat → Trail → Attempt) (here : Nat) (trail : Trail)
    (other : Trail → Attempt) :
    (if (followed run more here trail).matched then followed run more here trail
      else (other (followed run more here trail).trail).andThen more) =
    (if (run here trail).matched then run here trail
      else other (run here trail).trail).andThen more := by
  refine (run here trail).orElse_andThen hmore fun hfailed => ?_
  rw [followed, hfailed]

/-! ## Repetitions of one character -/

section

variable {text : Chars} {repeating : Bool} {marks : List (Option Nat)} {rest : Rest}

theorem giveBack_andThen (least extra : Nat) (trail : Trail) :
    giveBack text repeating marks (rest.andThen more) least extra trail =
      (giveBack text repeating marks rest least extra trail).andThen more := by
  induction extra generalizing trail with
  | zero =>
    unfold giveBack
    dsimp only [Rest.andThen]
    generalize rest.opening.literal?.any _ = hopeless
    cases hopeless with
    | true => rfl
    | false =>
      exact orElse_followed hmore rest.run _ _ fun tried =>
        .failed (tried.restore repeating marks)
  | succ extra ih =>
    unfold giveBack
    dsimp only [Rest.andThen] at ih ⊢
    generalize rest.opening.literal?.any _ = hopeless
    cases hopeless with
    | true => exact ih trail
    | false =>
      simp only [ih]
      exact orElse_followed hmore rest.run _ _ fun tried =>
        giveBack text repeating marks rest least extra (tried.restore repeating marks)

theorem takeMore_andThen (test : CharTest) (left : Nat) (most : Option Nat) (trail : Trail) :
    takeMore text repeating marks (rest.andThen more) test left most trail =
      (takeMore text repeating marks rest test left most trail).andThen more := by
  induction left generalizing most trail with
  | zero =>
    unfold takeMore
    exact orElse_followed hmore rest.run _ _ fun tried =>
      .failed ((tried.restore repeating marks).at _)
  | succ left ih =>
    unfold takeMore
    refine (rest.run _ _).orElse_andThen hmore fun hfailed => ?_
    rw [Rest.run_andThen, hfailed]
    dsimp only
    split
    next =>
      split
      next => rfl
      next => exact ih _ _
    next => rfl

theorem detaches_runSingle (greed : Greed) (least : Nat) (most : Option Nat) (test : CharTest) :
    Detaches more (runSingle text repeating greed least most test) := by
  intro rest
  funext here trail
  unfold followed runSingle
  extract_lets left limit count counted
  split
  next => rfl
  next =>
    split
    next => rfl
    next =>
      split
      next => exact giveBack_andThen hmore _ _ _
      next => exact takeMore_andThen hmore _ _ _ _
      next => rfl

end

/-! ## Repetitions of steps -/

section

variable {body : Rest → Nat → Trail → Attempt} (hbody : Detaches more body)

include hbody

theorem runRequired_followed (after : Nat → Trail → Attempt) (count : Nat) :
    runRequired body (followed after more) count =
      followed (runRequired body after count) more := by
  induction count with
  | zero => rfl
  | succ count ih =>
    have hround := hbody ⟨.other, runRequired body after count⟩
    dsimp only [Rest.andThen] at hround
    funext here trail
    rw [followed, runRequired, runRequired, ih, hround]
    exact orElse_followed hmore (body _) here _ fun tried => .failed (tried.at here)

theorem runMost_andThen (rest : Rest) (fuel : Nat) (limit last : Option Nat) :
    runMost body (rest.andThen more) fuel limit last =
      followed (runMost body rest fuel limit last) more := by
  induction fuel generalizing limit last with
  | zero =>
    funext here trail
    exact orElse_followed hmore rest.run here _ fun tried => .failed (tried.at here)
  | succ fuel ih =>
    funext here trail
    have hround := hbody ⟨.other, runMost body rest fuel (limit.map (· - 1)) (some here)⟩
    have hlast := orElse_followed hmore rest.run here (trail.at here) fun tried =>
      .failed (tried.at here)
    dsimp only [Rest.andThen] at hround
    rw [followed, runMost, runMost, ih]
    dsimp only
    rw [hround]
    by_cases hdone : (limit = some 0 || last = some here) = true
    · simp only [if_pos hdone]
      exact hlast
    · have hrounds := orElse_followed hmore
        (body ⟨.other, runMost body rest fuel (limit.map (· - 1)) (some here)⟩) here (trail.at here)
        fun _ => .failed (trail.at here)
      rw [Attempt.andThen_failed] at hrounds
      simp only [if_neg hdone, hrounds]
      exact Attempt.orElse_andThen hmore _ fun _ => hlast

theorem runFewest_andThen (repeating : Bool) (rest : Rest) (fuel : Nat) (limit last : Option Nat) :
    runFewest repeating body (rest.andThen more) fuel limit last =
      followed (runFewest repeating body rest fuel limit last) more := by
  induction fuel generalizing limit last with
  | zero =>
    funext here trail
    exact orElse_followed hmore rest.run here _ fun tried =>
      .failed ((tried.restore repeating trail.marks).at here)
  | succ fuel ih =>
    funext here trail
    have hround := hbody
      ⟨.other, runFewest repeating body rest fuel (limit.map (· - 1)) (some here)⟩
    dsimp only [Rest.andThen] at hround
    rw [followed, runFewest, runFewest]
    refine (rest.run here _).orElse_andThen hmore fun hfailed => ?_
    rw [Rest.run_andThen, hfailed]
    dsimp only
    split
    next => rfl
    next =>
      rw [ih, hround]
      exact orElse_followed hmore (body _) here _ fun tried => .failed (tried.at here)

theorem detaches_runRounds (engine : Engine) (text : Chars) (repeating : Bool) (greed : Greed)
    (least : Nat) (limit : Option Nat) :
    Detaches more (runRounds engine text repeating greed least limit body) := by
  intro rest
  funext here trail
  unfold followed runRounds
  extract_lets fuel limit kept most
  split
  next => rw [runMost_andThen hmore hbody, runRequired_followed hmore hbody, followed]
  next => rw [runFewest_andThen hmore hbody, runRequired_followed hmore hbody, followed]
  next =>
    split
    next => rfl
    next => rfl

end

/-! ## Steps -/

/-- **What cannot fail can wait.** It makes no difference whether more belongs to the rest of the
match or follows the match, if it cannot fail. -/
theorem Step.detaches (engine : Engine) (text : Chars) (step : Step) (repeating : Bool) :
    Detaches more (step.run engine text repeating) := by
  induction step generalizing repeating with
  | done => exact fun rest => rfl
  | never => exact fun rest => rfl
  | mark index => exact fun rest => rfl
  | char test =>
    intro rest
    funext here trail
    rw [followed, Step.run, Step.run]
    split
    next => rfl
    next => rfl
  | place test =>
    intro rest
    funext here trail
    rw [followed, Step.run, Step.run]
    split
    next => rfl
    next => rfl
  | both a b iha ihb =>
    intro rest
    funext here trail
    -- more behind both steps is more in the rest of the second, which is the rest of the first
    have hfirst := iha repeating ⟨b.opening.or rest.opening, b.run engine text repeating rest⟩
    rw [Rest.andThen, ← ihb repeating rest] at hfirst
    exact congrFun (congrFun hfirst here) trail
  | either a b iha ihb =>
    intro rest
    funext here trail
    have hfirst := iha repeating ⟨.other, rest.run⟩
    rw [followed, Step.run, Step.run]
    split
    next => rw [ihb, followed]
    next =>
      rw [ihb]
      dsimp only [Rest.andThen] at hfirst ⊢
      rw [hfirst]
      exact orElse_followed hmore (a.run engine text repeating ⟨.other, rest.run⟩) here _
        fun tried => b.run engine text repeating rest here (tried.restore repeating trail.marks)
  | single greed least most test => exact detaches_runSingle hmore greed least most test
  | rounds greed least most body ih => exact detaches_runRounds hmore (ih _) engine text _ _ _ _
  | sameAs casing number =>
    intro rest
    funext here trail
    rw [followed, Step.run, Step.run]
    split
    next =>
      split
      next => rfl
      next => rfl
    next => rfl
  | ahead negated body ih =>
    intro rest
    funext here trail
    rw [followed, Step.run, Step.run]
    split
    next => rfl
    next =>
      split
      next => rfl
      next => rfl
  | behind negated width body ih =>
    intro rest
    funext here trail
    rw [followed, Step.run, Step.run]
    split
    next =>
      split
      next => rfl
      next => rfl
    next =>
      dsimp only
      split
      next => rfl
      next =>
        split
        next => rfl
        next => rfl
  | settled body ih =>
    intro rest
    funext here trail
    rw [followed, Step.run, Step.run]
    split
    next => rfl
    next => rfl
  | given number ifSet ifUnset ihSet ihUnset =>
    intro rest
    funext here trail
    by_cases hset : (trail.group? number).isSome = true
    · -- what the branch is told of the rest is the same, with more behind it and without
      have hrun : ∃ opening,
          (given number ifSet ifUnset).run engine text repeating (rest.andThen more) here trail =
            ifSet.run engine text repeating ⟨opening, followed rest.run more⟩ here trail ∧
          (given number ifSet ifUnset).run engine text repeating rest here trail =
            ifSet.run engine text repeating ⟨opening, rest.run⟩ here trail :=
        ⟨_, if_pos hset, if_pos hset⟩
      obtain ⟨opening, hmuch, hlittle⟩ := hrun
      rw [followed, hmuch, hlittle]
      exact congrFun (congrFun (ihSet repeating ⟨opening, rest.run⟩) here) trail
    · have hrun : ∀ rest,
          (given number ifSet ifUnset).run engine text repeating rest here trail =
            ifUnset.run engine text repeating rest here trail := fun _ => if_neg hset
      rw [followed, hrun, hrun]
      exact congrFun (congrFun (ihUnset repeating rest) here) trail

end

/-! ## Kept rounds -/

section

variable {body : Rest → Nat → Trail → Attempt}

/-- One round and those after it, where nothing follows the rounds. -/
theorem runMost_complete_succ (fuel : Nat) (limit last : Option Nat) (here : Nat) (trail : Trail) :
    runMost body .complete (fuel + 1) limit last here trail =
      if limit = some 0 || last = some here then ⟨true, trail.at here⟩
      else
        let tried := body ⟨.other, runMost body .complete fuel (limit.map (· - 1)) (some here)⟩ here
          (trail.at here)
        if tried.matched then tried else ⟨true, trail.at here⟩ := by
  rw [runMost]
  dsimp only
  by_cases hdone : (limit = some 0 || last = some here) = true
  · simp only [if_pos hdone]
    rfl
  · simp only [if_neg hdone]
    split
    next => rfl
    next => rfl

/-- Rounds that nothing follows do not fail, because there may be none. -/
theorem succeeds_runMost (fuel : Nat) (limit last : Option Nat) :
    Succeeds (runMost body .complete fuel limit last) := by
  intro here trail
  cases fuel with
  | zero => rfl
  | succ fuel =>
    rw [runMost_complete_succ]
    split
    next => rfl
    next =>
      dsimp only
      split
      next hround => exact hround
      next => rfl

/-- Where a round has just taken nothing, there are no more. -/
theorem runMost_again (fuel : Nat) (limit : Option Nat) (here : Nat) (trail : Trail) :
    runMost body .complete fuel limit (some here) here trail = ⟨true, trail.at here⟩ := by
  cases fuel with
  | zero => rfl
  | succ fuel => rw [runMost_complete_succ, if_pos (by simp)]

theorem complete_andThen_runMost (fuel : Nat) (limit last : Option Nat) :
    Rest.complete.andThen (runMost body .complete fuel limit last) =
      ⟨.other, runMost body .complete fuel limit last⟩ := by
  rw [Rest.andThen]
  congr
  funext here trail
  cases fuel with
  | zero => rfl
  | succ fuel => rfl

/-- Rounds that nothing follows are each run by itself. -/
theorem runMost_complete (hbody : ∀ more, Succeeds more → Detaches more body) (fuel : Nat)
    (limit last : Option Nat) {here : Nat} (hlast : last ≠ some here) (trail : Trail) :
    runMost body .complete fuel limit last here trail =
      ⟨true, keepMost .exact body fuel limit (trail.at here)⟩ := by
  induction fuel generalizing limit last here trail with
  | zero => rfl
  | succ fuel ih =>
    rw [runMost_complete_succ, keepMost]
    by_cases hlimit : limit = some 0
    · rw [if_pos (by simp [hlimit]), if_pos hlimit]
    · rw [if_neg (by simp [hlimit, hlast]), if_neg hlimit]
      have hmore : Succeeds (runMost body .complete fuel (limit.map (· - 1)) (some here)) :=
        succeeds_runMost _ _ _
      have hround := hbody _ hmore .complete
      rw [complete_andThen_runMost] at hround
      rw [hround, followed]
      dsimp only
      have hreached : (trail.at here).reached = here := rfl
      rw [hreached]
      cases htried : (body .complete here (trail.at here)).matched with
      | false =>
        have hthen := Attempt.andThen_of_failed htried
          (runMost body .complete fuel (limit.map (· - 1)) (some here))
        rw [hthen, htried]
        rfl
      | true =>
        have hthen := Attempt.andThen_of_matched htried
          (runMost body .complete fuel (limit.map (· - 1)) (some here))
        rw [hthen, if_pos (hmore _ _)]
        -- a round that took nothing is the last, to either
        generalize (body .complete here (trail.at here)).trail = next
        by_cases hstays : next.reached = here
        · rw [if_pos hstays, hstays, runMost_again, ← hstays]
          rfl
        · rw [if_neg hstays, ih _ _ (fun h => hstays (Option.some.inj h).symm)]
          rfl

/-- **Keeping rounds is settling.** On an exact engine, a repetition that keeps its rounds, none of
which has to be made, runs as the greedy one does when it is settled. -/
theorem Step.run_rounds_mostOnly (text : Chars) (repeating : Bool) (limit : Option Nat)
    (body : Step) :
    (rounds .mostOnly 0 limit body).run .exact text repeating =
      (settled (rounds .most 0 limit body)).run .exact text repeating := by
  funext rest here trail
  have hbody : ∀ more, Succeeds more → Detaches more (body.run .exact text true) :=
    fun more hmore => body.detaches hmore .exact text true
  have hgreedy : (rounds .most 0 limit body).run .exact text repeating .complete here
      (trail.at here) =
      ⟨true, keepMost .exact (body.run .exact text true) (text.size + 2) (limit.map (· - 0))
        (trail.at here)⟩ :=
    runMost_complete hbody _ _ _ (by simp) _
  rw [Step.run.eq_def .exact text repeating (settled _)]
  dsimp only
  rw [hgreedy]
  rfl

/-- Not so on a straying engine. In `bc`, looking back for an `a` fails at the `b`, which is where
the straying engine goes on; so it finds `b(?<=a)?+b`. -/
example :
    let lookedBack := Step.behind false 1 (.char (.letterIn .exact false 97))
    let step := Step.both (.char (.letterIn .exact false 98))
      (.both (.rounds .mostOnly 0 (some 1) lookedBack) (.char (.letterIn .exact false 98)))
    (Program.mk step 2 .exact).occursIn "bc" = .ok false ∧
      (Program.mk step 2 .straying).occursIn "bc" = .ok true :=
  ⟨rfl, rfl⟩

end

end Reconcile.Pattern
