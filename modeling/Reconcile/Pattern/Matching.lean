import Reconcile.Pattern.Program

/-!
# Matching

A program is run at a place in a text together with the *rest* of the match, which tells whether all
that follows succeeds from where a step ends. A step tries its ways in order of preference and stops
at the first that the rest agrees with.

Every attempt leaves a *trail*, whether it succeeds or not: how far it has got, and where the marks
of groups stand. What is tried next starts with the trail of what failed. Marks that were set in
vain are taken back, but only inside repetitions are marks put back that had been moved. How far a
failed attempt has got is of no account, except where an engine strays: there a repetition that does
not go back on its rounds goes on from where its last, failed round has left off.

A step is run by recursion on itself. The rounds of a repetition are counted down, those that must
be made by their number, those that may be made by a bound on how many can take a character.
-/

namespace Reconcile.Pattern

open Text

/-- What an attempt leaves behind: how far it has got, and the places of the marks. A mark that is
not in the list, or stands in it without a place, is not set. -/
structure Trail where
  reached : Nat
  marks : List (Option Nat)

/-- The trail at a place. -/
def Trail.at (place : Nat) (trail : Trail) : Trail :=
  { trail with reached := place }

/-- The trail with the marks as they were before an attempt that failed. Outside repetitions it is
only their number that is put back. -/
def Trail.restore (repeating : Bool) (before : List (Option Nat)) (trail : Trail) : Trail :=
  { trail with marks := if repeating then before else trail.marks.take before.length }

/-- The trail with a mark set. Marks before it that are not in the list are unset. -/
def Trail.setMark (index place : Nat) (trail : Trail) : Trail :=
  let missing := index + 1 - trail.marks.length
  { trail with
    marks := (trail.marks ++ List.replicate missing none).set index (some place) }

/-- The start and end of what a group has taken, if it has taken anything. -/
def Trail.group? (number : Nat) (trail : Trail) : Option (Nat × Nat) := do
  let start ← (← trail.marks[startMark number]?)
  let stop ← (← trail.marks[endMark number]?)
  if stop < start then none else return (start, stop)

/-- What came of an attempt. -/
structure Attempt where
  matched : Bool
  trail : Trail

/-- A failed attempt. -/
def Attempt.failed (trail : Trail) : Attempt :=
  ⟨false, trail⟩

/-- The rest of a match: what it starts with, and how it is run at a place. -/
structure Rest where
  opening : Opening
  run : Nat → Trail → Attempt

/-- The rest of a match that is complete. -/
def Rest.complete : Rest :=
  ⟨.other, fun here trail => ⟨true, trail.at here⟩⟩

/-- A text that is searched. -/
abbrev Chars := Array Char

/-! ## Tests -/

/-- Whether a place passes a test. An empty text has no place that is or is no word edge. -/
def PlaceTest.holds (text : Chars) (here : Nat) : PlaceTest → Bool
  | textStart => here = 0
  | textEnd => here = text.size
  | lastLineEnd => here = text.size || (here + 1 = text.size && text[here]? = some '\n')
  | lineStart => here = 0 || text[here - 1]? = some '\n'
  | lineEnd => here = text.size || text[here]? = some '\n'
  | wordEdge ascii negated =>
    let isWord (c : Option Char) : Bool := c.any (CharClass.word.contains ascii)
    let before := 0 < here && isWord text[here - 1]?
    text.size != 0 && (before != isWord text[here]?) != negated

/-- Whether the character at a place passes a test. -/
def CharTest.holds (test : CharTest) (text : Chars) (here : Nat) : Bool :=
  text[here]?.any test.accepts

/-- How many characters in a row pass a test, at most `limit`. -/
def CharTest.count (test : CharTest) (text : Chars) : (limit : Nat) → (here : Nat) → Nat
  | 0, _ => 0
  | limit + 1, here => if test.holds text here then test.count text limit (here + 1) + 1 else 0

/-- Whether an opening rules out a match at a place. Only plain tests are looked at. -/
def Opening.rulesOut (text : Chars) (here : Nat) : Opening → Bool
  | .test t => t.isPlain && !t.holds text here
  | _ => false

/-- Whether a text has, at two places, the same characters up to `stop` for the first of them. -/
def sameText (casing : Casing) (text : Chars) : (length start here : Nat) → Bool
  | 0, _, _ => true
  | length + 1, start, here =>
    match text[start]?, text[here]? with
    | some c, some d =>
      casing.fold c.toNat = casing.fold d.toNat
        && sameText casing text length (start + 1) (here + 1)
    | _, _ => false

/-! ## Repetitions of one character -/

/-- Runs the rest after `least + extra` characters, then after fewer and fewer; `least` is a place
here. Places at which the rest cannot start are passed over. -/
def giveBack (text : Chars) (repeating : Bool) (marks : List (Option Nat)) (rest : Rest)
    (least : Nat) : (extra : Nat) → Trail → Attempt
  | extra, trail =>
    let here := least + extra
    -- a place without the one character that the rest demands is passed over untried
    let hopeless := rest.opening.literal?.any fun code => text[here]?.all (·.toNat != code)
    let tried := if hopeless then .failed trail else rest.run here (trail.at here)
    if tried.matched then tried
    else
      let trail := if hopeless then trail else tried.trail.restore repeating marks
      match extra with
      | 0 => .failed trail
      | extra + 1 => giveBack text repeating marks rest least extra trail

/-- Runs the rest with `left` characters of the text left, then with fewer and fewer, as long as
they pass a test and `most` allows it. -/
def takeMore (text : Chars) (repeating : Bool) (marks : List (Option Nat)) (rest : Rest)
    (test : CharTest) : (left : Nat) → (most : Option Nat) → Trail → Attempt
  | left, most, trail =>
    let here := text.size - left
    let tried := rest.run here (trail.at here)
    if tried.matched then tried
    else
      let trail := (tried.trail.restore repeating marks).at here
      match left with
      | 0 => .failed trail
      | left + 1 =>
        if test.holds text here then
          -- only the search in a folded set leaves its own place behind when it stops
          let trail := if test.isFoldedSet then trail.at (here + 1) else trail
          if most = some 0 then .failed trail
          else takeMore text repeating marks rest test left (most.map (· - 1)) trail
        else .failed trail

/-- Runs a repetition of a test. -/
def runSingle (text : Chars) (repeating : Bool) (greed : Greed) (least : Nat) (most : Option Nat)
    (test : CharTest) (rest : Rest) (here : Nat) (trail : Trail) : Attempt :=
  let left := text.size - here
  if left < least then .failed trail
  else
    let limit := match greed with
      | .fewest => least
      | _ => (most.map (min left)).getD left
    let count := test.count text limit here
    let trail := trail.at (if test.isFoldedSet then here + count else here)
    if count < least then .failed trail
    else
      match greed with
      | .most => giveBack text repeating trail.marks rest (here + least) (count - least) trail
      | .fewest =>
        takeMore text repeating trail.marks rest test (left - least) (most.map (· - least)) trail
      | .mostOnly => rest.run (here + count) trail

/-! ## Repetitions of steps -/

/-- Runs a body `count` times, then what comes after. -/
def runRequired (body : Rest → Nat → Trail → Attempt) (after : Nat → Trail → Attempt) :
    (count : Nat) → Nat → Trail → Attempt
  | 0, here, trail => after here trail
  | count + 1, here, trail =>
    let tried := body ⟨.other, runRequired body after count⟩ here (trail.at here)
    if tried.matched then tried else .failed (tried.trail.at here)

/-- Runs a body as often as possible, at most `limit` times, then the rest. A round that has taken
nothing, and so ended at the place `last` where it started, is not followed by another. -/
def runMost (body : Rest → Nat → Trail → Attempt) (rest : Rest) :
    (fuel : Nat) → (limit last : Option Nat) → Nat → Trail → Attempt
  | fuel, limit, last, here, trail =>
    let trail := trail.at here
    let tried := match fuel with
      | 0 => .failed trail
      | fuel + 1 =>
        if limit = some 0 || last = some here then .failed trail
        else
          let tried := body
            ⟨.other, runMost body rest fuel (limit.map (· - 1)) (some here)⟩ here trail
          -- the rounds failed: the rest is tried with the trail of before
          if tried.matched then tried else .failed trail
    if tried.matched then tried
    else
      let tried := rest.run here trail
      if tried.matched then tried else .failed (tried.trail.at here)

/-- Runs the rest, and before it a body as often as is needed for the rest to succeed. -/
def runFewest (repeating : Bool) (body : Rest → Nat → Trail → Attempt) (rest : Rest) :
    (fuel : Nat) → (limit last : Option Nat) → Nat → Trail → Attempt
  | fuel, limit, last, here, trail =>
    let tried := rest.run here (trail.at here)
    if tried.matched then tried
    else
      let trail := (tried.trail.restore repeating trail.marks).at here
      match fuel with
      | 0 => .failed trail
      | fuel + 1 =>
        if limit = some 0 || last = some here then .failed trail
        else
          let tried := body
            ⟨.other, runFewest repeating body rest fuel (limit.map (· - 1)) (some here)⟩ here trail
          if tried.matched then tried else .failed (tried.trail.at here)

/-- Runs a body `count` times, each round for itself. -/
def keepRequired (body : Rest → Nat → Trail → Attempt) : (count : Nat) → Trail → Attempt
  | 0, trail => ⟨true, trail⟩
  | count + 1, trail =>
    let tried := body .complete trail.reached trail
    if tried.matched then keepRequired body count tried.trail else tried

/-- Runs a body as often as possible, each round for itself. A round that fails leaves the trail as
it was, but for how far a straying engine has got in it. -/
def keepMost (engine : Engine) (body : Rest → Nat → Trail → Attempt) :
    (fuel : Nat) → (limit : Option Nat) → Trail → Trail
  | 0, _, trail => trail
  | fuel + 1, limit, trail =>
    if limit = some 0 then trail
    else
      let tried := body .complete trail.reached trail
      if !tried.matched then
        match engine with
        | .exact => trail
        | .straying => trail.at tried.trail.reached
      -- a round that took nothing would be followed by the same round for ever
      else if tried.trail.reached = trail.reached then tried.trail
      else keepMost engine body fuel (limit.map (· - 1)) tried.trail

/-- Runs a repetition of a body. -/
def runRounds (engine : Engine) (text : Chars) (repeating : Bool) (greed : Greed) (least : Nat)
    (limit : Option Nat) (body : Rest → Nat → Trail → Attempt) (rest : Rest) (here : Nat)
    (trail : Trail) : Attempt :=
  let fuel := text.size + 2
  let limit := limit.map (· - least)
  match greed with
  | .most => runRequired body (runMost body rest fuel limit none) least here (trail.at here)
  | .fewest =>
    runRequired body (runFewest repeating body rest fuel limit none) least here (trail.at here)
  | .mostOnly =>
    let kept := keepRequired body least (trail.at here)
    if kept.matched then
      let trail := keepMost engine body fuel limit kept.trail
      rest.run trail.reached trail
    else .failed (kept.trail.at here)

/-! ## Steps -/

/-- Runs a step and the rest of a match at a place. `repeating` tells that the step is part of a
repetition that can go back on its rounds. -/
def Step.run (engine : Engine) (text : Chars) (repeating : Bool) :
    Step → Rest → Nat → Trail → Attempt
  | done, rest, here, trail => rest.run here trail
  | never, _, _, trail => .failed trail
  | char test, rest, here, trail =>
    if test.holds text here then rest.run (here + 1) trail else .failed trail
  | place test, rest, here, trail =>
    if test.holds text here then rest.run here trail else .failed trail
  | mark index, rest, here, trail => rest.run here (trail.setMark index here)
  | both a b, rest, here, trail =>
    a.run engine text repeating ⟨b.opening.or rest.opening, b.run engine text repeating rest⟩ here
      trail
  -- the first way is run knowing nothing of the rest, so that its own repetitions skip no place
  | either a b, rest, here, trail =>
    if a.opening.rulesOut text here then b.run engine text repeating rest here trail
    else
      let tried := a.run engine text repeating ⟨.other, rest.run⟩ here (trail.at here)
      if tried.matched then tried
      else b.run engine text repeating rest here (tried.trail.restore repeating trail.marks)
  | single greed least most test, rest, here, trail =>
    runSingle text repeating greed least most test rest here trail
  | rounds greed least most body, rest, here, trail =>
    -- to a straying engine, rounds that are kept are no repetition, so marks stay moved in them
    let repeats := match greed, engine with
      | .mostOnly, .straying => repeating
      | _, _ => true
    runRounds engine text repeating greed least most (body.run engine text repeats) rest here trail
  | sameAs casing number, rest, here, trail =>
    match trail.group? number with
    | some (start, stop) =>
      if sameText casing text (stop - start) start here then rest.run (here + (stop - start)) trail
      else .failed trail
    | none => .failed trail
  | ahead negated body, rest, here, trail =>
    let tried := body.run engine text repeating .complete here (trail.at here)
    if tried.matched = negated then .failed tried.trail
    else if negated then rest.run here (tried.trail.restore repeating trail.marks)
    else rest.run here tried.trail
  | behind negated width body, rest, here, trail =>
    -- too close to the start: nothing of that width can stand in front
    if here < width then if negated then rest.run here trail else .failed trail
    else
      let tried := body.run engine text repeating .complete (here - width) (trail.at (here - width))
      if tried.matched = negated then .failed tried.trail
      else if negated then rest.run here (tried.trail.restore repeating trail.marks)
      else rest.run here tried.trail
  | settled body, rest, here, trail =>
    let tried := body.run engine text repeating .complete here (trail.at here)
    if tried.matched then rest.run tried.trail.reached tried.trail
    else .failed (tried.trail.at here)
  | given number ifSet ifUnset, rest, here, trail =>
    if (trail.group? number).isSome then
      -- without a second branch the first runs straight into the rest
      let follows := match ifUnset with
        | done => rest.opening
        | _ => .other
      ifSet.run engine text repeating ⟨follows, rest.run⟩ here trail
    else ifUnset.run engine text repeating rest here trail

/-! ## Searching -/

/-- A group came out of a match with its start behind its end. -/
structure CrossedGroup where
deriving DecidableEq

/-- The wording of the fault. -/
def CrossedGroup.message (_ : CrossedGroup) : String :=
  "The span of capturing group is wrong, please report a bug for the re module."

/-- Whether, at some even index, a mark stands behind the next. -/
def anyCrossed : List (Option Nat) → Bool
  | some start :: some stop :: marks => stop < start || anyCrossed marks
  | _ :: _ :: marks => anyCrossed marks
  | _ => false

/-- The number of places at which a match may start. A program that starts plainly is tried at
every character, any other one place further than its least width leaves room for. -/
def Program.places (program : Program) (text : Chars) : Nat :=
  if text.size < program.least then 0
  else if program.least = 0 then text.size + 1
  else if program.step.startsPlainly then text.size
  else text.size - program.least + 2

/-- Looks for the first of `count` places from `here` on at which a program matches. -/
def Program.find (program : Program) (text : Chars) : (count here : Nat) →
    Except CrossedGroup Bool
  | 0, _ => .ok false
  | count + 1, here =>
    let tried := program.step.run program.engine text false .complete here ⟨here, []⟩
    if !tried.matched then program.find text count (here + 1)
    else if anyCrossed tried.trail.marks then .error ⟨⟩
    else .ok true

/-- Whether a program matches somewhere in a text. -/
def Program.occursIn (program : Program) (text : String) : Except CrossedGroup Bool :=
  let text := text.toList.toArray
  program.find text (program.places text) 0

end Reconcile.Pattern
