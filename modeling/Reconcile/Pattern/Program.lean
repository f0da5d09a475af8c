import Reconcile.Pattern.Fault

/-!
# Programs of patterns

A program is what an expression means under flags, in steps that can be run. `Expression.steps`
works them out; it can still find a fault, because only now are the flags looked at and the widths
of lookbehinds measured.
-/

namespace Reconcile.Pattern

/-- The flags in force. -/
structure Flags where
  ignoreCase : Bool
  multiline : Bool
  dotAll : Bool
  verbose : Bool
  ascii : Bool
  unicode : Bool
  template : Bool

namespace Flags

/-- Nothing is set. -/
def none : Flags :=
  ⟨false, false, false, false, false, false, false⟩

/-- The flags with one of them turned on or off. -/
def turn (on : Bool) (flags : Flags) : FlagLetter → Flags
  | .ignoreCase => { flags with ignoreCase := on }
  | .multiline => { flags with multiline := on }
  | .dotAll => { flags with dotAll := on }
  | .verbose => { flags with verbose := on }
  | .ascii => { flags with ascii := on }
  | .unicode => { flags with unicode := on }
  | .template => { flags with template := on }
  | .locale => flags

/-- The flags inside a group that turns some on and some off. Of the flags for a kind of text, one
that is turned on displaces the other. -/
def inside (flags : Flags) (on off : List FlagLetter) : Flags :=
  let flags :=
    if on.contains .ascii || on.contains .unicode then
      { flags with ascii := false, unicode := false }
    else flags
  off.foldl (turn false) (on.foldl (turn true) flags)

/-- How letters are compared. -/
def casing (flags : Flags) : Casing :=
  if flags.ignoreCase then (if flags.ascii then .asciiIgnored else .ignored) else .exact

end Flags

/-- Tests of a place: the start or end of the text or of a line in it, and the edges of words. -/
inductive PlaceTest where
  | textStart
  | textEnd
  | lastLineEnd
  | lineStart
  | lineEnd
  | wordEdge (ascii negated : Bool)

/-- What a place means under flags. -/
def Place.test (flags : Flags) : Place → PlaceTest
  | start => if flags.multiline then .lineStart else .textStart
  | ending => if flags.multiline then .lineEnd else .lastLineEnd
  | textStart => .textStart
  | textEnd => .textEnd
  | wordEdge negated => .wordEdge flags.ascii negated

/-- A step of a program. `single` repeats a test of one character, `rounds` any other step. The
start and the end of a group are marks. -/
inductive Step where
  | done
  | never
  | char (test : CharTest)
  | place (test : PlaceTest)
  | mark (index : Nat)
  | both (first second : Step)
  | either (first others : Step)
  | single (greed : Greed) (least : Nat) (most : Option Nat) (test : CharTest)
  | rounds (greed : Greed) (least : Nat) (most : Option Nat) (body : Step)
  | sameAs (casing : Casing) (number : Nat)
  | ahead (negated : Bool) (body : Step)
  | behind (negated : Bool) (width : Nat) (body : Step)
  | settled (body : Step)
  | given (number : Nat) (ifSet ifUnset : Step)

/-- The mark at which a group starts. -/
def startMark (number : Nat) : Nat := 2 * (number - 1)

/-- The mark at which a group ends. -/
def endMark (number : Nat) : Nat := 2 * (number - 1) + 1

/-- The greatest width that a lookbehind may have. -/
def lookbehindLimit : Nat := 0xffffffff

/-- The steps of an expression under flags. -/
def Expression.steps (flags : Flags) : Expression → Except Cause Step
  | empty => return .done
  | never => return .never
  | letter negated code => return .char (.letterIn flags.casing negated code)
  | any => return .char (if flags.dotAll then .any else .anyOnLine)
  | set negated items => return .char (.setIn flags.casing flags.ascii negated items)
  | .place p => return .place (p.test flags)
  | both a b => return .both (← a.steps flags) (← b.steps flags)
  | either a b => return .either (← a.steps flags) (← b.steps flags)
  | repeated greed least most body =>
    if flags.template then throw (.templateRepetition greed)
    else do
      match ← body.steps flags with
      -- one character is tested in a row, without running a step for each
      | .char test => return .single greed least most test
      | body => return .rounds greed least most body
  | group number body =>
    return .both (.mark (startMark number)) (.both (← body.steps flags) (.mark (endMark number)))
  | flagged on off body => body.steps (flags.inside on off)
  | settled body => return .settled (← body.steps flags)
  | ahead negated body => return .ahead negated (← body.steps flags)
  | behind negated body => do
    let width := body.width
    if lookbehindLimit < width.least then throw .longLookbehind
    -- a lookbehind steps back by its width, so it may have only one
    else if width.least != width.most then throw .looseLookbehind
    else return .behind negated width.least (← body.steps flags)
  | sameAs number _ => return .sameAs flags.casing number
  | given number a b => return .given number (← a.steps flags) (← b.steps flags)

/-- What a step starts with: nothing that takes part in a match, a test of one character, or
something else. -/
inductive Opening where
  | nothing
  | test (test : CharTest)
  | other

/-- The first of two openings that is one. -/
def Opening.or : Opening → Opening → Opening
  | nothing, opening => opening
  | opening, _ => opening

/-- The character that an opening demands, if it is a single one. -/
def Opening.literal? : Opening → Option Nat
  | .test t => t.literal?
  | _ => none

/-- What a step starts with. -/
def Step.opening : Step → Opening
  | done => .nothing
  | char test => .test test
  | both a b => a.opening.or b.opening
  | _ => .other

/-- What a step starts with, apart from marks. -/
def Step.firstTest : Step → Opening
  | done => .nothing
  | mark _ => .nothing
  | char test => .test test
  | both a b => a.firstTest.or b.firstTest
  | _ => .other

/-- Whether a step starts with a test that takes no heed of case, or with alternatives that each
start with such a letter. -/
def Step.startsPlainly : Step → Bool
  | never => true
  | either a b => a.opening.literal?.isSome && b.startsPlainly
  | both a b =>
    match a.firstTest with
    | .nothing => b.startsPlainly
    | .test t => t.isPlain
    | .other => a.startsPlainly
  | char test => test.isPlain
  | _ => false

/-- Engines that run programs. They differ in repetitions that do not go back on their rounds. When a
round fails, an exact engine goes on from where the round before it has ended, as is meant by such a
repetition; a straying one goes on from where the failed round has got to. -/
inductive Engine where
  | exact
  | straying
deriving DecidableEq

/-- The engine that patterns are run on. It strays, as its answers show: `b{2}(?<=a)?+b` is found in
`abbaba`, and `(?<=a)*+a+ab` is not found in `baabcbb`. -/
def Engine.inUse : Engine :=
  .straying

/-- A program: its steps, the least width of what it matches, and the engine that runs it. -/
structure Program where
  step : Step
  least : Nat
  engine : Engine

/-- The program of an expression under flags. -/
def Expression.program (flags : Flags) (expression : Expression) : Except Cause Program :=
  (expression.steps flags).map (⟨·, expression.width.least, .inUse⟩)

end Reconcile.Pattern
