import Reconcile.Text.Blank
import Reconcile.Text.Casing
import Reconcile.Text.Digit
import Reconcile.Text.WordChar

/-!
# Tests of one character

A pattern tests characters one by one: for being one letter, for being in a bracketed set, or for
nothing at all. Where case is ignored, the letter is folded before it is looked at, and what the
pattern lists is folded beforehand; `CharTest.letterIn` and `CharTest.setIn` do that, and leave a
test exact if no character that it lists has case.
-/

namespace Reconcile.Pattern

open Text

/-- The classes of characters that have a name. -/
inductive CharClass where
  | digit
  | space
  | word
deriving DecidableEq

/-- Whether a character is of a class; `ascii` leaves only ASCII characters in it. -/
def CharClass.contains (ascii : Bool) (c : Char) : CharClass → Bool
  | digit => isDigit c && (!ascii || c.toNat < 128)
  | space => isBlank c && (!ascii || (c.toNat < 128 && !(0x1c ≤ c.toNat && c.toNat ≤ 0x1f)))
  | word => isWordChar c && (!ascii || c.toNat < 128)

/-- What a bracketed set lists: code points, ranges of code points, and classes. -/
inductive SetItem where
  | one (code : Nat)
  | range (first last : Nat)
  | named (negated : Bool) (name : CharClass)
deriving DecidableEq

/-! ## Case -/

/-- How letters are compared. -/
inductive Casing where
  | exact
  | ignored
  | asciiIgnored
deriving DecidableEq

/-- Small letters that share a capital: they are alike when case is ignored. -/
def kinships : List (List Nat) :=
  [[105, 305], [115, 383], [181, 956], [837, 953, 8126], [912, 8147], [944, 8163], [946, 976],
    [949, 1013], [952, 977], [954, 1008], [960, 982], [961, 1009], [962, 963], [966, 981],
    [1074, 7296], [1076, 7297], [1086, 7298], [1089, 7299], [1090, 7300, 7301], [1098, 7302],
    [1123, 7303], [7304, 42571], [7777, 7835], [64261, 64262]]

/-- The small letters that are alike with a small letter. -/
def kin (code : Nat) : List Nat :=
  (kinships.find? (·.contains code)).getD [code]

/-- The small letter of an ASCII capital; any other code point is its own. -/
def asciiFold (code : Nat) : Nat :=
  if 0x41 ≤ code && code ≤ 0x5a then code + 32 else code

/-- A code point as letters are compared. A code point that is no character is its own. -/
def Casing.fold (casing : Casing) (code : Nat) : Nat :=
  match casing with
  | exact => code
  | asciiIgnored => asciiFold code
  | ignored => if code.isValidChar then (foldChar (Char.ofNat code)).toNat else code

/-- The capital of a code point. -/
def capital (code : Nat) : Nat :=
  if code.isValidChar then ((upperChar (Char.ofNat code)).headD (Char.ofNat code)).toNat else code

/-- Whether a code point has another case. -/
def Casing.isCased (casing : Casing) (code : Nat) : Bool :=
  match casing with
  | exact => false
  | asciiIgnored => asciiFold code != code || (0x61 ≤ code && code ≤ 0x7a)
  | ignored => casing.fold code != code || capital code != code

/-- Whether a run maps a code point from `first` to `last`. -/
def meets (first last : Nat) (run : CaseRun) : Bool :=
  let skipped := (first - run.first + run.step - 1) / run.step * run.step
  let next := run.first + skipped
  next ≤ run.last && next ≤ last

/-- Whether a code point from `first` to `last` has another case. -/
def Casing.casedWithin (casing : Casing) (first last : Nat) : Bool :=
  match casing with
  | exact => false
  | asciiIgnored => (first ≤ 0x5a && 0x41 ≤ last) || (first ≤ 0x7a && 0x61 ≤ last)
  | ignored =>
    lowerRuns.any (meets first last) || upperRuns.any (meets first last)
      || (lowerExpansions ++ upperExpansions).any fun entry => first ≤ entry.1 && entry.1 ≤ last

/-- The code points that are alike with a code point. -/
def Casing.alike (casing : Casing) (code : Nat) : List Nat :=
  match casing with
  | exact => [code]
  | asciiIgnored => [0, 32].filterMap fun shift =>
      let other := asciiFold code - shift
      if asciiFold other = asciiFold code then some other else none
  | ignored =>
    let small := kin (casing.fold code)
    let capitals := small.flatMap fun (low : Nat) => lowerRuns.filterMap fun run =>
      let source := ((low : Int) - run.shift).toNat
      if run.covers source then some source else none
    let expanded := (lowerExpansions.filter fun entry => small.contains (entry.2.headD 0)).map (·.1)
    small.filter (fun low => casing.fold low = low) ++ capitals ++ expanded

/-! ## Sets -/

/-- The first code point past the plane of the common scripts. -/
def planeEnd : Nat := 0x10000

/-- Whether a code point lies in a range. -/
def within (first last code : Nat) : Bool :=
  first ≤ code && code ≤ last

/-- Whether case makes a difference to a set item. Past the first plane it is taken to do so. -/
def SetItem.isCased (casing : Casing) : SetItem → Bool
  | one code => casing != .exact && (planeEnd ≤ code || casing.isCased code)
  | range first last => casing != .exact && (planeEnd ≤ last || casing.casedWithin first last)
  | named _ _ => false

/-- Whether a set item covers a code point, which is folded. Items of the first plane stand for all
code points that are alike with them. Past it, one code point stands for itself alone, so that a
capital is never met, and a range for what lies in it or has its capital in it. -/
def SetItem.covers (casing : Casing) (ascii : Bool) (code : Nat) : SetItem → Bool
  | one listed => if listed < planeEnd then (casing.alike code).contains listed else code = listed
  | range first last =>
    match casing with
    | .exact => within first last code
    | _ =>
      (casing.alike code).any (fun other => other < planeEnd && within first last other)
        || (planeEnd ≤ last && (within first last code || within first last (capital code)))
  | named negated name => name.contains ascii (Char.ofNat code) != negated

/-! ## Tests -/

/-- Tests of one character: for a folded letter or any but that letter, for anything, for anything
but a line feed, and for a set. -/
inductive CharTest where
  | letter (casing : Casing) (negated : Bool) (code : Nat)
  | any
  | anyOnLine
  | set (casing : Casing) (ascii negated : Bool) (items : List SetItem)

namespace CharTest

/-- Whether a character passes a test. -/
def accepts (c : Char) : CharTest → Bool
  | letter casing negated code => (casing.fold c.toNat == code) != negated
  | any => true
  | anyOnLine => c != '\n'
  | set casing ascii negated items =>
    items.any (·.covers casing ascii (casing.fold c.toNat)) != negated

/-- The test for a letter, or for any but that letter. A letter that has more than one kin becomes a
set. -/
def letterIn (casing : Casing) (negated : Bool) (code : Nat) : CharTest :=
  if casing.isCased code then
    let low := casing.fold code
    if casing = .ignored && 1 < (kin low).length then set casing false negated ((kin low).map .one)
    else letter casing negated low
  else letter .exact negated code

/-- The test for a set. -/
def setIn (casing : Casing) (ascii negated : Bool) (items : List SetItem) : CharTest :=
  set (if items.any (·.isCased casing) then casing else .exact) ascii negated items

/-- The one character that passes a test, if there is only one. -/
def literal? : CharTest → Option Nat
  | letter .exact false code => some code
  | _ => none

/-- Whether a test is for a letter or a set that take no heed of case. -/
def isPlain : CharTest → Bool
  | letter .exact false _ => true
  | set .exact _ _ _ => true
  | _ => false

/-- Whether a test is for a set that ignores case. -/
def isFoldedSet : CharTest → Bool
  | set casing _ _ _ => casing != .exact
  | _ => false

end CharTest

end Reconcile.Pattern
