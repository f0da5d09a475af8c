import Reconcile.Pattern.Expression
import Reconcile.Text.Numeral
import Reconcile.Text.Quoted

/-!
# What is wrong with a pattern

A text can break the rules of patterns: that is a fault, and most faults have a position in the
text, which counts characters from zero. A text can also ask for more than the reader copes with.
Whoever reads a list of patterns passes over the faulty ones and stops at an excess.
-/

namespace Reconcile.Pattern

open Text

/-- What is wrong with the flags of a group. -/
inductive FlagFault where
  | localeFlag
  | incompatible
  | unknown
  | noDashColonParen
  | noFlag
  | noColon
  | globalOn
  | globalOff
  | typeOff
  | onAndOff

/-- The wording of a fault in flags. -/
def FlagFault.message : FlagFault → String
  | localeFlag => "bad inline flags: cannot use 'L' flag with a str pattern"
  | incompatible => "bad inline flags: flags 'a', 'u' and 'L' are incompatible"
  | unknown => "unknown flag"
  | noDashColonParen => "missing -, : or )"
  | noFlag => "missing flag"
  | noColon => "missing :"
  | globalOn => "bad inline flags: cannot turn on global flag"
  | globalOff => "bad inline flags: cannot turn off global flag"
  | typeOff => "bad inline flags: cannot turn off flags 'a', 'u' and 'L'"
  | onAndOff => "bad inline flags: flag turned on and off"

/-- The name of a repetition where a template is refused one. -/
def Greed.label : Greed → String
  | most => "MAX_REPEAT"
  | fewest => "MIN_REPEAT"
  | mostOnly => "POSSESSIVE_REPEAT"

/-- Which rule of patterns is broken. -/
inductive Cause where
  | escapeAtEnd
  | badEscape (escape : String)
  | incompleteEscape (escape : String)
  | octalTooLarge (escape : String)
  | missing (what : String)
  | unterminatedName (terminator : Char)
  | unknownCharacterName (name : String)
  | openGroup
  | groupOfSameLookbehind
  | noSuchGroup (number : Nat)
  | unterminatedSet
  | badRange (first last : String)
  | leastAboveMost
  | nothingToRepeat
  | multipleRepeat
  | unexpectedEnd
  | unknownExtension (extension : String)
  | unterminatedComment
  | unterminatedGroup
  | badGroupName (name : String)
  | unknownGroupName (name : String)
  | badGroupNumber
  | tooManyBranches
  | lateFlags
  | flags (fault : FlagFault)
  | redefinedGroup (name : String) (number before : Nat)
  | unbalanced
  | longLookbehind
  | looseLookbehind
  | templateRepetition (greed : Greed)

/-- The wording of a cause. -/
def Cause.message : Cause → String
  | escapeAtEnd => "bad escape (end of pattern)"
  | badEscape escape => "bad escape " ++ escape
  | incompleteEscape escape => "incomplete escape " ++ escape
  | octalTooLarge escape => "octal escape value " ++ escape ++ " outside of range 0-0o377"
  | missing what => "missing " ++ what
  | unterminatedName terminator =>
    "missing " ++ terminator.toString ++ ", unterminated name"
  | unknownCharacterName name => "undefined character name " ++ quoted name
  | openGroup => "cannot refer to an open group"
  | groupOfSameLookbehind => "cannot refer to group defined in the same lookbehind subpattern"
  | noSuchGroup number => "invalid group reference " ++ toString number
  | unterminatedSet => "unterminated character set"
  | badRange first last => "bad character range " ++ first ++ "-" ++ last
  | leastAboveMost => "min repeat greater than max repeat"
  | nothingToRepeat => "nothing to repeat"
  | multipleRepeat => "multiple repeat"
  | unexpectedEnd => "unexpected end of pattern"
  | unknownExtension extension => "unknown extension ?" ++ extension
  | unterminatedComment => "missing ), unterminated comment"
  | unterminatedGroup => "missing ), unterminated subpattern"
  | badGroupName name => "bad character in group name " ++ quoted name
  | unknownGroupName name => "unknown group name " ++ quoted name
  | badGroupNumber => "bad group number"
  | tooManyBranches => "conditional backref with more than two branches"
  | lateFlags => "global flags not at the start of the expression"
  | flags fault => fault.message
  | redefinedGroup name number before =>
    "redefinition of group name " ++ quoted name ++ " as group " ++ toString number
      ++ "; was group " ++ toString before
  | unbalanced => "unbalanced parenthesis"
  | longLookbehind => "looks too much behind"
  | looseLookbehind => "look-behind requires fixed-width pattern"
  | templateRepetition greed => "internal: unsupported template operator " ++ greed.label

/-- A fault of a pattern and where it was found. -/
structure Fault where
  cause : Cause
  position : Option Nat

/-- The wording of a fault of the pattern `text`. A pattern of several lines has the line and column
named as well. -/
def Fault.message (text : String) (fault : Fault) : String :=
  match fault.position with
  | none => fault.cause.message
  | some position =>
    let chars := text.toList
    let before := chars.take position
    let line := before.count '\n' + 1
    let column := (before.reverse.takeWhile (· != '\n')).length + 1
    fault.cause.message ++ " at position " ++ toString position
      ++ if chars.contains '\n' then
          " (line " ++ toString line ++ ", column " ++ toString column ++ ")"
        else ""

/-- What goes beyond what the reader copes with. -/
inductive Excess where
  /-- More rounds of a repetition than can be counted. -/
  | rounds
  /-- A number of rounds with too many digits. -/
  | numeral (fault : LongNumeral)
  /-- Two flags for the whole pattern that exclude each other. -/
  | asciiAndUnicode
  /-- More groups inside one another than can be kept track of. -/
  | nesting

/-- The wording of an excess. -/
def Excess.message : Excess → String
  | rounds => "the repetition number is too large"
  | numeral fault => fault.message
  | asciiAndUnicode => "ASCII and UNICODE flags are incompatible"
  | nesting => "maximum recursion depth exceeded"

/-- Why a text cannot be read as a pattern. -/
inductive ReadError where
  | fault (fault : Fault)
  | excess (excess : Excess)

end Reconcile.Pattern
