import Reconcile.Diagnostic
import Reconcile.Path
import Reconcile.Text.Blank
import Reconcile.Text.Numeral

/-!
# Report lines

A compiler reports one problem per line: decoration (backticks, dashes and white space), a path, and
a tail made of a line number, perhaps a column, the gravity and a message, as in
`a.swift:3:7: error: no such thing`. The path is the shortest text in front of some tail, so a colon
may stand in a path as long as no tail follows it. Numerals may use the digits of any script.

`Tail.read?` decides where a tail stands and `splitAtTail?` finds the first one; `Line.read?` puts
the parts together.
-/

namespace Reconcile.Report

open Text

/-- What one line reports. -/
structure Line where
  file : String
  range : Range
  severity : Severity
  message : String
deriving DecidableEq

/-- Whether a line is a note on the problem reported before it. -/
def Line.isNote (line : Line) : Bool :=
  line.severity = .information

/-- The decoration in front of a path. -/
def isDecoration (c : Char) : Bool :=
  c = '`' || c = '-' || isBlank c

/-- The words for the gravity of a problem. -/
def gravityWords : List String :=
  ["warning", "error", "note"]

/-- What follows the path of a report line: the numerals of the line and of the column, the word for
the gravity, and the message. -/
structure Tail where
  line : List Char
  column : Option (List Char)
  word : String
  message : List Char
deriving DecidableEq

/-- What follows a word, if the text starts with it. -/
def afterWord? (word : String) (text : List Char) : Option (List Char) :=
  if word.toList.isPrefixOf text then some (text.drop word.length) else none

/-- The gravity that a text starts with, and what follows it. -/
def gravity? (text : List Char) : Option (String × List Char) :=
  gravityWords.findSome? fun word => (afterWord? word text).map (word, ·)

/-- A message that runs to the end of the text, or to one last line break. -/
def message? (text : List Char) : Option (List Char) :=
  let message := text.takeWhile (· != '\n')
  let rest := text.drop message.length
  if rest = [] || rest = ['\n'] then some message else none

/-- A colon and the white space after it, both required; yields what follows. -/
def afterColonAndBlanks? : List Char → Option (List Char)
  | ':' :: c :: text => if isBlank c then some (text.dropWhile isBlank) else none
  | _ => none

/-- A colon and the numeral after it, and what follows. -/
def numeral? : List Char → Option (List Char × List Char)
  | ':' :: text =>
    let digits := text.takeWhile isDigit
    if digits = [] then none else some (digits, text.drop digits.length)
  | _ => none

/-- The part of a tail after its numerals. -/
def Tail.read (line : List Char) (column : Option (List Char)) (text : List Char) :
    Option Tail := do
  let (word, rest) ← gravity? (← afterColonAndBlanks? text)
  let message ← message? (← afterColonAndBlanks? rest)
  return ⟨line, column, word, message⟩

/-- The tail that a text is, if it is one. -/
def Tail.read? (text : List Char) : Option Tail := do
  let (line, rest) ← numeral? text
  match numeral? rest with
  | some (column, rest) => Tail.read line (some column) rest
  | none => Tail.read line none rest

/-- The shortest text on one line that a tail follows, and that tail. -/
def splitAtTail? : List Char → Option (List Char × Tail)
  | [] => none
  | c :: text =>
    match Tail.read? (c :: text) with
    | some tail => some ([], tail)
    | none =>
      -- a path stays on its line
      if c = '\n' then none
      else (splitAtTail? text).map fun split => (c :: split.1, split.2)

/-- What a line reports, if it reports anything. A line that would report on an empty path reports
nothing; a column that is missing is the first one. -/
def Line.read? (text : String) : Except LongNumeral (Option Line) :=
  match splitAtTail? (text.toList.dropWhile isDecoration) with
  | none => .ok none
  | some (path, tail) =>
    if path = [] then .ok none
    else do
      let line ← readNumeral tail.line
      let column ← readNumeral (tail.column.getD ['1'])
      return some
        { file := Path.normalize (String.ofList path)
          range := Range.point (Position.ofReport line column)
          severity := Severity.ofWord tail.word
          message := String.ofList tail.message }

end Reconcile.Report
