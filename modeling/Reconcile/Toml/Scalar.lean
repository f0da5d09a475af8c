import Reconcile.Text.Numeral
import Reconcile.Toml.Tree

/-!
# Scalars of settings documents

Strings stand in quotes: double quotes with escapes, or single quotes without; three quotes let a
string run over several lines. Numbers, dates and times are words that run up to a blank, a comma or
a bracket, so a word is cut off first and then read as a whole. A time may follow a date after one
blank, which is the only case in which a scalar goes on after its word.
-/

namespace Reconcile.Toml

open Decimal Text

/-- A reader of some text: the value read and the text left, or a fault. -/
abbrev Reader (α : Type) := List Char → Except Fault (α × List Char)

/-- An ASCII digit. -/
def isDecimalDigit (c : Char) : Bool :=
  '0' ≤ c && c ≤ '9'

/-- The characters that no document may hold outside of line ends: controls other than the tab. -/
def isForbidden (c : Char) : Bool :=
  (c.toNat < 0x20 && c != '\t') || c.toNat = 0x7f

/-- A blank within a line. -/
def isSpace (c : Char) : Bool :=
  c = ' ' || c = '\t'

/-- A blank or a line end. -/
def isGap (c : Char) : Bool :=
  isSpace c || c = '\n'

/-- Whether a character may stand in a key without quotes. -/
def isKeyChar (c : Char) : Bool :=
  c.isAlphanum || c = '_' || c = '-'

/-! ## Strings -/

/-- The character that a one-letter escape stands for. -/
def escaped? (c : Char) : Option Char :=
  match c with
  | 'b' => some '\x08'
  | 't' => some '\t'
  | 'n' => some '\n'
  | 'f' => some '\x0c'
  | 'r' => some '\r'
  | 'e' => some '\x1b'
  | '"' => some '"'
  | '\\' => some '\\'
  | _ => none

/-- Whether the number of a code point is written like that of a surrogate in four digits. -/
def looksSurrogate : List Char → Bool
  | first :: second :: _ => (first = 'd' || first = 'D') && !('0' ≤ second && second ≤ '7')
  | _ => false

/-- The character whose code point is written in `width` characters in base sixteen. -/
def codePoint (width : Nat) : Reader Char := fun text =>
  let numeral := text.take width
  if numeral.length < width || (2 < width && looksSurrogate numeral) then .error .malformed
  else
    match readIntegerIn? 16 numeral with
    | some (.ofNat code) =>
      if code < 0x110000 then
        .ok (if code.isValidChar then Char.ofNat code else '\ufffd', text.drop width)
      else .error .malformed
    | _ => .error .malformed

/-- What an escape stands for; the backslash has been taken. -/
def escape : Reader Char
  | 'x' :: text => codePoint 2 text
  | 'u' :: text => codePoint 4 text
  | 'U' :: text => codePoint 8 text
  | c :: text =>
    match escaped? c with
    | some plain => .ok (plain, text)
    | none => .error .malformed
  | [] => .error .malformed

/-- The rest of a string in double quotes on one line. -/
def basicString : (limit : Nat) → Reader (List Char)
  | 0, _ => .error .malformed
  | limit + 1, text =>
    match text with
    | [] => .error .malformed
    | '"' :: text => .ok ([], text)
    | '\\' :: text => do
      let (c, text) ← escape text
      let (others, text) ← basicString limit text
      return (c :: others, text)
    | c :: text =>
      if isForbidden c then .error .malformed
      else do
        let (others, text) ← basicString limit text
        return (c :: others, text)

/-- The rest of a string in single quotes on one line. -/
def literalString : Reader (List Char)
  | [] => .error .malformed
  | '\'' :: text => .ok ([], text)
  | c :: text =>
    if isForbidden c then .error .malformed
    else do
      let (others, text) ← literalString text
      return (c :: others, text)

/-- What follows a backslash at the end of a line: nothing but blanks up to the line end, and then
everything up to the next character that is no gap. -/
def afterContinuation? (text : List Char) : Option (List Char) :=
  match text.dropWhile isSpace with
  | '\n' :: rest => some (rest.dropWhile isGap)
  | _ => none

/-- The quotes at the end of a string over several lines: three close it, and up to two more in
front of them belong to it. -/
def closing? (quote : Char) (text : List Char) : Option (List Char × List Char) :=
  let run := text.takeWhile (· == quote)
  if run.length < 3 then none
  else
    -- at most five quotes are taken here; any more are left over
    let kept := min (run.length - 3) 2
    some (List.replicate kept quote, text.drop (kept + 3))

/-- The rest of a string over several lines. -/
def longString (quote : Char) : (limit : Nat) → Reader (List Char)
  | 0, _ => .error .malformed
  | limit + 1, text =>
    match closing? quote text with
    | some closed => .ok closed
    | none =>
      match text with
      | [] => .error .malformed
      | c :: text =>
        if c = '\\' && quote = '"' then
          match afterContinuation? text with
          | some text => longString quote limit text
          | none => do
            let (c, text) ← escape text
            let (others, text) ← longString quote limit text
            return (c :: others, text)
        else if isForbidden c && c != '\n' then .error .malformed
        else do
          let (others, text) ← longString quote limit text
          return (c :: others, text)

/-- A string over several lines without the line end right after its opening quotes. -/
def longText (quote : Char) (text : List Char) : Except Fault (List Char × List Char) :=
  let body := match text with
    | '\n' :: body => body
    | body => body
  longString quote (body.length + 1) body

/-- A string that runs over several lines, if the text starts with three quotes. -/
def longString? (text : List Char) : Option (Except Fault (List Char × List Char)) :=
  match text with
  | '"' :: '"' :: '"' :: text => some (longText '"' text)
  | '\'' :: '\'' :: '\'' :: text => some (longText '\'' text)
  | _ => none

/-- A string on one line, if the text starts with a quote. -/
def shortString? (text : List Char) : Option (Except Fault (List Char × List Char)) :=
  match text with
  | '"' :: text => some (basicString (text.length + 1) text)
  | '\'' :: text => some (literalString text)
  | _ => none

/-! ## Numbers -/

/-- Whether a character ends a word. -/
def endsWord (c : Char) : Bool :=
  isGap c || c = '#' || c = ',' || c = ']' || c = '\x7d'

/-- A sign and what follows it; the sign is empty where there is none. -/
def cutSign : List Char → List Char × List Char
  | '+' :: rest => (['+'], rest)
  | '-' :: rest => (['-'], rest)
  | rest => ([], rest)

/-- A text without the underscores that stand between two digits. -/
def joinDigits (isDigit : Char → Bool) : List Char → List Char
  | a :: '_' :: b :: rest =>
    if isDigit a && isDigit b then a :: joinDigits isDigit (b :: rest)
    else a :: joinDigits isDigit ('_' :: b :: rest)
  | a :: rest => a :: joinDigits isDigit rest
  | [] => []

/-- The base that a number without a sign is written in, by its mark. -/
def baseOf : List Char → Nat
  | '0' :: 'x' :: _ => 16
  | '0' :: 'o' :: _ => 8
  | '0' :: 'b' :: _ => 2
  | _ => 10

/-- Whether a number may not start as it does: with a superfluous zero, or after a sign with a point
or with the mark of a base. -/
def startsBadly (signed : Bool) : List Char → Bool
  | '.' :: _ :: _ => signed
  | '0' :: c :: _ =>
    !(c = '.' || c = 'o' || c = 'x' || c = 'b' || c = 'e')
      || (signed && (c = 'o' || c = 'x' || c = 'b'))
  | _ => false

/-- The exponent of a decimal number. -/
def exponent? (text : List Char) : Option Int :=
  let (negative, digits) := splitSign text
  if digits.isEmpty || !digits.all isDigit then none
  else
    let size : Int := numeralValue digits
    some (if negative then -size else size)

/-- The binary number that a text writes, with the digits of any script and white space around it:
one with a fraction or an exponent or without, an infinity, or no number. -/
def readDecimal? (text : List Char) : Option Binary64 := do
  let (negative, size) := splitSign (trimNumeral text)
  let word := size.map Char.toLower
  if word = "inf".toList || word = "infinity".toList then return .infinite negative
  if word = "nan".toList then return .notANumber
  let front := word.takeWhile (· != 'e')
  let power ← match word.drop front.length with
    | [] => some 0
    | _ :: text => exponent? text
  let whole := front.takeWhile isDigit
  let places ← match front.drop whole.length with
    | [] => some []
    | '.' :: places => if places.all isDigit then some places else none
    | _ => none
  if whole.isEmpty && places.isEmpty then none
  else
    return Binary64.ofDecimal negative (numeralValue (whole ++ places)) (power - places.length)

/-- A number. One with too many digits for an integer is a decimal. -/
def number? (word : List Char) : Option Value :=
  let (sign, size) := cutSign word
  let base := baseOf size
  let isPlainDigit (c : Char) : Bool := c.toNat < 0x80 && isDigitIn base c
  let size := if startsBadly (!sign.isEmpty) size then [] else joinDigits isPlainDigit size
  -- in base sixteen the letter e is a digit
  let front := if base = 16 then size else size.takeWhile fun c => c != 'e' && c != 'E'
  if size.contains '_' || front.getLast? = some '.' then none
  else
    match readIntegerIn? base (sign ++ size) with
    | some integer => some (.integer integer)
    | none => (readDecimal? (sign ++ size)).map .decimal

/-! ## Dates and times -/

/-- A number of two ASCII digits, and what follows it. -/
def twoDigits? : List Char → Option (Nat × List Char)
  | a :: b :: rest =>
    if isDecimalDigit a && isDecimalDigit b then some (numberIn 10 [a, b], rest) else none
  | _ => none

/-- What follows a character, if the text starts with it. -/
def after? (mark : Char) : List Char → Option (List Char)
  | c :: rest => if c = mark then some rest else none
  | [] => none

/-- How many days a month has. -/
def daysIn (year month : Nat) : Nat :=
  if month = 2 then
    if year % 4 = 0 && (year % 100 != 0 || year % 400 = 0) then 29 else 28
  else if month = 4 || month = 6 || month = 9 || month = 11 then 30
  else 31

/-- The last year of the calendar. -/
def lastYear : Nat := 9999

/-- A day of the calendar, and what follows it. -/
def day? (text : List Char) : Option (Day × List Char) := do
  let digits := text.takeWhile isDecimalDigit
  let (month, rest) ← twoDigits? (← after? '-' (text.drop digits.length))
  let (day, rest) ← twoDigits? (← after? '-' rest)
  let year := numberIn 10 digits
  if 1 ≤ year && year ≤ lastYear && digits.length ≤ numeralLimit && 1 ≤ month && month ≤ 12
      && 1 ≤ day && day ≤ daysIn year month then
    return (⟨year, month, day⟩, rest)
  else none

/-- The fraction of a second in millionths, of which the text may go on with one; six places are
kept. -/
def fraction? (text : List Char) : Option (Nat × List Char) :=
  match text with
  | '.' :: rest =>
    let places := rest.takeWhile isDecimalDigit
    if places.isEmpty then none
    else
      -- filled up with zeros or cut off, without rounding
      some (numberIn 10 ((places ++ List.replicate 6 '0').take 6), rest.drop places.length)
  | rest => some (0, rest)

/-- A time of day, and what follows it. Seconds may be left out. -/
def clock? (text : List Char) : Option (Clock × List Char) := do
  let (hour, rest) ← twoDigits? text
  let (minute, rest) ← twoDigits? (← after? ':' rest)
  let (second, microsecond, rest) ← match rest with
    | ':' :: rest => do
      let (second, rest) ← twoDigits? rest
      let (microsecond, rest) ← fraction? rest
      some (second, microsecond, rest)
    | rest => some (0, 0, rest)
  if hour < 24 && minute < 60 && second < 60 then
    return (⟨hour, minute, second, microsecond⟩, rest)
  else none

/-- A zone. -/
def zone? (text : List Char) : Option Zone := do
  match text with
  | ['Z'] => return .universal
  | ['z'] => return .universal
  | mark :: offset =>
    let (hours, rest) ← twoDigits? offset
    let (minutes, rest) ← twoDigits? (← after? ':' rest)
    if (mark = '+' || mark = '-' || mark = '|') && rest.isEmpty && hours < 24 && minutes < 60 then
      return .offset mark hours minutes
    else none
  | [] => none

/-- A time of day with or without a zone, on a day. -/
def onDay? (day : Day) (text : List Char) : Option Moment := do
  let (clock, rest) ← clock? text
  match rest with
  | [] => return .civil day clock
  | zone => return .zoned day clock (← zone? zone)

/-- A date, a time or both; `more` is the text after the word, in which a time may follow the date
after one blank. Yields what is left of that text. -/
def moment? (word more : List Char) : Option (Moment × List Char) :=
  match day? word with
  | some (day, []) =>
    let line := more.takeWhile fun c => !(endsWord c && c != ' ')
    match trimBy isBlank line with
    | [] => some (.day day, more.drop line.length)
    | time =>
      -- just one blank between the date and the time
      if line.take 2 = ' ' :: time.take 1 then
        (onDay? day time).map (·, more.drop line.length)
      else none
  | some (day, mark :: time) =>
    if mark = 'T' || mark = 't' then (onDay? day time).map (·, more) else none
  | none =>
    match clock? word with
    | some (clock, []) => some (.clock clock, more)
    | _ => none

/-! ## Words -/

/-- Words that stand for themselves. -/
def wordValues : List (List Char × Value) :=
  [("true".toList, .flag true), ("false".toList, .flag false),
    ("inf".toList, .decimal (.infinite false)), ("nan".toList, .decimal .notANumber)]

/-- A flag, a number, a date or a time. -/
def plainScalar (text : List Char) : Except Fault (Value × List Char) :=
  let word := text.takeWhile fun c => !endsWord c
  let more := text.drop word.length
  match wordValues.lookup word, word.head? with
  | some value, _ => .ok (value, more)
  | none, none => .error (.unexpected text)
  | none, some c =>
    let number (word : List Char) : Except Fault (Value × List Char) :=
      match number? word with
      | some number => .ok (number, more)
      | none => .error .malformed
    if c = '+' || c = '-' then number word
    else if isDecimalDigit c then
      match moment? word more with
      | some (moment, more) => .ok (.moment moment, more)
      | none => number word
    else .error (.unexpected text)

/-- A scalar. -/
def scalar (text : List Char) : Except Fault (Value × List Char) :=
  match longString? text <|> shortString? text with
  | some read => read.map fun (chars, text) => (.text (String.ofList chars), text)
  | none => plainScalar text

end Reconcile.Toml
