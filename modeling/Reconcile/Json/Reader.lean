import Reconcile.Text.Numeral
import Reconcile.Value.Basic

/-!
# Reading JSON

A JSON text is read in one pass. A fault keeps the text that was left where it was found, from which
its line and column follow. A repeated key keeps its first place and takes the last value. Numerals
without a fraction or exponent are integers of any size up to the numeral limit; `NaN` and the
infinities are accepted as numbers. Lists and tables nest only so deep.

The readers of values, items and fields call each other; each call works on a shorter text, so the
length of the text bounds their calls.
-/

namespace Reconcile.Json

open Decimal Text

/-- What is wrong with a JSON text. -/
inductive Reason where
  | expectingValue
  | expectingName
  | expectingColon
  | expectingComma
  | extraData
  | controlCharacter
  | badEscape
  | badUnicodeEscape
  | unterminatedString
  | byteOrderMark
deriving DecidableEq

/-- The wording of a reason. -/
def Reason.message : Reason → String
  | expectingValue => "Expecting value"
  | expectingName => "Expecting property name enclosed in double quotes"
  | expectingColon => "Expecting ':' delimiter"
  | expectingComma => "Expecting ',' delimiter"
  | extraData => "Extra data"
  | controlCharacter => "Invalid control character at"
  | badEscape => "Invalid \\escape"
  | badUnicodeEscape => "Invalid \\uXXXX escape"
  | unterminatedString => "Unterminated string starting at"
  | byteOrderMark => "Unexpected UTF-8 BOM (decode using utf-8-sig)"

/-- A value that holds others. -/
inductive Container where
  | list
  | table
deriving DecidableEq

/-- The word for a container. -/
def Container.word : Container → String
  | list => "array"
  | table => "object"

/-- A fault of a JSON text: a reason and the text left where it was found, a numeral that is too
long, or a container that stands too deep in others. -/
inductive Fault where
  | syntactic (reason : Reason) (left : List Char)
  | numeral (fault : LongNumeral)
  | nesting (container : Container)

/-- The white space of JSON. -/
def isSpace (c : Char) : Bool :=
  c = ' ' || c = '\t' || c = '\n' || c = '\r'

/-- The text without leading white space. -/
def skipSpace (text : List Char) : List Char :=
  text.dropWhile isSpace

/-- The value of an ASCII digit in base sixteen. -/
def hexValue? (c : Char) : Option Nat :=
  if '0' ≤ c && c ≤ '9' then some (c.toNat - '0'.toNat)
  else if 'a' ≤ c && c ≤ 'f' then some (c.toNat - 'a'.toNat + 10)
  else if 'A' ≤ c && c ≤ 'F' then some (c.toNat - 'A'.toNat + 10)
  else none

/-- The number that four digits in base sixteen write. -/
def hexUnit? (a b c d : Char) : Option Nat := do
  return (((← hexValue? a) * 16 + (← hexValue? b)) * 16 + (← hexValue? c)) * 16 + (← hexValue? d)

/-- The character that a one-letter escape stands for. -/
def escaped? (c : Char) : Option Char :=
  match c with
  | '"' => some '"'
  | '\\' => some '\\'
  | '/' => some '/'
  | 'b' => some '\x08'
  | 'f' => some '\x0c'
  | 'n' => some '\n'
  | 'r' => some '\r'
  | 't' => some '\t'
  | _ => none

/-- Reads the inside of a string up to its closing quote, as a list of code units and code points;
`opening` is the text from the opening quote on. -/
def readUnits (opening : List Char) : List Char → Except Fault (List Nat × List Char)
  | [] => .error (.syntactic .unterminatedString opening)
  | '"' :: text => .ok ([], text)
  | ['\\'] => .error (.syntactic .unterminatedString opening)
  | '\\' :: 'u' :: a :: b :: c :: d :: e :: text =>
    match hexUnit? a b c d with
    | some unit => do
      let (units, rest) ← readUnits opening (e :: text)
      return (unit :: units, rest)
    | none => .error (.syntactic .badUnicodeEscape ('u' :: a :: b :: c :: d :: e :: text))
  | '\\' :: 'u' :: text => .error (.syntactic .badUnicodeEscape ('u' :: text))
  | '\\' :: c :: text =>
    match escaped? c with
    | some plain => do
      let (units, rest) ← readUnits opening text
      return (plain.toNat :: units, rest)
    | none => .error (.syntactic .badEscape ('\\' :: c :: text))
  | c :: text =>
    if c.toNat < 0x20 then .error (.syntactic .controlCharacter (c :: text))
    else do
      let (units, rest) ← readUnits opening text
      return (c.toNat :: units, rest)

/-- Code units and code points as characters: two surrogates that belong together are one character,
and one alone is replaced. -/
def joinUnits : List Nat → List Char
  | [] => []
  | high :: low :: units =>
    if 0xd800 ≤ high && high < 0xdc00 && 0xdc00 ≤ low && low < 0xe000 then
      Char.ofNat (0x10000 + (high - 0xd800) * 0x400 + (low - 0xdc00)) :: joinUnits units
    else joinUnit high :: joinUnits (low :: units)
  | [unit] => [joinUnit unit]
where
  /-- A code unit that stands alone. -/
  joinUnit (unit : Nat) : Char :=
    if 0xd800 ≤ unit && unit < 0xe000 then '\ufffd' else Char.ofNat unit

/-- Reads a string whose opening quote stands at the start of `opening`. -/
def readString (opening : List Char) : Except Fault (String × List Char) := do
  let (units, rest) ← readUnits opening (opening.drop 1)
  return (String.ofList (joinUnits units), rest)

/-- An ASCII digit. -/
def isNumeralChar (c : Char) : Bool :=
  '0' ≤ c && c ≤ '9'

/-- The digits of a fraction after its point, when the text goes on with one. -/
def readPlaces (text : List Char) : List Char × List Char :=
  match text with
  | '.' :: d :: rest =>
    if isNumeralChar d then
      ((d :: rest).takeWhile isNumeralChar, (d :: rest).dropWhile isNumeralChar)
    else ([], text)
  | _ => ([], text)

/-- The exponent, when the text goes on with one. -/
def readExponent (text : List Char) : Option Int × List Char :=
  let digits (negative : Bool) (rest : List Char) : Option Int × List Char :=
    match rest.takeWhile isNumeralChar with
    | [] => (none, text)
    | found =>
      let size : Int := numeralValue found
      (some (if negative then -size else size), rest.dropWhile isNumeralChar)
  match text with
  | e :: rest =>
    if e = 'e' || e = 'E' then
      match rest with
      | '+' :: rest => digits false rest
      | '-' :: rest => digits true rest
      | rest => digits false rest
    else (none, text)
  | [] => (none, text)

/-- Reads a number whose sign has been taken; `start` is the text from the sign on. -/
def readMagnitude (negative : Bool) (start text : List Char) : Except Fault (Value × List Char) :=
  let whole :=
    match text with
    | '0' :: _ => ['0']
    | _ => text.takeWhile isNumeralChar
  if whole.isEmpty then .error (.syntactic .expectingValue start)
  else
    let (places, rest) := readPlaces (text.drop whole.length)
    let (exponent, rest) := readExponent rest
    if places.isEmpty && exponent.isNone then
      match readNumeral whole with
      | .ok size => .ok (.integer (if negative then -(size : Int) else size), rest)
      | .error fault => .error (.numeral fault)
    else
      .ok (.decimal (Binary64.ofDecimal negative (numeralValue (whole ++ places))
        (exponent.getD 0 - places.length)), rest)

/-- Values that are written as a word. -/
def wordValues : List (String × Value) :=
  [("null", .null), ("true", .flag true), ("false", .flag false), ("NaN", .decimal .notANumber),
    ("Infinity", .decimal (.infinite false)), ("-Infinity", .decimal (.infinite true))]

/-- Reads a number or a word. -/
def readScalar (text : List Char) : Except Fault (Value × List Char) :=
  match wordValues.find? (·.1.toList.isPrefixOf text) with
  | some (word, value) => .ok (value, text.drop word.length)
  | none =>
    match text with
    | '-' :: rest => readMagnitude true text rest
    | _ => readMagnitude false text text

mutual

/-- Reads one value from a text without leading white space. Containers may nest `depth` deep. -/
def readValue : (rounds depth : Nat) → List Char → Except Fault (Value × List Char)
  | 0, _, text => .error (.syntactic .expectingValue text)
  | rounds + 1, depth, text =>
    match text, depth with
    | '"' :: _, _ => do
      let (string, rest) ← readString text
      return (.text string, rest)
    | '[' :: _, 0 => .error (.nesting .list)
    | '[' :: rest, depth + 1 =>
      match skipSpace rest with
      | ']' :: rest => .ok (.list [], rest)
      | rest => do
        let (items, rest) ← readItems rounds depth rest
        return (.list items, rest)
    | '\x7b' :: _, 0 => .error (.nesting .table)
    | '\x7b' :: rest, depth + 1 =>
      match skipSpace rest with
      | '\x7d' :: rest => .ok (.table [], rest)
      | rest => do
        let (fields, rest) ← readFields rounds depth [] rest
        return (.table fields, rest)
    | _, _ => readScalar text

/-- Reads the items of a list up to its closing bracket. -/
def readItems : (rounds depth : Nat) → List Char → Except Fault (List Value × List Char)
  | 0, _, text => .error (.syntactic .expectingValue text)
  | rounds + 1, depth, text => do
    let (item, rest) ← readValue rounds depth text
    match skipSpace rest with
    | ']' :: rest => return ([item], rest)
    | ',' :: rest => do
      let (items, rest) ← readItems rounds depth (skipSpace rest)
      return (item :: items, rest)
    | rest => .error (.syntactic .expectingComma rest)

/-- Reads the fields of a table up to its closing brace, after the fields that were read before. -/
def readFields : (rounds depth : Nat) → Fields → List Char → Except Fault (Fields × List Char)
  | 0, _, _, text => .error (.syntactic .expectingName text)
  | rounds + 1, depth, before, text =>
    match text with
    | '"' :: _ => do
      let (key, rest) ← readString text
      match skipSpace rest with
      | ':' :: rest => do
        let (value, rest) ← readValue rounds depth (skipSpace rest)
        -- a key that comes again takes the later value, in the earlier place
        let fields := Fields.set key value before
        match skipSpace rest with
        | '\x7d' :: rest => return (fields, rest)
        | ',' :: rest => readFields rounds depth fields (skipSpace rest)
        | rest => .error (.syntactic .expectingComma rest)
      | rest => .error (.syntactic .expectingColon rest)
    | _ => .error (.syntactic .expectingName text)

end

/-- How deep lists and tables may nest. -/
def depthLimit : Nat := 985

/-- Reads a text that holds one value and nothing else. -/
def readChars (text : List Char) : Except Fault Value :=
  match text with
  | '\ufeff' :: _ => .error (.syntactic .byteOrderMark text)
  | _ => do
    let (value, rest) ← readValue (2 * text.length + 2) depthLimit (skipSpace text)
    match skipSpace rest with
    | [] => return value
    | rest => .error (.syntactic .extraData rest)

/-- The wording of a fault of `text`, with its line and column, which count from one, and its
offset, which counts from zero. -/
def Fault.message (text : List Char) : Fault → String
  | .numeral fault => fault.message
  | .nesting container =>
    "maximum recursion depth exceeded while decoding a JSON " ++ container.word
      ++ " from a unicode string"
  | .syntactic reason left =>
    let offset := text.length - left.length
    let before := text.take offset
    let line := before.count '\n' + 1
    let column := (before.reverse.takeWhile (· != '\n')).length + 1
    reason.message ++ ": line " ++ toString line ++ " column " ++ toString column
      ++ " (char " ++ toString offset ++ ")"

/-- Reads a text that holds one value and nothing else. -/
def read (text : String) : Except Fault Value :=
  readChars text.toList

end Reconcile.Json
