import Reconcile.Pattern.Token
import Reconcile.Text.CharName
import Reconcile.Text.Numeral

/-!
# Escapes and sets

An escape is a backslash with what follows it: a character that is hard to write, a class, a place,
or a reference to a group. Inside brackets some mean other things than outside. A bracketed set is a
list of characters, ranges and escapes.
-/

namespace Reconcile.Pattern

open Text

/-- An ASCII digit in base eight. -/
def isOctal (c : Char) : Bool :=
  '0' ≤ c && c ≤ '7'

/-- An ASCII digit. -/
def isAsciiDigit (c : Char) : Bool :=
  '0' ≤ c && c ≤ '9'

/-- An ASCII letter. -/
def isAsciiLetter (c : Char) : Bool :=
  ('a' ≤ c && c ≤ 'z') || ('A' ≤ c && c ≤ 'Z')

/-- An ASCII digit in base sixteen. -/
def isHex (c : Char) : Bool :=
  isAsciiDigit c || ('a' ≤ c && c ≤ 'f') || ('A' ≤ c && c ≤ 'F')

/-- An escape as it stands in the text. -/
def escapeText (letter : Char) (more : List Char) : String :=
  String.ofList ('\\' :: letter :: more)

/-- The code point of an escape that needs exactly `count` digits in base sixteen. -/
def hexEscape (letter : Char) (count : Nat) : Reading Nat := do
  let digits ← takeWhile isHex count
  let escape := escapeText letter digits
  if digits.length != count then failAt escape.length (.incompleteEscape escape)
  else
    let code := numberIn 16 digits
    if code < 0x110000 then return code else failAt escape.length (.badEscape escape)

/-- The code point of an escape by name. -/
def namedEscape (limit : Nat) : Reading Nat := do
  if ← accept '\x7b' then
    let name ← takeName '\x7d' "character name" limit []
    match CharName.code? name with
    | some code => return code
    | none => failAt (name.length + 4) (.unknownCharacterName (String.ofList name))
  else failAt 0 (.missing "\x7b")

/-- The code points of the one-letter escapes. -/
def controlEscape? (c : Char) : Option Nat :=
  match c with
  | 'a' => some 7
  | 'f' => some 12
  | 'n' => some 10
  | 'r' => some 13
  | 't' => some 9
  | 'v' => some 11
  | '\\' => some 92
  | _ => none

/-- The class of an escape. -/
def classEscape? (c : Char) : Option SetItem :=
  match c with
  | 'd' => some (.named false .digit)
  | 'D' => some (.named true .digit)
  | 's' => some (.named false .space)
  | 'S' => some (.named true .space)
  | 'w' => some (.named false .word)
  | 'W' => some (.named true .word)
  | _ => none

/-- The place of an escape. -/
def placeEscape? (c : Char) : Option Place :=
  match c with
  | 'A' => some .textStart
  | 'Z' => some .textEnd
  | 'b' => some (.wordEdge false)
  | 'B' => some (.wordEdge true)
  | _ => none

/-- The code point of an escape that is written with digits in base eight. -/
def octalValue (escape : String) (digits : List Char) : Reading Nat := do
  let code := numberIn 8 digits
  if 0o377 < code then failAt escape.length (.octalTooLarge escape) else return code

/-- The set item of an escape inside a set. -/
def setEscape (limit : Nat) (c : Char) : Reading SetItem := do
  match if c = 'b' then some 8 else controlEscape? c with
  | some code => return .one code
  | none =>
    match classEscape? c with
    | some item => return item
    | none =>
      if c = 'x' then return .one (← hexEscape c 2)
      else if c = 'u' then return .one (← hexEscape c 4)
      else if c = 'U' then return .one (← hexEscape c 8)
      else if c = 'N' then return .one (← namedEscape limit)
      else if isOctal c then do
        let digits := c :: (← takeWhile isOctal 2)
        return .one (← octalValue (String.ofList ('\\' :: digits)) digits)
      else if isAsciiDigit c || isAsciiLetter c then failAt 2 (.badEscape (escapeText c []))
      else return .one c.toNat

/-- The set item of a token inside a set. -/
def setItem (limit : Nat) : Token → Reading SetItem
  | .plain c => return .one c.toNat
  | .escaped c => setEscape limit c
  | .cut => failAt 0 .escapeAtEnd

/-- Reads the items of a set up to its closing bracket; `start` is the position of the opening
one. -/
def setItems (start : Nat) : (limit : Nat) → List SetItem → Reading (List SetItem)
  | 0, _ => failAtPosition start .unterminatedSet
  | limit + 1, items => do
    match ← take with
    | none => failAtPosition start .unterminatedSet
    | some this =>
      -- a bracket that comes first is a member of the set
      if this.isChar ']' && !items.isEmpty then return items
      else
        let first ← setItem limit this
        if ← accept '-' then
          match ← take with
          | none => failAtPosition start .unterminatedSet
          | some that =>
            -- a dash in front of the closing bracket is a member of the set
            if that.isChar ']' then return items ++ [first, .one '-'.toNat]
            else
              let last ← setItem limit that
              let bad : Reading (List SetItem) :=
                failAt (this.chars.length + 1 + that.chars.length) (.badRange this.text that.text)
              match first, last with
              | .one low, .one high =>
                if high < low then bad else setItems start limit (items ++ [.range low high])
              | _, _ => bad
        else setItems start limit (items ++ [first])

/-- The reference or the letter of an escape that starts with a digit other than zero: three digits
in base eight are a letter. -/
def digitEscape (c : Char) : Reading Expression := do
  let second ← takeWhile isAsciiDigit 1
  -- a third digit counts only if all three are of base eight
  let third ← if isOctal c && second.any isOctal then takeWhile isOctal 1 else pure []
  let digits := c :: second ++ third
  let escape := String.ofList ('\\' :: digits)
  if third.isEmpty then
    let number := numberIn 10 digits
    if number ≤ (← get).widths.length then reference escape.length number
    else failAt digits.length (.noSuchGroup number)
  else return .letter false (← octalValue escape digits)

/-- The member of an escape outside a set. -/
def escapeMember (limit : Nat) (c : Char) : Reading Expression := do
  match classEscape? c, placeEscape? c, controlEscape? c with
  | some item, _, _ => return .set false [item]
  | none, some place, _ => return .place place
  | none, none, some code => return .letter false code
  | none, none, none =>
    if c = 'x' then return .letter false (← hexEscape c 2)
    else if c = 'u' then return .letter false (← hexEscape c 4)
    else if c = 'U' then return .letter false (← hexEscape c 8)
    else if c = 'N' then return .letter false (← namedEscape limit)
    else if c = '0' then return .letter false (numberIn 8 (← takeWhile isOctal 2))
    else if isAsciiDigit c then digitEscape c
    else if isAsciiLetter c then failAt 2 (.badEscape (escapeText c []))
    else return .letter false c.toNat

end Reconcile.Pattern
