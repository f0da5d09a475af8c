import Reconcile.Text.Quoted
import Reconcile.Value.Basic

/-!
# Writing JSON

JSON is written in ASCII: every other character is escaped, one above the basic plane as its two
surrogates. `compact` puts a value on one line; `indented` gives every item a line of its own, two
spaces deeper than what holds it, and keeps empty lists and tables on one line.
-/

namespace Reconcile.Json

open Text

/-- The escape of one code unit. -/
def unitEscape (unit : Nat) : List Char :=
  '\\' :: 'u' :: hexDigits 4 unit

/-- A character inside a JSON string. -/
def stringChar (c : Char) : List Char :=
  if c = '"' then ['\\', '"']
  else if c = '\\' then ['\\', '\\']
  else if c = '\n' then ['\\', 'n']
  else if c = '\r' then ['\\', 'r']
  else if c = '\t' then ['\\', 't']
  else if c = '\x08' then ['\\', 'b']
  else if c = '\x0c' then ['\\', 'f']
  else if 0x20 ≤ c.toNat && c.toNat ≤ 0x7e then [c]
  else if c.toNat < 0x10000 then unitEscape c.toNat
  else
    let offset := c.toNat - 0x10000
    unitEscape (0xd800 + offset / 0x400) ++ unitEscape (0xdc00 + offset % 0x400)

/-- A JSON string. -/
def string (text : String) : String :=
  String.ofList ('"' :: text.toList.flatMap stringChar ++ ['"'])

/-- A value that holds no other value. -/
def scalar : Value → String
  | .null => "null"
  | .flag true => "true"
  | .flag false => "false"
  | .integer i => toString i
  | .decimal .notANumber => "NaN"
  | .decimal (.infinite negative) => if negative then "-Infinity" else "Infinity"
  | .decimal x => x.text
  | .text s => string s
  | .moment m => string m.text
  | .list _ => "[]"
  | .table _ => "\x7b\x7d"

mutual

/-- A value on one line. -/
def compact : Value → String
  | .list (item :: items) => "[" ++ ", ".intercalate (compactItems (item :: items)) ++ "]"
  | .table (field :: fields) =>
    "\x7b" ++ ", ".intercalate (compactFields (field :: fields)) ++ "\x7d"
  | value => scalar value

/-- List items on one line each. -/
def compactItems : List Value → List String
  | [] => []
  | item :: items => compact item :: compactItems items

/-- Table fields on one line each. -/
def compactFields : List (String × Value) → List String
  | [] => []
  | (key, value) :: fields => (string key ++ ": " ++ compact value) :: compactFields fields

end

/-- A line break and the indentation of a depth. -/
def lineAt (depth : Nat) : String :=
  String.ofList ('\n' :: List.replicate (2 * depth) ' ')

mutual

/-- A value over several lines, inside what stands at `depth`. -/
def indentedAt (depth : Nat) : Value → String
  | .list (item :: items) =>
    "[" ++ lineAt (depth + 1)
      ++ ("," ++ lineAt (depth + 1)).intercalate (indentedItems (depth + 1) (item :: items))
      ++ lineAt depth ++ "]"
  | .table (field :: fields) =>
    "\x7b" ++ lineAt (depth + 1)
      ++ ("," ++ lineAt (depth + 1)).intercalate (indentedFields (depth + 1) (field :: fields))
      ++ lineAt depth ++ "\x7d"
  | value => scalar value

/-- List items over several lines each. -/
def indentedItems (depth : Nat) : List Value → List String
  | [] => []
  | item :: items => indentedAt depth item :: indentedItems depth items

/-- Table fields over several lines each. -/
def indentedFields (depth : Nat) : List (String × Value) → List String
  | [] => []
  | (key, value) :: fields =>
    (string key ++ ": " ++ indentedAt depth value) :: indentedFields depth fields

end

/-- A value over several lines. -/
def indented (value : Value) : String :=
  indentedAt 0 value

end Reconcile.Json
