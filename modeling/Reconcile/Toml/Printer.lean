import Reconcile.Text.Quoted
import Reconcile.Toml.Scalar
import Reconcile.Value.Basic

/-!
# Writing TOML

A table is written as lines `key = value`, followed by its sections and lists of sections in their
order, each under a header of its own with an empty line before it unless it is the first field of
its table. A section that holds nothing but sections needs no header. TOML has no null, so fields
and items that are null are left out first (`withoutNulls`).
-/

namespace Reconcile.Toml

open Text

mutual

/-- A value without the nulls in it. -/
def withoutNulls : Value → Value
  | .list items => .list (itemsWithoutNulls items)
  | .table fields => .table (fieldsWithoutNulls fields)
  | value => value

/-- List items without nulls. -/
def itemsWithoutNulls : List Value → List Value
  | [] => []
  | item :: items =>
    if item.isNull then itemsWithoutNulls items
    else withoutNulls item :: itemsWithoutNulls items

/-- Table fields without nulls. -/
def fieldsWithoutNulls : List (String × Value) → List (String × Value)
  | [] => []
  | (key, value) :: fields =>
    if value.isNull then fieldsWithoutNulls fields
    else (key, withoutNulls value) :: fieldsWithoutNulls fields

end

/-- A character inside a basic string. -/
def stringChar (c : Char) : List Char :=
  if c = '\x08' then ['\\', 'b']
  else if c = '\t' then ['\\', 't']
  else if c = '\n' then ['\\', 'n']
  else if c = '\x0c' then ['\\', 'f']
  else if c = '\r' then ['\\', 'r']
  else if c = '"' then ['\\', '"']
  else if c = '\\' then ['\\', '\\']
  else if c.toNat < 0x20 || c.toNat = 0x7f then '\\' :: 'u' :: hexDigits 4 c.toNat
  else [c]

/-- A basic string. -/
def string (text : String) : String :=
  String.ofList ('"' :: text.toList.flatMap stringChar ++ ['"'])

/-- A key, in quotes if it has to be. -/
def key (name : String) : String :=
  if name.isEmpty || !name.toList.all isKeyChar then string name else name

/-- Whether a value is a section. -/
def isSection : Value → Bool
  | .table _ => true
  | _ => false

/-- Whether a value is a list of sections. -/
def isSectionList : Value → Bool
  | .list (item :: items) => (item :: items).all isSection
  | _ => false

mutual

/-- A value on the right of an equals sign. `comma` stands between the fields if it is a table. -/
def inline (comma : String) : Value → String
  | .null => ""
  | .flag true => "true"
  | .flag false => "false"
  | .integer i => toString i
  | .decimal x => x.text
  | .text s => string s
  | .moment m => m.text
  | .list items => "[" ++ ", ".intercalate (inlineItems items) ++ "]"
  | .table fields => "\x7b" ++ comma.intercalate (inlineFields fields) ++ "\x7d"

/-- The items of a list on one line. -/
def inlineItems : List Value → List String
  | [] => []
  | item :: items => inline ", " item :: inlineItems items

/-- The fields of a table on one line. A table inside a table has no spaces after its commas. -/
def inlineFields : List (String × Value) → List String
  | [] => []
  | (name, value) :: fields => (key name ++ " = " ++ inline "," value) :: inlineFields fields

end

/-- A line for every field that is neither a section nor a list of sections. -/
def plainLines (fields : Fields) : List String :=
  (fields.filter fun field => !isSection field.2 && !isSectionList field.2).map fun field =>
    key field.1 ++ " = " ++ inline ", " field.2

/-- The name of a section inside another. -/
def sectionName (outer name : String) : String :=
  if outer.isEmpty then key name else outer ++ "." ++ key name

/-- Whether a table holds sections and nothing else, so that it needs no header. -/
def holdsOnlySections (fields : Fields) : Bool :=
  !fields.isEmpty && fields.all fun field => isSection field.2 || isSectionList field.2

/-- The header of a section, if it needs one. -/
def headerLines (full : String) : Value → List String
  | .table fields => if holdsOnlySections fields then [] else ["[" ++ full ++ "]"]
  | _ => []

/-- The empty line in front of a block, unless the block stands first. -/
def gapLines (first : Bool) : List String :=
  if first then [] else [""]

mutual

/-- The lines of a section below its header: plain fields, then blocks. -/
def bodyLines (full : String) : Value → List String
  | .table fields => plainLines fields ++ blockLines full true fields
  | _ => []

/-- The lines of every field that is a section or a list of sections. `first` tells that the table
has no field before these. -/
def blockLines (outer : String) (first : Bool) : List (String × Value) → List String
  | [] => []
  | (name, value) :: fields =>
    (if isSection value then
      gapLines first ++ headerLines (sectionName outer name) value
        ++ bodyLines (sectionName outer name) value
    else if isSectionList value then memberLines (sectionName outer name) first value
    else [])
      ++ blockLines outer false fields

/-- The lines of every section of a list. -/
def memberLines (full : String) (first : Bool) : Value → List String
  | .list items => itemLines full first items
  | _ => []

/-- The lines of several sections of one list. After an empty section there is no empty line. -/
def itemLines (full : String) (first : Bool) : List Value → List String
  | [] => []
  | item :: items =>
    gapLines first ++ ("[[" ++ full ++ "]]") :: bodyLines full item
      ++ itemLines full (!item.truth) items

end

/-- A table as a document. -/
def document (table : Fields) : String :=
  String.join ((bodyLines "" (withoutNulls (.table table))).map (· ++ "\n"))

end Reconcile.Toml
