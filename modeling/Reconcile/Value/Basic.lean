import Reconcile.Decimal.Shortest
import Reconcile.Text.Numeral
import Reconcile.Text.Quoted
import Reconcile.Value.Moment

/-!
# Values of documents

Settings and payloads are documents: trees of tables, lists and scalars. `Value` is the one type for
both formats that are read here. The fields of a table keep the order of the document, and a key
stands once. `shown` is the one-line form that messages quote.
-/

namespace Reconcile

open Decimal Text

/-- A value of a document. -/
inductive Value where
  | null
  | flag (flag : Bool)
  | integer (integer : Int)
  | decimal (decimal : Binary64)
  | text (text : String)
  | moment (moment : Moment)
  | list (items : List Value)
  | table (fields : List (String × Value))

/-- The fields of a table. -/
abbrev Fields := List (String × Value)

namespace Value

/-- The name of the kind of a value. -/
def kind : Value → String
  | null => "NoneType"
  | flag _ => "bool"
  | integer _ => "int"
  | decimal _ => "float"
  | text _ => "str"
  | moment m => m.kind
  | list _ => "list"
  | table _ => "dict"

/-- Whether a value is null. -/
def isNull : Value → Bool
  | null => true
  | _ => false

/-- Whether a value counts as true: anything but null, false, zero and what is empty. -/
def truth : Value → Bool
  | null => false
  | flag b => b
  | integer i => i != 0
  | decimal x => !x.isZero
  | text s => !s.isEmpty
  | moment _ => true
  | list items => !items.isEmpty
  | table fields => !fields.isEmpty

mutual

/-- The one-line form of a value. -/
def shown : Value → String
  | null => "None"
  | flag true => "True"
  | flag false => "False"
  | integer i => toString i
  | decimal x => x.text
  | text s => quoted s
  | moment m => m.text
  | list items => "[" ++ ", ".intercalate (shownItems items) ++ "]"
  | table fields => "\x7b" ++ ", ".intercalate (shownFields fields) ++ "\x7d"

/-- The one-line forms of list items. -/
def shownItems : List Value → List String
  | [] => []
  | item :: items => item.shown :: shownItems items

/-- The one-line forms of table fields. -/
def shownFields : List (String × Value) → List String
  | [] => []
  | (key, value) :: fields => (quoted key ++ ": " ++ value.shown) :: shownFields fields

end

mutual

/-- Whether a value can be shown: no number in it is too long to be written. -/
def isWritable : Value → Bool
  | integer i => Text.isWritable i
  | list items => itemsWritable items
  | table fields => fieldsWritable fields
  | _ => true

/-- Whether list items can be shown. -/
def itemsWritable : List Value → Bool
  | [] => true
  | item :: items => item.isWritable && itemsWritable items

/-- Whether table fields can be shown. -/
def fieldsWritable : List (String × Value) → Bool
  | [] => true
  | (_, value) :: fields => value.isWritable && fieldsWritable fields

end

/-- A value inside a sentence: a text stands for itself, anything else is shown. -/
def plain : Value → String
  | text s => s
  | value => value.shown

end Value

namespace Fields

/-- The value of a field, null when the table has no such field. -/
def get (fields : Fields) (key : String) : Value :=
  (fields.lookup key).getD .null

/-- Sets a field: a key that is there keeps its place. -/
def set (key : String) (value : Value) : Fields → Fields
  | [] => [(key, value)]
  | field :: fields =>
    if field.1 = key then (key, value) :: fields else field :: set key value fields

end Fields

end Reconcile
