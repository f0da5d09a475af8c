import Reconcile.Value.Basic

/-!
# Trees of sections

The lines of a settings document build up a tree: a line `key = value` adds a leaf, and a header
adds a section, whose place may be inside sections that no header has named yet. A document may come
back to a section after others, so a key can have several parts in one table, each of them a section;
what the key stands for is their union.

`Node.add` adds a part to a table. A name may be given once only; whether a section may be added to
hangs on how it came about, on how the addition did, and on what was added last. `Node.check` looks
for clashes among parts that were added without looking, and `Node.value` takes the unions.
-/

namespace Reconcile.Toml

/-- What is wrong with a document: it does not follow the grammar, a character stands where it must
not (with the text from there on), a key stands twice in one table, or a section is defined again. -/
inductive Fault where
  | malformed
  | unexpected (left : List Char)
  | keyTwice (key : String)
  | redefinition
deriving DecidableEq

/-- How a section came about: by a header of its own, by a header further down, by the header of a
list further down whose name is that of a list it stands in, or by a dotted key. -/
inductive Naming where
  | header
  | implied
  | member
  | dotted
deriving DecidableEq

/-- A part of a document. -/
inductive Node where
  | leaf (value : Value)
  | section (naming : Naming) (parts : List (String × Node))
  | sections (members : List Node)

/-- The parts of a table under their keys, in order. -/
abbrev Parts := List (String × Node)

namespace Node

/-- The parts of a section; nothing else has any. -/
def parts : Node → Parts
  | .section _ parts => parts
  | _ => []

/-- Whether a part is a section. -/
def isSection : Node → Bool
  | .section .. => true
  | _ => false

/-- The parts of a key. -/
def partsAt (key : String) (table : Parts) : List Node :=
  (table.filter (·.1 = key)).map Prod.snd

/-- The latest part of a key. -/
def latest? (key : String) (table : Parts) : Option Node :=
  (partsAt key table).getLast?

/-- The key of the section that was added last. -/
def latestSection? (table : Parts) : Option String :=
  (table.filter (·.2.isSection)).getLast?.map Prod.fst

/-- A table with another latest part of a key. -/
def replaceLatest (key : String) (node : Node) (table : Parts) : Parts :=
  let after := table.reverse.takeWhile (·.1 ≠ key)
  let before := table.reverse.drop (after.length + 1)
  before.reverse ++ (key, node) :: after.reverse

/-- A table in which one part stands for all of a key, where the first of them stood. -/
def replaceAll (key : String) (node : Node) (table : Parts) : Parts :=
  let before := table.takeWhile (·.1 ≠ key)
  let after := (table.drop (before.length + 1)).filter (·.1 ≠ key)
  before ++ (key, node) :: after

/-- Adds parts to a table without merging anything. What a repeated key stood for must have been a
section. -/
def gather (table : Parts) : Parts → Except Fault Parts
  | [] => .ok table
  | (key, node) :: rest =>
    match latest? key table with
    | none => gather (table ++ [(key, node)]) rest
    | some old =>
      if old.isSection then gather (table ++ [(key, node)]) rest else .error (.keyTwice key)

/-- The union of several parts of a key. -/
def union (nodes : List Node) : Except Fault Parts :=
  gather [] (nodes.flatMap parts)

/-- Whether a part can be looked at: several parts of one key must have a union. -/
def reachable (key : String) (table : Parts) : Except Fault Unit := do
  let nodes := partsAt key table
  if 1 < nodes.length then
    let _ ← union nodes

mutual

/-- Adds a part to a table. If `checked`, a key that gets another part is checked. -/
def add : (limit : Nat) → (checked : Bool) → Parts → String → Node → Except Fault Parts
  | 0, _, _, _, _ => .error .malformed
  | limit + 1, checked, table, key, node => do
    -- a key whose parts already clash cannot be added to
    reachable key table
    let apart (_ : Unit) : Except Fault Parts := do
      let wider := table ++ [(key, node)]
      if checked then checkKey limit wider key
      return wider
    match latest? key table, node with
    | none, node => return table ++ [(key, node)]
    | some (.sections before), .sections members =>
      return replaceLatest key (sections (before ++ members)) table
    | some _, .sections _ => .error (.keyTwice key)
    | some (.sections before), .section .member parts =>
      return replaceAll key (sections (before ++ [.section .member parts])) table
    | some (.section naming before), .section .member parts =>
      return replaceAll key (sections [.section naming before, .section .member parts]) table
    -- what lies below a list belongs to its latest member
    | some (.sections before), .section .implied parts =>
      match before.getLast? with
      | some (.section naming last) => do
        let last ← addAll limit last parts
        return replaceLatest key (sections (before.dropLast ++ [.section naming last])) table
      | _ => .error (.keyTwice key)
    | some (.section .header _), .section .header _ => .error (.keyTwice key)
    | some (.section .header _), .section .dotted _ => .error .redefinition
    | some (.section .header _), .section .implied _ => apart ()
    | some (.section .dotted _), .section .header _ => .error .redefinition
    | some (.section _ _), .section .header _ => apart ()
    | some (.section .dotted _), .section _ _ => apart ()
    | some (.section _ _), .section .dotted _ => apart ()
    | some (.section naming before), .section .implied parts =>
      -- sections that no header names grow together only while no other comes between
      if latestSection? table = some key then do
        let after ← addAll limit before parts
        return replaceLatest key (.section naming after) table
      else apart ()
    | some _, _ => .error (.keyTwice key)

/-- Adds parts to a table one after the other, checking each. -/
def addAll : (limit : Nat) → Parts → Parts → Except Fault Parts
  | 0, _, _ => .error .malformed
  | limit + 1, table, parts =>
    parts.foldlM (fun table part => add limit true table part.1 part.2) table

/-- Looks for a clash among several parts of a key. -/
def checkKey : (limit : Nat) → Parts → String → Except Fault Unit
  | 0, _, _ => .error .malformed
  | limit + 1, table, key => do
    let nodes := partsAt key table
    if 1 < nodes.length then
      let together ← (nodes.flatMap parts).foldlM
        (fun table part => add limit false table part.1 part.2) []
      check limit together

/-- Looks for clashes among the parts of every key of a table. -/
def check : (limit : Nat) → Parts → Except Fault Unit
  | 0, _ => .error .malformed
  | limit + 1, table => (table.map Prod.fst).eraseDups.forM (checkKey limit table)

end

mutual

/-- The value of a part. -/
def value : (limit : Nat) → Node → Except Fault Value
  | 0, _ => .error .malformed
  | _ + 1, leaf value => .ok value
  | limit + 1, .section _ parts => (fields limit parts).map .table
  | limit + 1, sections members => (members.mapM (value limit)).map .list

/-- The fields of a table. -/
def fields : (limit : Nat) → Parts → Except Fault Fields
  | 0, _ => .error .malformed
  | limit + 1, table =>
    (table.map Prod.fst).eraseDups.mapM fun key => do
      match partsAt key table with
      | [node] => return (key, ← value limit node)
      | nodes => return (key, .table (← fields limit (← union nodes)))

end

/-- A part at the end of a path, the sections on the way being named as `naming` says. -/
def nest (naming : Naming) (node : Node) : List String → Node
  | [] => node
  | key :: path => .section naming [(key, nest naming node path)]

end Node

end Reconcile.Toml
