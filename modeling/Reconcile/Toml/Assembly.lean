import Reconcile.Toml.Reader

/-!
# Reading a settings document

The statements of a document are put together into a tree. A header and the headers below it that
follow directly form a block, which is built and checked before it is added to the document; members
of one list that follow each other directly are collected first. What clashes inside a block is told
as what it is, a key that stands twice or a section that is defined again. A clash of a whole block,
or of an assignment above all headers, with what came before makes the document malformed.
-/

namespace Reconcile.Toml

/-- Adds a part at the end of a path. Parts that come about by dotted keys are always checked. -/
def addAt (limit : Nat) (checked : Bool) (naming : Naming) (path : List String) (node : Node)
    (table : Parts) : Except Fault Parts :=
  match path with
  | [] => .ok table
  | key :: path =>
    Node.add limit (checked || (naming = .dotted && !path.isEmpty)) table key
      (Node.nest naming node path)

/-- Adds the assignments that statements begin with; yields the statements after them. -/
def addAssignments (limit : Nat) (table : Parts) :
    List Statement → Except Fault (Parts × List Statement)
  | .assign path value :: rest => do
    let table ← addAt limit false .dotted path (.leaf value) table
    addAssignments limit table rest
  | .broken fault :: _ => .error fault
  | rest => .ok (table, rest)

/-- The part of a path below another path. -/
def below? (outer path : List String) : Option (List String) :=
  if outer.isPrefixOf path && outer.length < path.length then some (path.drop outer.length)
  else none

/-- The part that a header adds under the first name of its path, the rest of the path leading
through sections that no header names. `collecting` are the lists that are being collected: the
header of a list that starts with the name of one of them makes that name a list. -/
def headed (collecting : List (List String)) (listed : Bool) (inner : List String) (node : Node) :
    Node :=
  match inner with
  | first :: second :: path =>
    let nested := Node.nest .implied node (second :: path)
    match nested with
    | .section _ parts =>
      .section (if listed && collecting.contains [first] then .member else .implied) parts
    | nested => nested
  | _ => node

mutual

/-- Builds what stands under a header: its assignments, and the blocks of the headers below it. -/
def block : (limit : Nat) → (collecting : List (List String)) → (path : List String) →
    List Statement → Except Fault (Parts × List Statement)
  | 0, _, _, _ => .error .malformed
  | limit + 1, collecting, path, statements => do
    let (table, rest) ← addAssignments (limit + 1) [] statements
    let (table, rest) ← innerBlocks limit collecting path table rest
    -- assignments are added unchecked, so their clashes are looked for here
    Node.check (limit + 1) table
    return (table, rest)

/-- Adds the blocks of the headers below a path, as long as they follow directly. -/
def innerBlocks : (limit : Nat) → (collecting : List (List String)) → (path : List String) → Parts →
    List Statement → Except Fault (Parts × List Statement)
  | 0, _, _, _, _ => .error .malformed
  | limit + 1, collecting, path, table, statements =>
    match statements with
    | .header listed full :: rest =>
      match below? path full with
      | some inner => do
        let (node, rest) ← part limit collecting listed full inner rest
        let table ← addAt (limit + 1) false .implied (inner.take 1) node table
        innerBlocks limit collecting path table rest
      | none => .ok (table, statements)
    | .broken fault :: _ => .error fault
    | rest => .ok (table, rest)

/-- Builds the part that a header adds, whose path below the header it stands in is `inner`. -/
def part : (limit : Nat) → (collecting : List (List String)) → (listed : Bool) →
    (full inner : List String) → List Statement → Except Fault (Node × List Statement)
  | 0, _, _, _, _, _ => .error .malformed
  | limit + 1, collecting, listed, full, inner, statements => do
    let (table, rest) ← block limit collecting full statements
    let first : Node := .section .header table
    if !listed then return (headed collecting false inner first, rest)
    -- only a list right below the enclosing header collects what follows
    else if inner.length = 1 then do
      let (others, rest) ← members limit (full :: collecting) full rest
      return (.sections (first :: others), rest)
    else return (headed collecting true inner (.sections [first]), rest)

/-- Builds the further members of a list, as long as they follow directly. -/
def members : (limit : Nat) → (collecting : List (List String)) → (path : List String) →
    List Statement → Except Fault (List Node × List Statement)
  | 0, _, _, _ => .error .malformed
  | limit + 1, collecting, path, statements =>
    match statements with
    | .header true next :: rest =>
      if next = path then do
        let (table, rest) ← block limit collecting path rest
        let (others, rest) ← members limit collecting path rest
        return (.section .header table :: others, rest)
      else return ([], statements)
    | .broken fault :: _ => .error fault
    | rest => return ([], rest)

end

/-- A clash at the top of the document, where every clash is a fault of the document. -/
def atTop {α : Type} : Except Fault α → Except Fault α
  | .ok a => .ok a
  | .error _ => .error .malformed

/-- Adds the assignments above all headers. -/
def topAssignments (limit : Nat) (table : Parts) :
    List Statement → Except Fault (Parts × List Statement)
  | .assign path value :: rest => do
    let table ← atTop (addAt limit true .dotted path (.leaf value) table)
    topAssignments limit table rest
  | .broken fault :: _ => .error fault
  | rest => .ok (table, rest)

/-- Adds the blocks of a document. -/
def topBlocks : (limit : Nat) → Parts → List Statement → Except Fault Parts
  | 0, _, _ => .error .malformed
  | limit + 1, table, statements =>
    match statements with
    | .header listed path :: rest => do
      let (node, rest) ← part limit [] listed path path rest
      let table ← atTop (addAt (limit + 1) true .implied (path.take 1) node table)
      topBlocks limit table rest
    | .broken fault :: _ => .error fault
    | _ => .ok table

/-- Reads a document. -/
def read (text : String) : Except Fault Fields := do
  let chars := text.toList
  let limit := 4 * chars.length + 4
  let (table, rest) ← topAssignments limit [] (statements (chars.length + 1) chars)
  Node.fields limit (← topBlocks limit table rest)

end Reconcile.Toml
