import Reconcile.Toml.Scalar

/-!
# Statements of settings documents

A document is a sequence of statements: headers and assignments. `statements` takes a text apart
into them, up to the first place that does not follow the grammar; what they amount to is the
business of `Toml.Assembly`. A header whose key can be read counts as a statement even if what
follows the key is broken.

Lists are lenient in one point: an item that breaks off at a closing bracket is dropped, and the
list ends there.
-/

namespace Reconcile.Toml

open Text

/-- One statement of a document: a header (of a section, or of one in a list), an assignment, or
text that cannot be read. -/
inductive Statement where
  | header (listed : Bool) (path : List String)
  | assign (path : List String) (value : Value)
  | broken (fault : Fault)

/-- The text without leading blanks. -/
def skipSpace (text : List Char) : List Char :=
  text.dropWhile isSpace

/-! ## Keys -/

/-- One part of a dotted key, with the blanks after it. A key without quotes may hold tabs, but
neither start nor end with one. -/
def keyPart (text : List Char) : Except Fault (String × List Char) :=
  match longString? text, shortString? text with
  | some read, _ => read.bind fun (_, left) => .error (.unexpected left)
  | none, some read => read.map fun (key, text) => (String.ofList key, skipSpace text)
  | none, none =>
    let run := text.takeWhile fun c => isKeyChar c || isSpace c
    let key := trimBy isSpace run
    if key.isEmpty || key.contains ' ' then .error .malformed
    else .ok (String.ofList key, text.drop run.length)

/-- A dotted key. -/
def keyPath : (limit : Nat) → Reader (List String)
  | 0, _ => .error .malformed
  | limit + 1, text => do
    let (key, text) ← keyPart (skipSpace text)
    match text with
    | '.' :: text => do
      let (others, text) ← keyPath limit text
      return (key :: others, text)
    | text => return ([key], text)

/-- The text after the one equals sign, and the blanks around it, that stand between a key and its
value. -/
def afterEquals (text : List Char) : Except Fault (List Char) :=
  match skipSpace text with
  | '=' :: text =>
    match skipSpace text with
    | '=' :: text => .error (.unexpected ('=' :: text))
    | text => .ok text
  | text => .error (.unexpected text)

/-! ## Gaps -/

/-- The text after a comment, if one starts here; a comment runs up to its line end. -/
def skipComment (text : List Char) : Except Fault (List Char) :=
  match text with
  | '#' :: text =>
    let comment := text.takeWhile (· != '\n')
    if comment.any isForbidden then .error .malformed else .ok (text.drop comment.length)
  | text => .ok text

/-- The text after blanks, line ends and comments. -/
def skipGaps : (limit : Nat) → List Char → Except Fault (List Char)
  | 0, _ => .error .malformed
  | limit + 1, text =>
    match text.dropWhile isGap with
    | '#' :: rest => do
      let rest ← skipComment ('#' :: rest)
      skipGaps limit rest
    | rest => .ok rest

/-- The text after blanks, line ends and comments. -/
def skipAllGaps (text : List Char) : Except Fault (List Char) :=
  skipGaps (text.length + 1) text

/-! ## Values -/

mutual

/-- Reads a value. -/
def value : (limit : Nat) → Reader Value
  | 0, _ => .error .malformed
  | limit + 1, text =>
    match text with
    | '[' :: text => (items limit false text).map fun (items, text) => (.list items, text)
    | '\x7b' :: text => do
      let (parts, text) ← braced limit [] text
      return (.table (← Node.fields (text.length + limit + 1) parts), text)
    | text => scalar text

/-- Reads the items of a list up to its closing bracket. `complete` tells that an item stands right
before the text, so that a comma or the bracket must follow. -/
def items : (limit : Nat) → (complete : Bool) → Reader (List Value)
  | 0, _, _ => .error .malformed
  | limit + 1, complete, text => do
    let text ← skipAllGaps text
    match complete, text with
    | true, ',' :: text => items limit false text
    | true, ']' :: text => return ([], text)
    | true, text => .error (.unexpected text)
    | false, text =>
      match value limit text with
      | .ok (item, text) => do
        let (others, text) ← items limit true text
        return (item :: others, text)
      -- an item that breaks off at the closing bracket is dropped
      | .error (.unexpected (']' :: text)) => return ([], text)
      | .error fault => .error fault

/-- Reads the fields of a table in braces up to its closing brace, after the parts that were read
before. A comma may stand before the brace. -/
def braced : (limit : Nat) → Parts → Reader Parts
  | 0, _, _ => .error .malformed
  | limit + 1, before, text => do
    match (← skipAllGaps text) with
    | '\x7d' :: text => return (before, text)
    | ',' :: text => .error (.unexpected (',' :: text))
    | text => do
      let (path, item, text) ← assignment limit text
      let after ← match path with
        | [] => pure before
        | [key] => Node.add (limit + 1) true before key (.leaf item)
        | key :: path =>
          Node.add (limit + 1) true before key (Node.nest .dotted (.leaf item) path)
      match (← skipAllGaps text) with
      | ',' :: text => braced limit after text
      | '\x7d' :: text => return (after, text)
      | text => .error (.unexpected text)

/-- Reads a key, an equals sign and a value. -/
def assignment : (limit : Nat) → (text : List Char) →
    Except Fault (List String × Value × List Char)
  | 0, _ => .error .malformed
  | limit + 1, text => do
    let (path, text) ← keyPath (text.length + 1) text
    let (item, text) ← value limit (← afterEquals text)
    return (path, item, text)

end

/-! ## Statements -/

/-- The text after the rest of a line that holds nothing more than blanks and a comment. -/
def endLine (text : List Char) : Except Fault (List Char) := do
  match (← skipComment (skipSpace text)) with
  | [] => return []
  | '\n' :: text => return text
  | _ => .error .malformed

/-- What follows the key of a header. The second bracket that closes the header of a list may be any
character. -/
def endHeader (listed : Bool) (text : List Char) : Except Fault (List Char) :=
  match listed, text with
  | false, ']' :: text => endLine text
  | true, ']' :: text => endLine (text.drop 1)
  | _, _ => .error .malformed

/-- The statements of a text. -/
def statements : (limit : Nat) → List Char → List Statement
  | 0, _ => [.broken .malformed]
  | limit + 1, text =>
    let header (listed : Bool) (text : List Char) : List Statement :=
      match keyPath (text.length + 1) text with
      | .error fault => [.broken fault]
      | .ok (path, text) =>
        -- the header counts, whatever is wrong with the rest of its line
        .header listed path ::
          match endHeader listed text with
          | .error fault => [.broken fault]
          | .ok text => statements limit text
    match skipAllGaps text with
    | .error fault => [.broken fault]
    | .ok [] => []
    | .ok ('[' :: '[' :: text) => header true text
    | .ok ('[' :: text) => header false text
    | .ok text =>
      match assignment (4 * text.length + 4) text with
      | .error fault => [.broken fault]
      | .ok (path, item, text) =>
        match endLine text with
        | .error fault => [.broken fault]
        | .ok text => .assign path item :: statements limit text

end Reconcile.Toml
