import Reconcile.Pattern.Program

/-!
# Tokens of patterns

The text of a pattern is cut into tokens: a character, or a backslash with the character after it.
`Reading` steps through them with one token of lookahead and carries what has been learned about
groups so far. The elementary steps are here: to look, to take, to accept, and to find a fault.
-/

namespace Reconcile.Pattern

/-- A character, or one after a backslash; a backslash at the end of the text is cut short. -/
inductive Token where
  | plain (c : Char)
  | escaped (c : Char)
  | cut

namespace Token

/-- The tokens of a text. -/
def scan : List Char → List Token
  | [] => []
  | ['\\'] => [cut]
  | '\\' :: c :: text => escaped c :: scan text
  | c :: text => plain c :: scan text

/-- The characters of a token. -/
def chars : Token → List Char
  | plain c => [c]
  | escaped c => ['\\', c]
  | cut => ['\\']

/-- A token as it stands in the text. -/
def text (token : Token) : String :=
  String.ofList token.chars

/-- Whether a token is a given character. -/
def isChar (c : Char) : Token → Bool
  | plain d => c = d
  | _ => false

end Token

/-- What the reader has reached: the tokens left, the position of the first of them, the names and
widths of the groups, the first group that a lookbehind must not refer to, the references that are
checked at the end, the flags of the whole pattern, and how deep the reader is inside groups. A
group's width is known once it is closed. -/
structure Progress where
  tokens : List Token
  position : Nat
  names : List (String × Nat)
  widths : List (Option Width)
  visibleBehind : Option Nat
  references : List (Nat × Nat)
  flags : Flags
  depth : Nat

/-- A reading step: it moves on or finds an error. -/
abbrev Reading := StateT Progress (Except ReadError)

/-- A fault at a position. -/
def failAtPosition {α : Type} (position : Nat) (cause : Cause) : Reading α :=
  throw (.fault ⟨cause, some position⟩)

/-- A fault `back` characters before the next token. -/
def failAt {α : Type} (back : Nat) (cause : Cause) : Reading α := do
  failAtPosition ((← get).position - back) cause

/-- How deep the reader can be inside groups. -/
def depthLimit : Nat := 987

/-- A reading step taken deeper inside groups. -/
def deeper {α : Type} (levels : Nat) (step : Reading α) : Reading α := do
  let depth := (← get).depth
  if depthLimit < depth + levels then throw (.excess .nesting)
  else
    modify fun progress => { progress with depth := depth + levels }
    let result ← step
    modify fun progress => { progress with depth }
    return result

/-- The next token, which stays. -/
def peek : Reading (Option Token) := do
  return (← get).tokens.head?

/-- Takes the next token. A cut token behind it is a fault at once. -/
def advance : Reading Unit := do
  let progress ← get
  match progress.tokens with
  | [] => return
  | token :: tokens =>
    let position := progress.position + token.chars.length
    set { progress with tokens, position }
    match tokens with
    | .cut :: _ => failAtPosition position .escapeAtEnd
    | _ => return

/-- Takes and yields the next token. -/
def take : Reading (Option Token) := do
  let token ← peek
  advance
  return token

/-- Takes the next token if it is a given character. -/
def accept (c : Char) : Reading Bool := do
  if (← peek).any (·.isChar c) then
    advance
    return true
  else return false

/-- Takes at most `limit` characters of a class. -/
def takeWhile (p : Char → Bool) : (limit : Nat) → Reading (List Char)
  | 0 => return []
  | limit + 1 => do
    match ← peek with
    | some (.plain c) =>
      if p c then do
        advance
        return c :: (← takeWhile p limit)
      else return []
    | _ => return []

/-- Takes a name up to its terminator. -/
def takeName (terminator : Char) (what : String) : (limit : Nat) → List Char → Reading (List Char)
  | 0, name => failAt name.length (.unterminatedName terminator)
  | limit + 1, name => do
    match ← take with
    | none =>
      if name.isEmpty then failAt 0 (.missing what)
      else failAt name.length (.unterminatedName terminator)
    | some token =>
      if token.isChar terminator then
        if name.isEmpty then failAt 1 (.missing what) else return name
      else takeName terminator what limit (name ++ token.chars)

/-- The width of a group that is referred to, which must be closed; a lookbehind may not refer to
groups that were opened inside it. -/
def groupWidth (back number : Nat) : Reading Width := do
  let progress ← get
  match progress.widths[number - 1]? with
  | some (some width) =>
    if progress.visibleBehind.any (· ≤ number) then failAt 0 .groupOfSameLookbehind
    else return width
  | _ => failAt back .openGroup

/-- A reference to a group. -/
def reference (back number : Nat) : Reading Expression := do
  return .sameAs number (← groupWidth back number)

end Reconcile.Pattern
