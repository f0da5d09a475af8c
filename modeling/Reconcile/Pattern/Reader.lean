import Reconcile.Pattern.Group
import Reconcile.Pattern.Matching

/-!
# Reading patterns

A pattern is a list of alternatives, an alternative a sequence of members, and a member may be
repeated. `alternatives` and `sequence` call each other for the contents of groups; every call but a
bounded number in a row takes a token, so the length of the text bounds their depth.

`Pattern.read` reads a text and works out its program; `Pattern.occursIn` looks for it in a line.
-/

namespace Reconcile.Pattern

open Text

/-! ## Repetitions -/

/-- A member of a sequence. A plain group is kept apart from what it holds until the sequence is
complete: it may be repeated as a whole. -/
inductive Member where
  | one (expression : Expression)
  | plain (members : List Expression)

/-- The expressions of a member. -/
def Member.expressions : Member → List Expression
  | one expression => [expression]
  | plain members => members

/-- The expressions of members, which are listed from the last to the first. -/
def members (items : List Member) : List Expression :=
  items.foldl (fun later member => member.expressions ++ later) []

/-- The number that the digits of a repetition write. -/
def roundCount (digits : List Char) : Reading Nat := do
  match readNumeral digits with
  | .error fault => throw (.excess (.numeral fault))
  | .ok count =>
    if 4294967295 ≤ count then throw (.excess .rounds) else return count

/-- The least and greatest number of rounds of a repetition in braces, if the braces hold one; the
opening brace has been taken. -/
def rounds? (limit : Nat) : Reading (Option (Nat × Option Nat)) := do
  let start ← get
  let low ← takeWhile isAsciiDigit limit
  let high ← if ← accept ',' then takeWhile isAsciiDigit limit else pure low
  if ← accept '\x7d' then
    let least ← if low.isEmpty then pure 0 else roundCount low
    let most ← if high.isEmpty then pure none else some <$> roundCount high
    if most.any (· < least) then failAtPosition start.position .leastAboveMost
    else return some (least, most)
  -- no repetition after all: the brace stands for itself, and what follows it is read again
  else do
    set start
    return none

/-- Reads the mark that tells how eager a repetition is. -/
def greedOf : Reading Greed := do
  if ← accept '?' then return .fewest
  else if ← accept '+' then return .mostOnly
  else return .most

/-- Repeats the last member of a sequence, the members being listed from the last to the first;
`start` is the position of the repetition. -/
def repeatLast (start least : Nat) (most : Option Nat) (items : List Member) :
    Reading (List Member) := do
  match items with
  | [] => failAtPosition start .nothingToRepeat
  | .one (.place _) :: _ => failAtPosition start .nothingToRepeat
  | .one (.repeated ..) :: _ => failAtPosition start .multipleRepeat
  | .one body :: before => return .one (.repeated (← greedOf) least most body) :: before
  | .plain inner :: before =>
    return .one (.repeated (← greedOf) least most (.sequence inner)) :: before

/-! ## Sequences and alternatives -/

/-- White space that a verbose pattern may hold anywhere. -/
def isVerboseSpace (c : Char) : Bool :=
  c = ' ' || c = '\t' || c = '\n' || c = '\r' || c = '\x0b' || c = '\x0c'

/-- Skips a comment of a verbose pattern up to the end of its line. -/
def skipLine : (limit : Nat) → Reading Unit
  | 0 => return
  | limit + 1 => do
    match ← take with
    | none => return
    | some token => if token.isChar '\n' then return else skipLine limit

/-- Whether the contents of a group with flags are verbose. -/
def verboseInside (verbose : Bool) (on off : List FlagLetter) : Bool :=
  (verbose || on.contains .verbose) && !off.contains .verbose

mutual

/-- Reads alternatives. `top` tells that they are the whole pattern, and `first` that none of them
has been read yet. -/
def alternatives (top first : Bool) : (limit : Nat) → (verbose : Bool) →
    Reading (List (List Expression))
  | 0, _ => failAt 0 .unexpectedEnd
  | limit + 1, verbose => do
    let alternative ← sequence (top && first) limit verbose []
    if ← accept '|' then
      let progress ← get
      -- flags of the whole pattern take hold in the alternatives after them
      let verbose := if top then progress.flags.verbose else verbose
      return alternative :: (← alternatives top false limit verbose)
    else return [alternative]

/-- Reads the contents of a group that opened at `start`. -/
def contents (start : Nat) : (limit : Nat) → (verbose : Bool) → Reading (List Expression)
  | 0, _ => failAt 0 .unexpectedEnd
  | limit + 1, verbose => do
    let members := Expression.joined (← deeper 2 (alternatives false true limit verbose))
    closeParen start
    return members

/-- Reads a sequence after the members `items`, which are listed from the last to the first.
`first` tells that it starts the whole pattern. -/
def sequence (first : Bool) : (limit : Nat) → (verbose : Bool) → List Member →
    Reading (List Expression)
  | 0, _, _ => failAt 0 .unexpectedEnd
  | limit + 1, verbose, items => do
    let start := (← get).position
    let go (member : Expression) : Reading (List Expression) :=
      sequence first limit verbose (.one member :: items)
    match ← peek with
    | none => return members items
    -- a backslash with nothing behind it
    | some .cut => failAt 0 .escapeAtEnd
    | some (.escaped c) => do
      advance
      go (← escapeMember limit c)
    | some (.plain c) => do
      if c = '|' || c = ')' then return members items
      advance
      if verbose && isVerboseSpace c then sequence first limit verbose items
      else if verbose && c = '#' then do
        skipLine limit
        sequence first limit verbose items
      else if c = '[' then do
        let negated ← accept '^'
        go (.ofSet negated (← setItems start limit []))
      else if c = '*' then do
        sequence first limit verbose (← repeatLast start 0 none items)
      else if c = '+' then do
        sequence first limit verbose (← repeatLast start 1 none items)
      else if c = '?' then do
        sequence first limit verbose (← repeatLast start 0 (some 1) items)
      else if c = '\x7b' then do
        -- a pair of braces with nothing in it repeats nothing
        let found ← if (← peek).any (·.isChar '\x7d') then pure none else rounds? limit
        match found with
        | some (least, most) => sequence first limit verbose (← repeatLast start least most items)
        | none => go (.letter false c.toNat)
      else if c = '.' then go .any
      else if c = '^' then go (.place .start)
      else if c = '$' then go (.place .ending)
      else if c = '(' then do
        match ← groupHead limit start (first && items.isEmpty) with
        | .comment => sequence first limit verbose items
        | .flags => do
          let progress ← get
          sequence first limit progress.flags.verbose items
        | .reference member => go member
        | .capture name => do
          let number ← openGroup name
          let body := Expression.sequence (← contents start limit verbose)
          closeGroup number body.width
          go (.group number body)
        | .plain => do
          let inner ← contents start limit verbose
          sequence first limit verbose (.plain inner :: items)
        | .flagged on off => do
          let inner ← contents start limit (verboseInside verbose on off)
          go (.flagged on off (.sequence inner))
        | .settled => do
          go (.settled (.sequence (← contents start limit verbose)))
        | .look true negated => do
          go (.ahead negated (.sequence (← contents start limit verbose)))
        | .look false negated => do
          -- inside, only groups that were complete before the outermost lookbehind can be named
          let outer := (← get).visibleBehind
          modify fun progress =>
            { progress with
              visibleBehind := some (outer.getD (progress.widths.length + 1)) }
          let inner ← contents start limit verbose
          modify fun progress => { progress with visibleBehind := outer }
          go (.behind negated (.sequence inner))
        | .condition number => do
          let ifSet ← deeper 1 (sequence false limit verbose [])
          let ifUnset ←
            if ← accept '|' then deeper 1 (sequence false limit verbose []) else pure []
          if (← peek).any (·.isChar '|') then failAt 0 .tooManyBranches
          else do
            closeParen start
            go (.given number (.sequence ifSet) (.sequence ifUnset))
      else go (.letter false c.toNat)

end

/-! ## Patterns -/

/-- Reads a whole pattern. -/
def wholePattern (limit : Nat) : Reading Program := do
  if (← peek).any fun token => token matches .cut then failAt 0 .escapeAtEnd
  else do
    let expression := Expression.sequence
      (Expression.joined (← alternatives true true limit false))
    let progress ← get
    if progress.flags.ascii && progress.flags.unicode then throw (.excess .asciiAndUnicode)
    -- only a closing parenthesis can be left over
    else if (← peek).isSome then failAt 0 .unbalanced
    else
      match progress.references.find? (progress.widths.length < ·.1) with
      | some (number, position) => failAtPosition position (.noSuchGroup number)
      | none =>
        match expression.program progress.flags with
        | .ok program => return program
        | .error cause => throw (.fault ⟨cause, none⟩)

/-- Reads the text of a pattern. -/
def Program.read (text : String) : Except ReadError Program :=
  let tokens := Token.scan text.toList
  (wholePattern (4 * tokens.length + 4)).run' ⟨tokens, 0, [], [], none, [], .none, 0⟩

end Reconcile.Pattern

namespace Reconcile

/-- A pattern that could be read. -/
structure Pattern where
  text : String
  program : Pattern.Program

namespace Pattern

/-- Reads a pattern. -/
def read (text : String) : Except ReadError Pattern :=
  (Program.read text).map (⟨text, ·⟩)

/-- Whether a pattern matches somewhere in a line. -/
def occursIn (pattern : Pattern) (line : String) : Except CrossedGroup Bool :=
  pattern.program.occursIn line

end Pattern

end Reconcile
