import Reconcile.Pattern.Escape
import Reconcile.Text.Identifier

/-!
# Groups

What stands between the opening parenthesis of a group and its contents says what the group is for:
to be referred to, to set flags, to look ahead or behind, to depend on another group, or nothing but
to hold its contents together. Some of these groups have no contents at all.
-/

namespace Reconcile.Pattern

open Text

/-! ## Names and numbers -/

/-- Checks the name of a group. -/
def checkGroupName (name : List Char) : Reading Unit := do
  if isIdentifier name then return
  else failAt (name.length + 1) (.badGroupName (String.ofList name))

/-- The group of a name. -/
def groupNamed (name : List Char) : Reading Nat := do
  match (← get).names.lookup (String.ofList name) with
  | some number => return number
  | none => failAt (name.length + 1) (.unknownGroupName (String.ofList name))

/-- Opens a group and yields its number. -/
def openGroup (name : Option (List Char)) : Reading Nat := do
  let progress ← get
  let number := progress.widths.length + 1
  let names ← match name with
    | none => pure progress.names
    | some chars => do
      let name := String.ofList chars
      match progress.names.lookup name with
      | some before => failAt (chars.length + 1) (.redefinedGroup name number before)
      | none => pure ((name, number) :: progress.names)
  set { progress with names, widths := progress.widths ++ [none] }
  return number

/-- Closes a group, whose width is known now. -/
def closeGroup (number : Nat) (width : Width) : Reading Unit :=
  modify fun progress => { progress with widths := progress.widths.set (number - 1) (some width) }

/-- Group numbers stay below this one. -/
def groupLimit : Nat := 1073741823

/-- Notes that a condition asks about a group by a number of `digits` characters; whether there is
such a group is checked at the end. -/
def noteReference (number digits : Nat) : Reading Unit :=
  modify fun progress =>
    if (progress.references.lookup number).isSome then progress
    else
      { progress with
        references := progress.references ++ [(number, progress.position - digits - 1)] }

/-- The group number that a condition gives. -/
def conditionNumber (text : List Char) : Reading Nat := do
  let back := text.length + 1
  match readInteger? (String.ofList text) with
  | some (.ofNat 0) => failAt back .badGroupNumber
  | some (.ofNat number) =>
    if groupLimit ≤ number then failAt back (.noSuchGroup number)
    else do
      noteReference number text.length
      return number
  | _ => failAt back (.badGroupName (String.ofList text))

/-- Reads the name or number of the group that a condition asks about. -/
def conditionGroup (limit : Nat) : Reading Nat := do
  let text ← takeName ')' "group name" limit []
  let number ← if isIdentifier text then groupNamed text else conditionNumber text
  if (← get).visibleBehind.isSome then
    let _ ← groupWidth 0 number
  return number

/-! ## Flags -/

/-- The flag of a letter. -/
def flagLetter? (c : Char) : Option FlagLetter :=
  match c with
  | 'i' => some .ignoreCase
  | 'm' => some .multiline
  | 's' => some .dotAll
  | 'x' => some .verbose
  | 'a' => some .ascii
  | 'u' => some .unicode
  | 't' => some .template
  | 'L' => some .locale
  | _ => none

/-- The flag of a token. -/
def flagToken? : Token → Option FlagLetter
  | .plain c => flagLetter? c
  | _ => none

/-- A token that is no flag where one was expected: a letter is an unknown flag. -/
def failNoFlag {α : Type} (token : Token) (otherwise : FlagFault) : Reading α :=
  let fault := if token.chars.all isLetter then .unknown else otherwise
  failAt token.chars.length (.flags fault)

/-- Reads flags that are turned on, `token` being the next, up to what ends them, which is
yielded. -/
def flagsOn : (limit : Nat) → List FlagLetter → Token → Reading (List FlagLetter × Char)
  | 0, _, token => failNoFlag token .noDashColonParen
  | limit + 1, before, token => do
    match flagToken? token with
    | none => failNoFlag token .noDashColonParen
    | some flag =>
      let found := before ++ [flag]
      if flag = .locale then failAt 0 (.flags .localeFlag)
      else if found.contains .ascii && found.contains .unicode then
        failAt 0 (.flags .incompatible)
      else
        match ← take with
        | none => failAt 0 (.flags .noDashColonParen)
        | some (.plain c) =>
          if c = ')' || c = '-' || c = ':' then return (found, c)
          else flagsOn limit found (.plain c)
        | some token => failNoFlag token .noDashColonParen

/-- Reads flags that are turned off, `token` being the next, up to the colon that ends them. -/
def flagsOff : (limit : Nat) → List FlagLetter → Token → Reading (List FlagLetter)
  | 0, _, token => failNoFlag token .noColon
  | limit + 1, before, token => do
    match flagToken? token with
    | none => failNoFlag token (if before.isEmpty then .noFlag else .noColon)
    | some flag =>
      if flag = .locale || flag = .ascii || flag = .unicode then failAt 0 (.flags .typeOff)
      else
        match ← take with
        | none => failAt 0 (.flags .noColon)
        | some token =>
          if token.isChar ':' then return before ++ [flag]
          else flagsOff limit (before ++ [flag]) token

/-- The flags of a group: those of the whole pattern, or those of what is in the group. -/
inductive FlagScope where
  | pattern (on : List FlagLetter)
  | group (on off : List FlagLetter)

/-- Reads the flags of a group, `token` being the first of them. -/
def flagScope (limit : Nat) (token : Token) : Reading FlagScope := do
  let (on, ending) ← if token.isChar '-' then pure ([], '-') else flagsOn limit [] token
  if ending = ')' then return .pattern on
  else if on.contains .template then failAt 1 (.flags .globalOn)
  else if ending = ':' then return .group on []
  else
    match ← take with
    | none => failAt 0 (.flags .noFlag)
    | some token =>
      let off ← flagsOff limit [] token
      if off.contains .template then failAt 1 (.flags .globalOff)
      else if on.any off.contains then failAt 1 (.flags .onAndOff)
      else return .group on off

/-! ## Heads -/

/-- What a group is for. -/
inductive GroupHead where
  | capture (name : Option (List Char))
  | plain
  | flagged (on off : List FlagLetter)
  | settled
  | look (ahead negated : Bool)
  | condition (number : Nat)
  | reference (member : Expression)
  | flags
  | comment

/-- Skips a comment up to its closing parenthesis; `start` is the position of the opening one. -/
def skipComment (start : Nat) : (limit : Nat) → Reading Unit
  | 0 => failAtPosition start .unterminatedComment
  | limit + 1 => do
    match ← take with
    | none => failAtPosition start .unterminatedComment
    | some token => if token.isChar ')' then return else skipComment start limit

/-- The next token, which must be there. -/
def demand : Reading Token := do
  match ← take with
  | none => failAt 0 .unexpectedEnd
  | some token => return token

/-- Reads the head of a group with a name, or the whole of a reference by name. -/
def namedHead (limit : Nat) : Reading GroupHead := do
  if ← accept '<' then
    let name ← takeName '>' "group name" limit []
    checkGroupName name
    return .capture (some name)
  else if ← accept '=' then
    let name ← takeName ')' "group name" limit []
    checkGroupName name
    return .reference (← reference (name.length + 1) (← groupNamed name))
  else
    let token ← demand
    failAt (token.chars.length + 2) (.unknownExtension ("P" ++ token.text))

/-- Reads the head of a lookbehind. -/
def behindHead : Reading GroupHead := do
  let token ← demand
  if token.isChar '=' then return .look false false
  else if token.isChar '!' then return .look false true
  else failAt (token.chars.length + 2) (.unknownExtension ("<" ++ token.text))

/-- Reads the head of a group with flags, or the whole of a group that sets flags of the pattern.
Only at its very start can the pattern have flags set. -/
def flagHead (limit start : Nat) (atStart : Bool) (token : Token) : Reading GroupHead := do
  match ← flagScope limit token with
  | .group on off => return .flagged on off
  | .pattern on =>
    if atStart then do
      modify fun progress => { progress with flags := on.foldl (Flags.turn true) progress.flags }
      return .flags
    else failAtPosition start .lateFlags

/-- Reads the head of a group that opened at `start`. `atStart` tells whether flags of the whole
pattern may stand here. -/
def groupHead (limit start : Nat) (atStart : Bool) : Reading GroupHead := do
  if !(← accept '?') then return .capture none
  else
    let token ← demand
    match token with
    | .plain 'P' => namedHead limit
    | .plain ':' => return .plain
    | .plain '#' => do
      skipComment start limit
      return .comment
    | .plain '=' => return .look true false
    | .plain '!' => return .look true true
    | .plain '<' => behindHead
    | .plain '(' => return .condition (← conditionGroup limit)
    | .plain '>' => return .settled
    | token =>
      if token.isChar '-' || (flagToken? token).isSome then flagHead limit start atStart token
      else failAt (token.chars.length + 1) (.unknownExtension token.text)

/-- Takes the parenthesis that closes the group opened at `start`. -/
def closeParen (start : Nat) : Reading Unit := do
  if ← accept ')' then return else failAtPosition start .unterminatedGroup

end Reconcile.Pattern
