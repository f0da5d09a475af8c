import Reconcile.Pattern.CharTest

/-!
# Expressions of patterns

An expression is a pattern as it was read. It says what is written, and leaves open what that means
under the flags in force: `Pattern.Program` decides that.

Alternatives are read as lists of members and joined by `joined`, which takes out what all of them
start with and makes a set of alternatives that are single letters and sets. `Expression.width` says
how much text an expression takes.
-/

namespace Reconcile.Pattern

/-- The letters that stand for flags. -/
inductive FlagLetter where
  | ignoreCase
  | multiline
  | dotAll
  | verbose
  | ascii
  | unicode
  | template
  | locale
deriving DecidableEq

/-- Places between characters: the start and end of the text, the places that flags may make the
starts and ends of lines, and the edges of words. -/
inductive Place where
  | start
  | ending
  | textStart
  | textEnd
  | wordEdge (negated : Bool)
deriving DecidableEq

/-- How a repetition chooses the number of rounds: as many as possible first, as few as possible
first, or as many as possible without going back on it. -/
inductive Greed where
  | most
  | fewest
  | mostOnly

/-- The least and the greatest number of characters that something takes. -/
structure Width where
  least : Nat
  most : Nat
deriving DecidableEq

/-- Widths are counted up to this one, which stands for all that lies beyond as well. -/
def Width.bound : Nat := 0x10000000000000000

/-- A width cut off at the bound. -/
def Width.ofCounts (least most : Nat) : Width :=
  ⟨min least bound, min most bound⟩

/-- An expression. `either` tries its first part and then the others; `never`, which nothing
matches, ends the list of alternatives. -/
inductive Expression where
  | empty
  | never
  | letter (negated : Bool) (code : Nat)
  | any
  | set (negated : Bool) (items : List SetItem)
  | place (place : Place)
  | both (first second : Expression)
  | either (first others : Expression)
  | repeated (greed : Greed) (least : Nat) (most : Option Nat) (body : Expression)
  | group (number : Nat) (body : Expression)
  | flagged (on off : List FlagLetter) (body : Expression)
  | settled (body : Expression)
  | ahead (negated : Bool) (body : Expression)
  | behind (negated : Bool) (body : Expression)
  | sameAs (number : Nat) (width : Width)
  | given (number : Nat) (ifSet ifUnset : Expression)

namespace Expression

/-- The width of an expression. -/
def width : Expression → Width
  | empty => ⟨0, 0⟩
  | never => ⟨Width.bound, 0⟩
  | letter _ _ => ⟨1, 1⟩
  | any => ⟨1, 1⟩
  | set _ _ => ⟨1, 1⟩
  | place _ => ⟨0, 0⟩
  | both a b => .ofCounts (a.width.least + b.width.least) (a.width.most + b.width.most)
  | either a b => ⟨min a.width.least b.width.least, max a.width.most b.width.most⟩
  | repeated _ least most body =>
    let greatest := match most with
      | some most => body.width.most * most
      | none => if body.width.most = 0 then 0 else Width.bound
    .ofCounts (body.width.least * least) greatest
  | group _ body => body.width
  | flagged _ _ body => body.width
  | settled body => body.width
  | ahead _ _ => ⟨0, 0⟩
  | behind _ _ => ⟨0, 0⟩
  | sameAs _ width => width
  | given _ a b => ⟨min a.width.least b.width.least, max a.width.most b.width.most⟩

/-- The expression of a sequence of members. -/
def sequence : List Expression → Expression
  | [] => empty
  | [member] => member
  | member :: members => both member (sequence members)

/-- Whether two members are the same, as far as that is looked at: only members without parts are
ever found to be. -/
def isSame : Expression → Expression → Bool
  | letter negated code, letter negated' code' => negated = negated' && code = code'
  | any, any => true
  | set negated items, set negated' items' => negated = negated' && items = items'
  | .place p, .place q => p = q
  | sameAs number _, sameAs number' _ => number = number'
  | _, _ => false

/-! ## Alternatives -/

/-- Takes out the members that the first alternative and all others start with. -/
def splitCommon : List Expression → List (List Expression) →
    List Expression × List (List Expression)
  | [], others => ([], [] :: others)
  | head :: tail, others =>
    if others.all fun other => other.head?.any head.isSame then
      let (common, rest) := splitCommon tail (others.map (·.drop 1))
      (head :: common, rest)
    else ([], (head :: tail) :: others)

/-- What an alternative adds to a set, if it is nothing but a letter or a set. -/
def setItems? : List Expression → Option (List SetItem)
  | [letter false code] => some [.one code]
  | [set false items] => some items
  | _ => none

/-- The members that alternatives come to. -/
def joined : List (List Expression) → List Expression
  | [] => []
  | [only] => only
  | first :: others =>
    let (common, rest) := splitCommon first others
    let last := match rest.mapM setItems? with
      | some lists => set false lists.flatten.eraseDups
      | none => rest.foldr (fun alternative others => either (sequence alternative) others) never
    common ++ [last]

/-- The member that a bracketed set comes to: a set of a single letter is that letter. -/
def ofSet (negated : Bool) (items : List SetItem) : Expression :=
  match items.eraseDups with
  | [.one code] => letter negated code
  | items => set negated items

end Expression

end Reconcile.Pattern
