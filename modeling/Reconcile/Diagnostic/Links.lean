import Reconcile.Diagnostic
import Reconcile.Text.Passage

/-!
# Documentation links

The target of a diagnostic's code may be a documentation link that was resolved as a local path,
such as `/pkg/https:/docs.swift.org/compiler/x`. `LinkRules.link?` turns it back into the link it
was; a target that names a documentation file is a link as it stands. A code whose link is found
becomes actionable, and an actionable code is never touched again.
-/

namespace Reconcile

open Text

/-- What is taken for documentation: hosts, whose links may stand inside a path, and suffixes of
documentation files. -/
structure LinkRules where
  hosts : List String
  suffixes : List String
deriving DecidableEq

namespace LinkRules

/-- The hosts and suffixes that are known without any settings. -/
def standard : LinkRules :=
  ⟨["docs.swift.org"], [".md"]⟩

/-- The start of a link to a host, its slashes written with `slash`. -/
def linkStart (host : List Char) (slash : Char) : Passage :=
  Passage.literal 'h' ("ttps:".toList ++ slash :: host ++ [slash])

/-- The link to `page` of a host. -/
def linkTo (host page : List Char) : List Char :=
  ("https://".toList ++ host ++ '/' :: page ++ ['/']).map fun c => if c = '\\' then '/' else c

/-- The link that a target holds for a host, if it holds one. -/
def linkIn? (target host : List Char) : Option (List Char) :=
  ['/', '\\'].findSome? fun slash =>
    ((linkStart host slash).afterLast? target).map (linkTo host)

/-- The link that a target stands for, if it is documentation. -/
def link? (rules : LinkRules) (target : String) : Option String :=
  match rules.hosts.findSome? fun host => linkIn? target.toList host.toList with
  | some link => some (String.ofList link)
  | none =>
    if rules.suffixes.any fun suffix => suffix.toList.isSuffixOf target.toList then some target
    else none

/-- The value of every code whose link was found. -/
def linkedValue : String := "More Information..."

/-- The link that a code should get, if it has none yet and its target stands for one. -/
def missingLink? (rules : LinkRules) (code : Code) : Option String :=
  match code.target with
  | some target => if code.actionable then none else rules.link? target
  | none => none

/-- The code with its link. -/
def repair (rules : LinkRules) (code : Code) : Code :=
  match rules.missingLink? code with
  | some link => ⟨linkedValue, some link, true⟩
  | none => code

/-- A code that has its link misses none. -/
theorem missingLink?_repair (rules : LinkRules) (code : Code) :
    rules.missingLink? (rules.repair code) = none := by
  rw [repair]
  split
  next => rfl
  next h => exact h

/-- The code is left alone exactly if it misses no link. -/
theorem repair_eq_self_iff {rules : LinkRules} {code : Code} :
    rules.repair code = code ↔ rules.missingLink? code = none := by
  constructor
  · intro h
    rw [← h]
    exact missingLink?_repair rules code
  · intro h
    rw [repair, h]

/-- Only a code with a target that cannot be opened as it stands misses a link. -/
theorem missingLink?_eq_some_iff {rules : LinkRules} {code : Code} {link : String} :
    rules.missingLink? code = some link ↔
      ∃ target, code.target = some target ∧ code.actionable = false ∧
        rules.link? target = some link := by
  rw [missingLink?]
  cases code.target <;> cases code.actionable <;> simp

end LinkRules

end Reconcile
