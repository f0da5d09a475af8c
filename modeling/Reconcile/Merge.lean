import Reconcile.Diagnostic
import Reconcile.Policy

/-!
# Merging

Merging turns the stored diagnostics of a file into the ones to publish. Diagnostics with one key
(start and message) are one problem; of several records of a problem the canonical one is kept: the
gravest, then the one whose range, file, code, notes and producer come first. Where both producers
report a problem, the policy says whose record is taken. The result is ordered by start and message.
-/

namespace Reconcile

/-- The order of codes: a missing code counts as an empty one, and a missing target as an empty
target. -/
def Code.orderKey : Option Code → String × String × Bool
  | none => ("", "", false)
  | some code => (code.value, code.target.getD "", code.actionable)

namespace Diagnostic

/-- The canonical order among the records of one problem. -/
def canonicalOrder : Diagnostic → Diagnostic → Ordering :=
  compareLex (compareOn (·.severity.rank)) <|
  compareLex (compareOn (·.range)) <|
  compareLex (compareOn (·.file)) <|
  compareLex (compareOn fun d => (Code.orderKey d.code).1) <|
  compareLex (compareOn fun d => (Code.orderKey d.code).2.1) <|
  compareLex (compareOn fun d => (Code.orderKey d.code).2.2) <|
  compareLex (compareOn (·.notes)) (compareOn (·.source.tag))

/-- Whether a record is canonical rather than another. -/
def canonicalLess (a b : Diagnostic) : Bool :=
  canonicalOrder a b == .lt

/-- The order in which diagnostics are published. -/
def publicationOrder : Diagnostic → Diagnostic → Ordering :=
  compareLex (compareOn (·.range.start)) (compareLex (compareOn (·.message)) canonicalOrder)

end Diagnostic

namespace Merge

/-- Diagnostics in the order in which they are published. -/
def sorted (ds : List Diagnostic) : List Diagnostic :=
  ds.mergeSort fun a b => (Diagnostic.publicationOrder a b).isLE

/-- Adds a record to records of distinct problems: it takes the place of a record of its problem if
it is canonical rather than that one. -/
def keepCanonical (kept : List Diagnostic) (d : Diagnostic) : List Diagnostic :=
  match kept with
  | [] => [d]
  | e :: es =>
    -- the record that wins keeps the place of the first one
    if e.sameProblem d then (if d.canonicalLess e then d else e) :: es
    else e :: keepCanonical es d

/-- One record for every problem, ordered. -/
def distinct (ds : List Diagnostic) : List Diagnostic :=
  sorted (ds.foldl keepCanonical [])

/-- Adds a record in place of one of the same problem. -/
def override (kept : List Diagnostic) (d : Diagnostic) : List Diagnostic :=
  kept.filter (!·.sameProblem d) ++ [d]

/-- One record for every problem of two producers; where both report it, the second's is taken. -/
def withPrecedence (base incoming : List Diagnostic) : List Diagnostic :=
  sorted ((distinct incoming).foldl override (distinct base))

/-- The records of one producer. -/
def ofSource (source : Source) (ds : List Diagnostic) : List Diagnostic :=
  ds.filter (·.source = source)

end Merge

/-- The diagnostics to publish for a file, given all that is stored for it. -/
def merge (policy : Policy) (stored : List Diagnostic) : List Diagnostic :=
  let textual := Merge.ofSource .textual stored
  let structured := Merge.ofSource .structured stored
  match policy with
  | .structuredBase => Merge.withPrecedence structured textual
  | .textualBase => Merge.withPrecedence textual structured
  | .structuredOnly => Merge.distinct structured
  | .textualOnly => Merge.distinct textual
  | .unionAll => Merge.distinct (structured ++ textual)

end Reconcile
