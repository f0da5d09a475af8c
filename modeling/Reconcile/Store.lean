import Reconcile.Diagnostic.Normal
import Reconcile.FileMap

/-!
# The store

The store holds what both producers last reported for each file. A producer reports a file as a
whole: a new generation replaces its old one. When the language service no longer reports a problem,
the problem is healed, and the compiler's record of the same problem goes with it. Files keep the
order in which they were first reported, and stay even when nothing is left to report.
-/

namespace Reconcile

/-- What the producers reported, file by file, and how new reports are normalized. -/
structure Store where
  normalization : Normalization
  reports : FileMap (List Diagnostic)

namespace Store

/-- A store that holds nothing. -/
def empty (normalization : Normalization) : Store :=
  ⟨normalization, .empty⟩

/-- The stored diagnostics of a file, of both producers. -/
def get (store : Store) (file : String) : List Diagnostic :=
  (store.reports.get? file).getD []

/-- The files, in the order in which they were first reported. -/
def files (store : Store) : List String :=
  store.reports.files

/-- A report as it is stored for a file and a producer. -/
def normalized (store : Store) (file : String) (source : Source) (d : Diagnostic) : Diagnostic :=
  ((d.normalize store.normalization).withFile file).withSource source

/-- A new generation as it is stored. -/
def generation (store : Store) (file : String) (source : Source) (ds : List Diagnostic) :
    List Diagnostic :=
  ds.map (store.normalized file source)

/-- Whether a diagnostic names the same problem as one of a list. -/
def reportedIn (ds : List Diagnostic) (d : Diagnostic) : Bool :=
  ds.any d.sameProblem

/-- What a new generation heals: the producer's old records; for the language service only those
whose problem is not reported again. -/
def healed (source : Source) (current incoming : List Diagnostic) : List Diagnostic :=
  let old := current.filter (·.source = source)
  match source with
  | .structured => old.filter (!reportedIn incoming ·)
  | .textual => old

/-- What a new generation leaves of the other producer's records: when the language service reports,
those whose problem is not healed. -/
def kept (source : Source) (current incoming : List Diagnostic) : List Diagnostic :=
  let others := current.filter (·.source ≠ source)
  match source with
  -- a problem healed for one producer is healed for the other
  | .structured => others.filter (!reportedIn (healed source current incoming) ·)
  | .textual => others

/-- Replaces what a producer reports for a file. Yields the healed records too. -/
def ingest (store : Store) (file : String) (source : Source) (ds : List Diagnostic) :
    Store × List Diagnostic :=
  let incoming := store.generation file source ds
  let current := store.get file
  ({ store with reports := store.reports.set file (kept source current incoming ++ incoming) },
    healed source current incoming)

/-- Forgets a file. -/
def remove (store : Store) (file : String) : Store :=
  { store with reports := store.reports.erase file }

/-- Drops every record of a producer; the files stay. -/
def removeSource (store : Store) (source : Source) : Store :=
  { store with reports := store.reports.mapValues fun _ ds => ds.filter (·.source ≠ source) }

/-- Forgets every file. -/
def clear (store : Store) : Store :=
  { store with reports := .empty }

end Store

end Reconcile
