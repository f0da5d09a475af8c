import Reconcile.Log.Entry
import Reconcile.Store
import Reconcile.Text.Quoted

/-!
# What the log says of the store

Normalizing tells of repaired links and dropped notes; a new generation tells how many records came
in, how many were healed, and how many of the compiler's went with them.
-/

namespace Reconcile

open Log Text

namespace Normalization

/-- An entry of the normalization log. -/
def remark (place : Nat) (message : String) : Entry :=
  ⟨.trace, ⟨"diagmerge.diagnostic.normalize", place⟩, message⟩

/-- What the log says of normalizing a code. -/
def codeEntries (how : Normalization) : Option Code → List Entry
  | none => []
  | some code =>
    if how.repairLinks then
      match how.rules.missingLink? code with
      | some link =>
        [remark 128 ("Repaired documentation link " ++ quoted (code.target.getD "") ++ " -> "
          ++ quoted link)]
      | none => []
    else []

/-- What the log says of normalizing notes. -/
def noteEntries (notes : List Note) : List Entry :=
  let dropped := notes.length - (distinctNotes notes).length
  if dropped = 0 then []
  else [remark 142 ("Dropped " ++ toString dropped ++ " repeated related note(s)")]

/-- What the log says of normalizing a diagnostic. -/
def entries (how : Normalization) (d : Diagnostic) : List Entry :=
  how.codeEntries d.code ++ noteEntries d.notes

end Normalization

namespace Store

/-- An entry of the store log. -/
def remark (place : Nat) (message : String) : Entry :=
  ⟨.debug, ⟨"diagmerge.engine.store", place⟩, message⟩

/-- What the log says of a new generation. -/
def ingestEntries (store : Store) (file : String) (source : Source) (ds : List Diagnostic) :
    List Entry :=
  let incoming := store.generation file source ds
  let current := store.get file
  let others := current.filter (·.source ≠ source)
  let purged := others.length - (kept source current incoming).length
  ds.flatMap store.normalization.entries
    ++ (if purged = 0 then []
      else
        [remark 132 ("Purged " ++ toString purged ++ " healed compiler diagnostic(s) in " ++ file)])
    ++ [remark 135 ("Ingested " ++ toString incoming.length ++ " " ++ source.tag
      ++ " diagnostic(s) for " ++ file ++ " ("
      ++ toString (healed source current incoming).length ++ " healed)")]

end Store

end Reconcile
