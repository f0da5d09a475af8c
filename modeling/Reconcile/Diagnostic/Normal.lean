import Reconcile.Diagnostic.Links
import Reconcile.Diagnostic.Wording

/-!
# Normal diagnostics

Before diagnostics are compared they are brought to a normal form: the message in the wording both
producers share, every note once, and, if asked for, the code with its documentation link.
-/

namespace Reconcile

/-- How diagnostics are normalized: whether links are repaired, and by which rules. -/
structure Normalization where
  repairLinks : Bool
  rules : LinkRules
deriving DecidableEq

namespace Normalization

/-- Links are repaired by the standard rules. -/
def standard : Normalization :=
  ⟨true, .standard⟩

/-- The code as normalization leaves it. -/
def code (how : Normalization) (code : Option Code) : Option Code :=
  if how.repairLinks then code.map how.rules.repair else code

end Normalization

/-- The notes without those that were there before. -/
def distinctNotes (notes : List Note) : List Note :=
  notes.eraseDups

theorem distinctNotes_concat (notes : List Note) (note : Note) :
    distinctNotes (notes ++ [note]) =
      if note ∈ notes then distinctNotes notes else distinctNotes notes ++ [note] := by
  rw [distinctNotes, List.eraseDups_append]
  split
  next hmem =>
    have hnone : [note].removeAll notes = [] := by simp [List.removeAll, hmem]
    rw [hnone, List.eraseDups_nil, List.append_nil]
    rfl
  next hmem =>
    have hall : [note].removeAll notes = [note] := by simp [List.removeAll, hmem]
    rw [hall]
    rfl

@[simp] theorem mem_distinctNotes {notes : List Note} {note : Note} :
    note ∈ distinctNotes notes ↔ note ∈ notes :=
  List.mem_eraseDups

/-- The diagnostic in normal form. -/
def Diagnostic.normalize (how : Normalization) (d : Diagnostic) : Diagnostic :=
  { d with
    message := Wording.normalize d.message
    notes := distinctNotes d.notes
    code := how.code d.code }

end Reconcile
