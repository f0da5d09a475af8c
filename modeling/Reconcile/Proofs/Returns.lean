import Reconcile.Proofs.Slots

/-!
# What a new generation returns

A new generation of a producer replaces the old one, and the store returns records of the old one
as healed. Healed is a record whose problem the new generation does not have.

* `ingest_returns_healed_iff`: the language service gets back exactly the healed records. The
  compiler gets back its whole old generation; so what it gets back is what is healed only where the
  new generation repeats nothing. For either producer, what is returned and not reported again is
  exactly what is healed.
* `repeated_report_is_returned`: a compiler's record that is reported once more is returned.

`gone` says what is healed in terms of the problems of either generation alone, whoever reports, and
`snd_ingest` what is returned.
-/

namespace Reconcile.Store

open Merge

/-- The records of an old generation whose problems a new one does not have. -/
def gone (old incoming : List Diagnostic) : List Diagnostic :=
  old.filter fun d => !(incoming.map Diagnostic.key).contains d.key

theorem not_contains_key_iff {incoming : List Diagnostic} {d : Diagnostic} :
    (!(incoming.map Diagnostic.key).contains d.key) = true ↔
      d.key ∉ incoming.map Diagnostic.key := by
  rw [Bool.not_eq_true', ← Bool.not_eq_true, List.contains_iff_mem]

theorem healed_structured (current incoming : List Diagnostic) :
    healed .structured current incoming = gone (ofSource .structured current) incoming := by
  refine List.filter_congr fun d _ => ?_
  rw [Bool.eq_iff_iff, not_contains_key_iff, Bool.not_eq_true', ← Bool.not_eq_true, reportedIn_iff]

theorem gone_gone (old incoming : List Diagnostic) :
    gone (gone old incoming) incoming = gone old incoming := by
  rw [gone, gone, List.filter_filter]
  exact List.filter_congr fun d _ => Bool.and_self _

/-- What is reported once more is not gone. -/
theorem gone_self (ds : List Diagnostic) : gone ds ds = [] := by
  rw [gone, List.filter_eq_nil_iff]
  intro d hd hgone
  exact not_contains_key_iff.mp hgone (List.mem_map_of_mem hd)

/-- Nothing is reported again if the whole old generation is gone. -/
theorem gone_eq_self_iff {old incoming : List Diagnostic} :
    gone old incoming = old ↔ ∀ d ∈ old, d.key ∉ incoming.map Diagnostic.key := by
  rw [gone, List.filter_eq_self]
  exact forall₂_congr fun _ _ => not_contains_key_iff

/-- What a new generation returns, as it stood in the slot of its producer. -/
theorem snd_ingest (store : Store) (file : String) (source : Source) (ds : List Diagnostic) :
    (store.ingest file source ds).2 =
      match source with
      | .structured =>
        gone ((store.slots file).of .structured) (store.generation file .structured ds)
      | .textual => (store.slots file).of .textual := by
  cases source with
  | structured => exact healed_structured ..
  | textual => rfl

/-- A new generation fills the slot of its producer. -/
theorem of_slots_ingest (store : Store) (file : String) (source : Source) (ds : List Diagnostic) :
    ((store.ingest file source ds).1.slots file).of source = store.generation file source ds := by
  rw [slots_ingest, if_pos rfl]
  cases source <;> rfl

/-- **What is healed and what is returned.** Let a producer report a file anew, in any store. Its
records are then the new ones, normalized and under the name of the file. What the store returns and
the producer does not report again is exactly what is healed, in the order in which it was stored.
The store returns nothing else just if it is the language service that reports, or if none of the
old problems is reported again; for the compiler it returns the whole old generation. -/
theorem ingest_returns_healed_iff (store : Store) (file : String) (source : Source)
    (ds : List Diagnostic) :
    let old := (store.slots file).of source
    let incoming := ds.map fun d => { d.normalize store.normalization with file, source }
    let ingested := store.ingest file source ds
    (ingested.1.slots file).of source = incoming ∧
      gone ingested.2 incoming = gone old incoming ∧
      (ingested.2 = gone old incoming ↔
        source = .structured ∨ ∀ d ∈ old, d.key ∉ incoming.map Diagnostic.key) ∧
      (source = .textual → ingested.2 = old) := by
  intro old incoming ingested
  have hreturned : ingested.2 = _ := snd_ingest store file source ds
  refine ⟨of_slots_ingest store file source ds, ?_⟩
  cases source with
  | structured =>
    have hgone : ingested.2 = gone old incoming := hreturned
    refine ⟨?_, iff_of_true hgone (Or.inl rfl), ?_⟩
    · rw [hgone, gone_gone]
    · rintro ⟨⟩
  | textual =>
    have hold : ingested.2 = old := hreturned
    refine ⟨by rw [hold], ?_, fun _ => hold⟩
    rw [hold, eq_comm, gone_eq_self_iff]
    exact (or_iff_right (by decide)).symm

/-- A compiler that reports the same problem twice gets its first record back, though nothing is
healed. -/
theorem repeated_report_is_returned :
    let boom : Diagnostic := ⟨"a.swift", .point ⟨0, 0⟩, .error, "Boom", .textual, [], none⟩
    let store := ((Store.empty .standard).ingest "a.swift" .textual [boom]).1
    let ingested := store.ingest "a.swift" .textual [boom]
    ingested.2 = (store.slots "a.swift").textual ∧ ingested.2 ≠ [] ∧
      gone ingested.2 ((ingested.1.slots "a.swift").of .textual) = [] := by
  intro boom store ingested
  let first := (Store.empty .standard).generation "a.swift" .textual [boom]
  have hold : (store.slots "a.swift").textual = first :=
    of_slots_ingest (Store.empty .standard) "a.swift" .textual [boom]
  have hnew : (ingested.1.slots "a.swift").of .textual = first :=
    of_slots_ingest store "a.swift" .textual [boom]
  have hreturned : ingested.2 = (store.slots "a.swift").textual :=
    snd_ingest store "a.swift" .textual [boom]
  refine ⟨hreturned, ?_, ?_⟩
  · rw [hreturned, hold]
    exact List.cons_ne_nil _ _
  · rw [hreturned, hold, hnew, gone_self]

end Reconcile.Store
