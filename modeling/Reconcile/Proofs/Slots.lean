import Reconcile.Proofs.Merging
import Reconcile.Store

/-!
# Two slots for every file

A store keeps the records of both producers in one list for each file. It can be read as a ledger:
files in the order in which they were first reported, and for each file one slot for either
producer.

* `slots_afterAll`: after every sequence of operations, the files of a store are those of the
  ledger, and the records of a producer for a file are what is in its slot, in order; and an
  operation on one file leaves all other files as they are.

`Store.ledger` reads a store as a ledger, and `ledger_after` says that every operation commutes with
this reading. What there is to show is that the two generations of the language service decide which
records of the compiler stay: `kept_structured` says that these are all but those of problems that
the old generation has and the new one has not.

The first section says what each operation leaves of the files and of the list of a file.
-/

namespace Reconcile

namespace Store

/-! ## Operations on files and lists -/

theorem mem_of_mem_kept {source : Source} {current incoming : List Diagnostic} {d : Diagnostic}
    (h : d ∈ kept source current incoming) : d ∈ current := by
  cases source with
  | textual => exact (List.mem_filter.mp h).1
  | structured => exact (List.mem_filter.mp (List.mem_filter.mp h).1).1

theorem get_ingest (store : Store) (file other : String) (source : Source) (ds : List Diagnostic) :
    (store.ingest file source ds).1.get other =
      if other = file then
        kept source (store.get file) (store.generation file source ds)
          ++ store.generation file source ds
      else store.get other := by
  show ((store.reports.set file _).get? other).getD [] = _
  rw [FileMap.get?_set]
  split
  next => rfl
  next => rfl

/-- A stored record was stored before, or is a new one under the name of its file. -/
theorem mem_get_ingest {store : Store} {file other : String} {source : Source}
    {ds : List Diagnostic} {d : Diagnostic} (h : d ∈ (store.ingest file source ds).1.get other) :
    d ∈ store.get other ∨ other = file ∧ d.file = file := by
  rw [get_ingest] at h
  split at h
  next heq =>
    subst heq
    rcases List.mem_append.mp h with h | h
    · exact Or.inl (mem_of_mem_kept h)
    · obtain ⟨e, -, rfl⟩ := List.mem_map.mp h
      exact Or.inr ⟨rfl, rfl⟩
  next => exact Or.inl h

theorem files_ingest (store : Store) (file : String) (source : Source) (ds : List Diagnostic) :
    (store.ingest file source ds).1.files =
      if file ∈ store.files then store.files else store.files ++ [file] :=
  FileMap.files_set ..

theorem get_remove (store : Store) (file other : String) :
    (store.remove file).get other = if other = file then [] else store.get other := by
  show ((store.reports.erase file).get? other).getD [] = _
  rw [FileMap.get?_erase]
  split
  next => rfl
  next => rfl

theorem get_removeSource (store : Store) (source : Source) (file : String) :
    (store.removeSource source).get file = (store.get file).filter (·.source ≠ source) := by
  show ((store.reports.mapValues _).get? file).getD [] =
    ((store.reports.get? file).getD []).filter _
  rw [FileMap.get?_mapValues]
  cases store.reports.get? file <;> rfl

theorem files_removeSource (store : Store) (source : Source) :
    (store.removeSource source).files = store.files :=
  FileMap.files_mapValues ..

end Store

/-! ## Ledgers -/

/-- What a file has: the records of either producer. -/
structure Slots where
  structured : List Diagnostic
  textual : List Diagnostic

namespace Slots

/-- No records. -/
def empty : Slots :=
  ⟨[], []⟩

/-- The slot of a producer. -/
def of (slots : Slots) : Source → List Diagnostic
  | .structured => slots.structured
  | .textual => slots.textual

/-- The slots after a new generation of a producer. A problem that leaves the slot of the language
service leaves that of the compiler too. -/
def report (slots : Slots) (source : Source) (ds : List Diagnostic) : Slots :=
  match source with
  | .textual => { slots with textual := ds }
  | .structured =>
    { structured := ds
      textual := slots.textual.filter fun d =>
        ¬(d.key ∈ slots.structured.map Diagnostic.key ∧ d.key ∉ ds.map Diagnostic.key) }

/-- The slots without the records of a producer. -/
def drop (slots : Slots) : Source → Slots
  | .structured => { slots with structured := [] }
  | .textual => { slots with textual := [] }

end Slots

/-- A store as either producer sees it: the files in the order in which they were first reported,
the slots of each, and how new reports are normalized. -/
structure Ledger where
  normalization : Normalization
  files : List String
  slots : String → Slots

namespace Store

/-- What can be done to a store. -/
inductive Operation where
  | ingest (file : String) (source : Source) (ds : List Diagnostic)
  | remove (file : String)
  | removeSource (source : Source)
  | clear
  | normalizeBy (how : Normalization)

/-- The store after an operation. -/
def after (store : Store) : Operation → Store
  | .ingest file source ds => (store.ingest file source ds).1
  | .remove file => store.remove file
  | .removeSource source => store.removeSource source
  | .clear => store.clear
  | .normalizeBy how => { store with normalization := how }

/-- The store after operations. -/
def afterAll (store : Store) (operations : List Operation) : Store :=
  operations.foldl after store

/-- The file that an operation is about, if it is about one. -/
def Operation.file? : Operation → Option String
  | ingest file .. => some file
  | remove file => some file
  | _ => none

end Store

namespace Ledger

/-- A ledger without files. -/
def empty (how : Normalization) : Ledger :=
  ⟨how, [], fun _ => .empty⟩

/-- The ledger with the slots of one file changed. -/
def setSlots (ledger : Ledger) (file : String) (slots : Slots) : Ledger :=
  { ledger with slots := fun other => if other = file then slots else ledger.slots other }

/-- The ledger after an operation. -/
def after (ledger : Ledger) : Store.Operation → Ledger
  | .ingest file source ds =>
    let incoming := ds.map fun d => { d.normalize ledger.normalization with file, source }
    { ledger.setSlots file ((ledger.slots file).report source incoming) with
      files := if file ∈ ledger.files then ledger.files else ledger.files ++ [file] }
  | .remove file =>
    { ledger.setSlots file .empty with files := ledger.files.filter (· ≠ file) }
  | .removeSource source => { ledger with slots := fun file => (ledger.slots file).drop source }
  | .clear => { ledger with files := [], slots := fun _ => .empty }
  | .normalizeBy how => { ledger with normalization := how }

/-- The ledger after operations. -/
def afterAll (ledger : Ledger) (operations : List Store.Operation) : Ledger :=
  operations.foldl after ledger

end Ledger

/-! ## What the language service decides about the compiler's records -/

namespace Store

open Merge

theorem reportedIn_iff {ds : List Diagnostic} {d : Diagnostic} :
    reportedIn ds d = true ↔ d.key ∈ ds.map Diagnostic.key := by
  rw [reportedIn, List.any_eq_true, List.mem_map]
  simp only [Diagnostic.sameProblem, decide_eq_true_eq, eq_comm (a := d.key)]

/-- A record is of a healed problem if the old generation of the language service has it and the new
one has not. -/
theorem reportedIn_healed {current incoming : List Diagnostic} {d : Diagnostic} :
    reportedIn (healed .structured current incoming) d = true ↔
      d.key ∈ (ofSource .structured current).map Diagnostic.key ∧
        d.key ∉ incoming.map Diagnostic.key := by
  rw [reportedIn_iff, healed]
  constructor
  · intro h
    obtain ⟨old, hold, hkey⟩ := List.mem_map.mp h
    obtain ⟨hold, hgone⟩ := List.mem_filter.mp hold
    refine ⟨hkey ▸ List.mem_map_of_mem hold, ?_⟩
    rw [← hkey, ← reportedIn_iff]
    simpa using hgone
  · rintro ⟨hold, hgone⟩
    obtain ⟨old, hold, hkey⟩ := List.mem_map.mp hold
    refine List.mem_map.mpr ⟨old, List.mem_filter.mpr ⟨hold, ?_⟩, hkey⟩
    rw [← hkey, ← reportedIn_iff] at hgone
    simpa using hgone

theorem filter_ne_source (ds : List Diagnostic) :
    ds.filter (·.source ≠ .structured) = ofSource .textual ds ∧
      ds.filter (·.source ≠ .textual) = ofSource .structured ds := by
  constructor <;>
  · refine List.filter_congr fun d _ => ?_
    cases d.source <;> decide

/-- A new generation of the language service leaves the compiler's records but those of healed
problems. -/
theorem kept_structured (current incoming : List Diagnostic) :
    kept .structured current incoming = (ofSource .textual current).filter fun d =>
      ¬(d.key ∈ (ofSource .structured current).map Diagnostic.key ∧
        d.key ∉ incoming.map Diagnostic.key) := by
  rw [kept, (filter_ne_source current).1]
  refine List.filter_congr fun d _ => ?_
  rw [Bool.eq_iff_iff, Bool.not_eq_true', ← Bool.not_eq_true, reportedIn_healed, decide_eq_true_iff]

/-- A new generation of the compiler leaves all records of the language service. -/
theorem kept_textual (current incoming : List Diagnostic) :
    kept .textual current incoming = ofSource .structured current :=
  (filter_ne_source current).2

theorem ofSource_append (source : Source) (ds es : List Diagnostic) :
    ofSource source (ds ++ es) = ofSource source ds ++ ofSource source es :=
  List.filter_append ..

theorem source_of_mem_generation {store : Store} {file : String} {source : Source}
    {ds : List Diagnostic} : ∀ d ∈ store.generation file source ds, d.source = source := by
  intro d hd
  obtain ⟨e, -, rfl⟩ := List.mem_map.mp hd
  rfl

/-- Records of one producer are the records of that one. -/
theorem ofSource_eq_self {source : Source} {ds : List Diagnostic}
    (h : ∀ d ∈ ds, d.source = source) : ofSource source ds = ds :=
  List.filter_eq_self.mpr fun d hd => decide_eq_true (h d hd)

/-- Records of one producer hold none of the other. -/
theorem ofSource_eq_nil {source other : Source} {ds : List Diagnostic}
    (h : ∀ d ∈ ds, d.source = other) (hne : other ≠ source) : ofSource source ds = [] :=
  List.filter_eq_nil_iff.mpr fun d hd hsource => hne (h d hd ▸ of_decide_eq_true hsource)

theorem source_of_mem_ofSource {source : Source} {ds : List Diagnostic} :
    ∀ d ∈ ofSource source ds, d.source = source :=
  fun _ hd => (mem_ofSource.mp hd).2

theorem source_of_mem_kept_structured {current incoming : List Diagnostic} :
    ∀ d ∈ kept .structured current incoming, d.source = .textual := by
  intro d hd
  rw [kept_structured] at hd
  exact source_of_mem_ofSource d (List.mem_filter.mp hd).1

end Store

/-! ## A store is a ledger -/

namespace Store

open Merge

/-- The slots of a file. -/
def slots (store : Store) (file : String) : Slots :=
  ⟨ofSource .structured (store.get file), ofSource .textual (store.get file)⟩

theorem mem_slots {store : Store} {file : String} {source : Source} {d : Diagnostic} :
    d ∈ (store.slots file).of source ↔ d ∈ store.get file ∧ d.source = source := by
  cases source <;> exact mem_ofSource

/-- A file that is not stored has no records. -/
theorem get_of_not_mem_files {store : Store} {file : String} (h : file ∉ store.files) :
    store.get file = [] := by
  rw [get, (FileMap.get?_eq_none_iff ..).mpr h]
  rfl

/-- A store read as a ledger. -/
def ledger (store : Store) : Ledger :=
  ⟨store.normalization, store.files, store.slots⟩

theorem slots_ingest (store : Store) (file other : String) (source : Source)
    (ds : List Diagnostic) :
    (store.ingest file source ds).1.slots other =
      if other = file then (store.slots file).report source (store.generation file source ds)
      else store.slots other := by
  rw [slots, get_ingest]
  split
  next h =>
    subst h
    rw [ofSource_append, ofSource_append]
    cases source with
    | textual =>
      rw [kept_textual, ofSource_eq_self source_of_mem_ofSource,
        ofSource_eq_nil source_of_mem_generation (by decide), List.append_nil,
        ofSource_eq_nil source_of_mem_ofSource (by decide),
        ofSource_eq_self source_of_mem_generation, List.nil_append]
      rfl
    | structured =>
      rw [ofSource_eq_nil source_of_mem_kept_structured (by decide),
        ofSource_eq_self source_of_mem_generation, List.nil_append,
        ofSource_eq_self source_of_mem_kept_structured,
        ofSource_eq_nil source_of_mem_generation (by decide), List.append_nil, kept_structured]
      rfl
  next => rfl

theorem slots_remove (store : Store) (file other : String) :
    (store.remove file).slots other = if other = file then .empty else store.slots other := by
  rw [slots, get_remove]
  split
  next => rfl
  next => rfl

theorem slots_removeSource (store : Store) (source : Source) (file : String) :
    (store.removeSource source).slots file = (store.slots file).drop source := by
  rw [slots, get_removeSource]
  cases source with
  | structured =>
    rw [(filter_ne_source _).1, ofSource_eq_nil source_of_mem_ofSource (by decide),
      ofSource_eq_self source_of_mem_ofSource]
    rfl
  | textual =>
    rw [(filter_ne_source _).2, ofSource_eq_self source_of_mem_ofSource,
      ofSource_eq_nil source_of_mem_ofSource (by decide)]
    rfl

/-- Operations on a store are operations on its ledger. -/
theorem ledger_after (store : Store) (operation : Operation) :
    (store.after operation).ledger = store.ledger.after operation := by
  cases operation with
  | ingest file source ds =>
    have hslots := funext fun other => slots_ingest store file other source ds
    show Ledger.mk _ (store.ingest file source ds).1.files (store.ingest file source ds).1.slots = _
    rw [files_ingest, hslots]
    rfl
  | remove file =>
    have hslots := funext fun other => slots_remove store file other
    show Ledger.mk _ (store.remove file).files (store.remove file).slots = _
    rw [hslots]
    exact congrArg (fun files => Ledger.mk store.normalization files _) (FileMap.files_erase ..)
  | removeSource source =>
    have hslots := funext fun file => slots_removeSource store source file
    show Ledger.mk _ (store.removeSource source).files (store.removeSource source).slots = _
    rw [files_removeSource, hslots]
    rfl
  | clear => rfl
  | normalizeBy how => rfl

theorem ledger_afterAll (store : Store) (operations : List Operation) :
    (store.afterAll operations).ledger = store.ledger.afterAll operations := by
  induction operations generalizing store with
  | nil => rfl
  | cons operation operations ih =>
    rw [afterAll, List.foldl_cons, ← afterAll, ih, ledger_after]
    rfl

/-- An operation on a file leaves the lists of all others as they are. -/
theorem get_after_of_ne (store : Store) {operation : Operation} {file other : String}
    (hfile : operation.file? = some file) (hne : other ≠ file) :
    (store.after operation).get other = store.get other := by
  cases operation with
  | ingest name source ds =>
    obtain rfl : name = file := Option.some.inj hfile
    exact (get_ingest ..).trans (if_neg hne)
  | remove name =>
    obtain rfl : name = file := Option.some.inj hfile
    exact (get_remove ..).trans (if_neg hne)
  | removeSource source => cases hfile
  | clear => cases hfile
  | normalizeBy how => cases hfile

/-- **A store is two slots for every file.** After every sequence of operations the files of a store
are those of the ledger, in order, and the records of each producer for a file are what the ledger
has in its slot, in order. An operation on one file leaves what is stored for any other as it is. -/
theorem slots_afterAll (how : Normalization) (operations : List Operation) :
    let store := (Store.empty how).afterAll operations
    let ledger := (Ledger.empty how).afterAll operations
    store.files = ledger.files ∧
      (∀ file source, ofSource source (store.get file) = (ledger.slots file).of source) ∧
      ∀ operation file, operation.file? = some file →
        ∀ other, other ≠ file → (store.after operation).get other = store.get other := by
  intro store ledger
  have hledger : store.ledger = ledger := ledger_afterAll (Store.empty how) operations
  refine ⟨congrArg Ledger.files hledger, ?_, ?_⟩
  · intro file source
    have hslots : store.slots file = ledger.slots file :=
      congrArg (fun ledger => ledger.slots file) hledger
    rw [← hslots]
    cases source <;> rfl
  · intro operation file hfile other hne
    exact get_after_of_ne store hfile hne

end Store

end Reconcile
