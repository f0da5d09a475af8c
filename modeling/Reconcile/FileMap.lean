/-!
# Maps from files

A `FileMap` holds one value per file and remembers the order in which files came in. A file that is
set again keeps its place; a file that is removed and set again goes to the end. The view is
`get?` together with `files`: each operation has one small lemma for either.
-/

namespace Reconcile

/-- Values for distinct files, in the order in which the files came in. -/
structure FileMap (α : Type) where
  entries : List (String × α)
  nodup : (entries.map Prod.fst).Nodup

namespace FileMap

variable {α β : Type}

/-- Two maps with the same entries are equal. -/
@[ext] theorem ext {a b : FileMap α} (h : a.entries = b.entries) : a = b := by
  cases a; cases b; cases h; rfl

/-- The map without files. -/
def empty : FileMap α :=
  ⟨[], by simp⟩

/-- The files of a map, in order. -/
def files (map : FileMap α) : List String :=
  map.entries.map Prod.fst

/-- The value of a file. -/
def get? (map : FileMap α) (file : String) : Option α :=
  map.entries.lookup file

/-- Whether a map has a file. -/
def contains (map : FileMap α) (file : String) : Bool :=
  (map.get? file).isSome

/-- How many files a map has. -/
def size (map : FileMap α) : Nat :=
  map.entries.length

/-- Replaces the value of a file where it stands, or puts the file at the end. -/
def put (file : String) (value : α) : List (String × α) → List (String × α)
  | [] => [(file, value)]
  | entry :: entries =>
    if entry.1 = file then (file, value) :: entries else entry :: put file value entries

theorem map_fst_put (file : String) (value : α) (entries : List (String × α)) :
    (put file value entries).map Prod.fst =
      if file ∈ entries.map Prod.fst then entries.map Prod.fst
      else entries.map Prod.fst ++ [file] := by
  induction entries with
  | nil => simp [put]
  | cons entry entries ih =>
    by_cases h : entry.1 = file
    · simp [put, h]
    · have h' : ¬ file = entry.1 := fun heq => h heq.symm
      by_cases hmem : file ∈ entries.map Prod.fst <;> simp_all [put]

theorem lookup_cons (name other : String) (held : α) (entries : List (String × α)) :
    ((name, held) :: entries).lookup other =
      if other = name then some held else entries.lookup other := by
  rw [List.lookup_cons]
  by_cases h : other = name
  · rw [if_pos h, beq_iff_eq.2 h]
  · rw [if_neg h, beq_eq_false_iff_ne.2 h]

theorem lookup_put (file other : String) (value : α) (entries : List (String × α)) :
    (put file value entries).lookup other =
      if other = file then some value else entries.lookup other := by
  induction entries with
  | nil => rw [put, lookup_cons]
  | cons entry entries ih =>
    obtain ⟨name, held⟩ := entry
    by_cases h : name = file
    · subst h
      rw [put, if_pos rfl, lookup_cons, lookup_cons]
      by_cases ho : other = name <;> simp [ho]
    · rw [put, if_neg h, lookup_cons, lookup_cons, ih]
      by_cases ho : other = name
      · subst ho
        simp [h]
      · simp [ho]

/-- The map with a value for a file. -/
def set (map : FileMap α) (file : String) (value : α) : FileMap α where
  entries := put file value map.entries
  nodup := by
    rw [map_fst_put]
    split
    next => exact map.nodup
    next h =>
      rw [List.nodup_append]
      refine ⟨map.nodup, by simp, ?_⟩
      intro a ha b hb heq
      rw [List.mem_singleton] at hb
      exact h (hb ▸ heq ▸ ha)

/-- The map without a file. -/
def erase (map : FileMap α) (file : String) : FileMap α where
  entries := map.entries.filter (·.1 ≠ file)
  nodup := map.nodup.sublist ((List.filter_sublist ..).map _)

/-- The map with every value changed by a function of the file and the value. -/
def mapValues (f : String → α → β) (map : FileMap α) : FileMap β where
  entries := map.entries.map fun entry => (entry.1, f entry.1 entry.2)
  nodup := by
    have : (map.entries.map fun entry => (entry.1, f entry.1 entry.2)).map Prod.fst
        = map.entries.map Prod.fst := by
      rw [List.map_map]; rfl
    rw [this]
    exact map.nodup

theorem files_set (map : FileMap α) (file : String) (value : α) :
    (map.set file value).files =
      if file ∈ map.files then map.files else map.files ++ [file] :=
  map_fst_put file value map.entries

theorem get?_set (map : FileMap α) (file other : String) (value : α) :
    (map.set file value).get? other = if other = file then some value else map.get? other :=
  lookup_put file other value map.entries

@[simp] theorem get?_set_self (map : FileMap α) (file : String) (value : α) :
    (map.set file value).get? file = some value := by
  rw [get?_set, if_pos rfl]

theorem get?_set_of_ne (map : FileMap α) {file other : String} (value : α) (h : other ≠ file) :
    (map.set file value).get? other = map.get? other := by
  rw [get?_set, if_neg h]

theorem files_erase (map : FileMap α) (file : String) :
    (map.erase file).files = map.files.filter (· ≠ file) := by
  rw [files, erase, files, List.filter_map]
  rfl

theorem get?_erase (map : FileMap α) (file other : String) :
    (map.erase file).get? other = if other = file then none else map.get? other := by
  show (map.entries.filter (·.1 ≠ file)).lookup other = if other = file then none
    else map.entries.lookup other
  generalize map.entries = entries
  induction entries with
  | nil => simp
  | cons entry entries ih =>
    obtain ⟨name, held⟩ := entry
    by_cases h : name = file
    · subst h
      rw [List.filter_cons_of_neg (by simp), ih, lookup_cons]
      by_cases ho : other = name <;> simp [ho]
    · rw [List.filter_cons_of_pos (by simpa using h), lookup_cons, lookup_cons, ih]
      by_cases ho : other = name
      · subst ho
        simp [h]
      · simp [ho]

@[simp] theorem files_mapValues (f : String → α → β) (map : FileMap α) :
    (map.mapValues f).files = map.files := by
  rw [files, mapValues, files, List.map_map]
  rfl

@[simp] theorem get?_mapValues (f : String → α → β) (map : FileMap α) (file : String) :
    (map.mapValues f).get? file = (map.get? file).map (f file) := by
  show (map.entries.map fun entry => (entry.1, f entry.1 entry.2)).lookup file =
    (map.entries.lookup file).map (f file)
  generalize map.entries = entries
  induction entries with
  | nil => rfl
  | cons entry entries ih =>
    obtain ⟨name, held⟩ := entry
    rw [List.map_cons, lookup_cons, lookup_cons, ih]
    by_cases h : file = name
    · subst h
      simp
    · simp [h]

theorem mem_files_iff (map : FileMap α) (file : String) :
    file ∈ map.files ↔ (map.get? file).isSome := by
  show file ∈ map.entries.map Prod.fst ↔ (map.entries.lookup file).isSome
  generalize map.entries = entries
  induction entries with
  | nil => simp
  | cons entry entries ih =>
    obtain ⟨name, held⟩ := entry
    rw [List.map_cons, List.mem_cons, lookup_cons, ih]
    by_cases h : file = name <;> simp [h]

theorem get?_eq_none_iff (map : FileMap α) (file : String) :
    map.get? file = none ↔ file ∉ map.files := by
  rw [mem_files_iff, Option.not_isSome_iff_eq_none]

theorem lookup_eq_none {file : String} {entries : List (String × α)}
    (h : file ∉ entries.map Prod.fst) : entries.lookup file = none := by
  induction entries with
  | nil => rfl
  | cons entry entries ih =>
    rw [List.map_cons, List.mem_cons, not_or] at h
    rw [lookup_cons, if_neg h.1, ih h.2]

/-- A map has at most one entry for a file. -/
theorem map_snd_filter_entries (map : FileMap α) (file : String) :
    (map.entries.filter (·.1 = file)).map Prod.snd = (map.get? file).toList := by
  have hnodup := map.nodup
  show (map.entries.filter (·.1 = file)).map Prod.snd = (map.entries.lookup file).toList
  generalize map.entries = entries at hnodup ⊢
  induction entries with
  | nil => rfl
  | cons entry entries ih =>
    obtain ⟨name, held⟩ := entry
    rw [List.map_cons, List.nodup_cons] at hnodup
    have hrest := ih hnodup.2
    rw [lookup_cons]
    by_cases h : file = name
    · subst h
      rw [lookup_eq_none hnodup.1] at hrest
      rw [if_pos rfl, List.filter_cons_of_pos (by simp), List.map_cons, hrest]
      rfl
    · rw [if_neg h, List.filter_cons_of_neg (by simpa using fun heq => h heq.symm), hrest]

theorem entries_ext {xs ys : List (String × α)} (hnodup : (xs.map Prod.fst).Nodup)
    (hfiles : xs.map Prod.fst = ys.map Prod.fst)
    (hlookup : ∀ file, xs.lookup file = ys.lookup file) : xs = ys := by
  induction xs generalizing ys with
  | nil => exact (List.map_eq_nil_iff.mp hfiles.symm).symm
  | cons x xs ih =>
    obtain ⟨name, value⟩ := x
    cases ys with
    | nil => cases hfiles
    | cons y ys =>
      obtain ⟨name', value'⟩ := y
      rw [List.map_cons, List.map_cons, List.cons.injEq] at hfiles
      obtain ⟨rfl, hrest⟩ := hfiles
      rw [List.map_cons, List.nodup_cons] at hnodup
      have hvalue := hlookup name
      rw [lookup_cons, lookup_cons, if_pos rfl, if_pos rfl] at hvalue
      have hlookup' : ∀ file, xs.lookup file = ys.lookup file := by
        intro file
        by_cases h : file = name
        · subst h
          rw [lookup_eq_none hnodup.1, lookup_eq_none (hrest ▸ hnodup.1)]
        · have := hlookup file
          rwa [lookup_cons, lookup_cons, if_neg h, if_neg h] at this
      rw [Option.some.inj hvalue, ih hnodup.2 hrest hlookup']

/-- Two maps with the same files in the same order and the same values are equal. -/
theorem ext_get? {a b : FileMap α} (hfiles : a.files = b.files)
    (hget : ∀ file, a.get? file = b.get? file) : a = b :=
  ext (entries_ext a.nodup hfiles hget)

/-- Only the last value that is set for a file counts. -/
theorem set_set (map : FileMap α) (file : String) (value other : α) :
    (map.set file value).set file other = map.set file other := by
  apply ext_get?
  · have hmem : file ∈ (map.set file value).files := by
      rw [mem_files_iff, get?_set_self]
      rfl
    rw [files_set, if_pos hmem, files_set, files_set]
  · intro name
    rw [get?_set, get?_set, get?_set]
    by_cases h : name = file
    · rw [if_pos h, if_pos h]
    · rw [if_neg h, if_neg h, if_neg h]

theorem mapValues_set (f : String → α → β) (map : FileMap α) (file : String) (value : α) :
    (map.set file value).mapValues f = (map.mapValues f).set file (f file value) := by
  apply ext_get?
  · rw [files_mapValues, files_set, files_set, files_mapValues]
  · intro other
    rw [get?_mapValues, get?_set, get?_set, get?_mapValues]
    by_cases h : other = file
    · subst h
      simp
    · rw [if_neg h, if_neg h]

theorem mapValues_erase (f : String → α → β) (map : FileMap α) (file : String) :
    (map.erase file).mapValues f = (map.mapValues f).erase file := by
  apply ext_get?
  · rw [files_mapValues, files_erase, files_erase, files_mapValues]
  · intro other
    rw [get?_mapValues, get?_erase, get?_erase, get?_mapValues]
    by_cases h : other = file <;> simp [h]

end FileMap

end Reconcile
