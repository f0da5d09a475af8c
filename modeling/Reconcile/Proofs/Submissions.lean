import Mathlib.Data.List.Induction
import Reconcile.CommandLine.Reconciliation
import Reconcile.Proofs.Coherence
import Reconcile.Proofs.Drafts
import Reconcile.Proofs.Frames

/-!
# What the command keeps of a table of diagnostics

The command submits the diagnostics of the language service entry by entry. Entries go by the paths
that the table spells, but the manager keeps diagnostics by the identities of files, and a submission
replaces what was reported for its file. This file says what remains when compiler output is left
aside.

* `entries_published_iff`: published for a file are the problems of the last entry about it. So every
  problem of a table is published exactly if every entry has only problems that the last one about its
  file has too; that is so where no file is spelled in two ways.
* `entry_replaced_by_other_spelling`: a table of two spellings of one file loses a problem.
-/

namespace Reconcile.CommandLine

open Manager

/-! ## Entries -/

/-- An entry of a table of diagnostics. -/
abbrev TableEntry := String × List Diagnostic

/-- The problems of diagnostics once these are normalized. -/
def normalizedKeys (settings : Settings) (ds : List Diagnostic) : List (Position × String) :=
  ds.map fun d => (d.normalize settings.normalization).key

/-- The last of some entries that is about a file. -/
def lastAbout? (file : String) (entries : List TableEntry) : Option TableEntry :=
  (entries.filter (canonical ·.1 = file)).getLast?

/-- What is published for a path has exactly the problems of all entries about its file. -/
def NothingLost (settings : Settings) (m : Manager) (entries : List TableEntry) : Prop :=
  ∀ path key, key ∈ (m.publishedFor path).map Diagnostic.key ↔
    ∃ entry ∈ entries, canonical entry.1 = canonical path ∧ key ∈ normalizedKeys settings entry.2

/-- The manager with entries submitted one after the other. -/
def withEntries (world : Surroundings) (m : Manager) (entries : List TableEntry) : Manager :=
  entries.foldl (fun m entry => (m.submit world entry.1 .structured entry.2).1) m

theorem lastAbout?_concat (file : String) (entries : List TableEntry) (entry : TableEntry) :
    lastAbout? file (entries ++ [entry]) =
      if canonical entry.1 = file then some entry else lastAbout? file entries := by
  rw [lastAbout?, lastAbout?, getLast?_filter_concat]
  simp only [decide_eq_true_eq]

theorem mem_of_lastAbout? {file : String} {entries : List TableEntry} {last : TableEntry}
    (h : last ∈ lastAbout? file entries) : last ∈ entries ∧ canonical last.1 = file := by
  obtain ⟨hmem, hfile⟩ := List.mem_filter.mp (List.mem_of_getLast? h)
  exact ⟨hmem, of_decide_eq_true hfile⟩

/-- An entry about a file is the last one about it, or another is. -/
theorem exists_lastAbout? {entries : List TableEntry} {entry : TableEntry} (h : entry ∈ entries) :
    ∃ last, lastAbout? (canonical entry.1) entries = some last := by
  have hne : entries.filter (canonical ·.1 = canonical entry.1) ≠ [] :=
    List.ne_nil_of_mem (List.mem_filter.mpr ⟨h, decide_eq_true rfl⟩)
  exact ⟨_, List.getLast?_eq_some_getLast hne⟩

/-! ## Submitting entries -/

theorem manager_submitStructured (world : Surroundings) (stage : Stage) (entries : List TableEntry) :
    (submitStructured world stage entries).manager = withEntries world stage.manager entries := by
  induction entries generalizing stage with
  | nil => rfl
  | cons entry entries ih => exact ih _

section

variable (world : Surroundings) (m : Manager) (entries : List TableEntry)

theorem withEntries_concat (entry : TableEntry) :
    withEntries world m (entries ++ [entry]) =
      ((withEntries world m entries).submit world entry.1 .structured entry.2).1 :=
  List.foldl_concat ..

/-- Entries touch what is stored, published and shown, and nothing else. -/
theorem withEntries_frame :
    ∃ reports published board,
      withEntries world m entries =
        { m with store := { m.store with reports }, published, board } := by
  induction entries using List.reverseRecOn with
  | nil => exact ⟨m.store.reports, m.published, m.board, rfl⟩
  | append_singleton entries entry ih =>
    obtain ⟨reports, published, board, heq⟩ := ih
    obtain ⟨reports', published', board', hsubmit⟩ :=
      submit_frame world (withEntries world m entries) entry.1 .structured entry.2
    refine ⟨reports', published', board', ?_⟩
    rw [withEntries_concat, hsubmit, heq]

/-- The slot of the language service has what the last entry about the file reports. -/
theorem structured_withEntries (hlive : m.disposed = false) (file : String) :
    ((withEntries world m entries).store.slots file).structured =
      match lastAbout? file entries with
      | none => (m.store.slots file).structured
      | some last => m.store.generation file .structured last.2 := by
  induction entries using List.reverseRecOn with
  | nil => rfl
  | append_singleton entries entry ih =>
    obtain ⟨reports, published, board, heq⟩ := withEntries_frame world m entries
    have hlive' : (withEntries world m entries).disposed = false := by
      rw [heq]
      exact hlive
    rw [withEntries_concat, store_submit world hlive', Store.slots_ingest, lastAbout?_concat]
    by_cases hfile : canonical entry.1 = file
    · rw [if_pos hfile.symm, if_pos hfile, hfile, heq]
      rfl
    · rw [if_neg (Ne.symm hfile), if_neg hfile]
      exact ih

end

theorem coherent_withEntries (resolves : String → Bool) {m : Manager} (h : Coherent m)
    (entries : List TableEntry) : Coherent (withEntries (.willing resolves) m entries) := by
  induction entries using List.reverseRecOn with
  | nil => exact h
  | append_singleton entries entry ih =>
    rw [withEntries_concat]
    exact ih.submit resolves entry.1 .structured entry.2

/-! ## What is published -/

theorem map_key_generation (store : Store) (file : String) (source : Source)
    (ds : List Diagnostic) :
    (store.generation file source ds).map Diagnostic.key =
      ds.map fun d => (d.normalize store.normalization).key := by
  rw [Store.generation, List.map_map]
  rfl

/-- Where compiler output is left aside, published for a path are the problems of the last entry about
its file. -/
theorem mem_keys_publishedFor_iff {settings : Settings} (hpolicy : settings.policy = .structuredOnly)
    (resolves : String → Bool) (entries : List TableEntry) (path : String)
    (key : Position × String) :
    key ∈ ((withEntries (.willing resolves) (.start settings) entries).publishedFor path).map
        Diagnostic.key ↔
      ∃ last ∈ lastAbout? (canonical path) entries, key ∈ normalizedKeys settings last.2 := by
  have hcoherent := coherent_withEntries resolves (coherent_start settings) entries
  have hstored := structured_withEntries (.willing resolves) (.start settings) entries rfl
    (canonical path)
  obtain ⟨reports, published, board, heq⟩ :=
    withEntries_frame (.willing resolves) (.start settings) entries
  have hchosen : (withEntries (.willing resolves) (.start settings) entries).policy =
      some settings.policy := by
    rw [heq]
    rfl
  generalize withEntries (.willing resolves) (.start settings) entries = m at *
  rw [hcoherent.publishedFor_eq_merge, hchosen, hpolicy, Option.getD_some, Merge.mem_keys_merge_iff]
  show key ∈ (m.store.slots (canonical path)).structured.map Diagnostic.key ↔ _
  rw [hstored]
  cases lastAbout? (canonical path) entries with
  | none =>
    show key ∈ [] ↔ _
    simp
  | some last =>
    dsimp only
    rw [map_key_generation]
    simp [normalizedKeys, start, Store.empty]

/-- A policy that leaves compiler output aside leaves the manager as it is. -/
theorem manager_runLog (world : Surroundings) (look : Lookup) (input : List UInt8) (coloured : Bool)
    (request : Reconciliation) {stage : Stage} {policy : Policy}
    (hlive : stage.manager.disposed = false) (hpolicy : stage.manager.policy = some policy)
    (haside : policy.collectsTextual = false) :
    (runLog world look input coloured request stage).manager = stage.manager := by
  have hbegun : stage.manager.beginRun world = (stage.manager, .ok none) := by
    rw [beginRun, hlive, hpolicy]
    dsimp only
    rw [haside]
    rfl
  rw [runLog, hbegun]

/-- The manager in the end is the one to which the entries were submitted. -/
theorem manager_runLog_submitStructured (look : Lookup) (input : List UInt8) (coloured : Bool)
    (request : Reconciliation) {settings : Settings} (hpolicy : settings.policy = .structuredOnly)
    (world : Surroundings) (entries : List TableEntry) :
    (runLog world look input coloured request
        (submitStructured world ⟨.start settings, [], none⟩ entries)).manager =
      withEntries world (.start settings) entries := by
  have hsubmitted := manager_submitStructured world ⟨.start settings, [], none⟩ entries
  obtain ⟨reports, published, board, heq⟩ := withEntries_frame world (.start settings) entries
  have hlive : (withEntries world (.start settings) entries).disposed = false := by
    rw [heq]
    rfl
  have hchosen : (withEntries world (.start settings) entries).policy = some .structuredOnly := by
    rw [heq]
    exact congrArg some hpolicy
  rw [← hsubmitted] at hlive hchosen ⊢
  exact manager_runLog world look input coloured request hlive hchosen (by decide)

section

variable {settings : Settings} {m : Manager} {entries : List TableEntry}
  (hlast : ∀ path key, key ∈ (m.publishedFor path).map Diagnostic.key ↔
    ∃ last ∈ lastAbout? (canonical path) entries, key ∈ normalizedKeys settings last.2)
include hlast

/-- If the last entries are published, nothing is lost where they have the problems of all. -/
theorem nothingLost_iff_of_last :
    NothingLost settings m entries ↔
      ∀ entry ∈ entries, ∀ last ∈ lastAbout? (canonical entry.1) entries,
        normalizedKeys settings entry.2 ⊆ normalizedKeys settings last.2 := by
  constructor
  · intro h entry hentry last hmem key hkey
    obtain ⟨last', hmem', hkey'⟩ :=
      (hlast entry.1 key).mp ((h entry.1 key).mpr ⟨entry, hentry, rfl, hkey⟩)
    obtain rfl := Option.some.inj (hmem.symm.trans hmem')
    exact hkey'
  · intro h path key
    rw [hlast]
    constructor
    · rintro ⟨last, hmem, hkey⟩
      obtain ⟨hentry, hfile⟩ := mem_of_lastAbout? hmem
      exact ⟨last, hentry, hfile, hkey⟩
    · rintro ⟨entry, hentry, hfile, hkey⟩
      obtain ⟨last, hmem⟩ := exists_lastAbout? hentry
      exact ⟨last, hfile ▸ hmem, h entry hentry last hmem hkey⟩

/-- Where no two entries are about one file, every entry is the last one. -/
theorem nothingLost_of_nodup (h : (entries.map fun entry => canonical entry.1).Nodup) :
    NothingLost settings m entries := by
  rw [nothingLost_iff_of_last hlast]
  intro entry hentry last hmem
  obtain ⟨hlastEntry, hfile⟩ := mem_of_lastAbout? hmem
  rw [List.inj_on_of_nodup_map h hlastEntry hentry hfile]
  exact List.Subset.refl _

end

/-- **What the command keeps of a table.** Take any table of diagnostics and a policy that leaves
compiler output aside. What is published for a path in the end has the problems of the last entry about
its file, and no others. So nothing of the table is lost exactly if every entry has only problems that
the last one about its file has too, and nothing is lost where no two entries are about one file. -/
theorem entries_published_iff (look : Lookup) (input : List UInt8) (coloured : Bool)
    (request : Reconciliation) {settings : Settings} (hpolicy : settings.policy = .structuredOnly)
    (entries : List TableEntry) :
    let world : Surroundings := .willing look.exists?
    let m := (runLog world look input coloured request
      (submitStructured world ⟨.start settings, [], none⟩ entries)).manager
    (∀ path key, key ∈ (m.publishedFor path).map Diagnostic.key ↔
        ∃ last ∈ lastAbout? (canonical path) entries, key ∈ normalizedKeys settings last.2) ∧
      (NothingLost settings m entries ↔
        ∀ entry ∈ entries, ∀ last ∈ lastAbout? (canonical entry.1) entries,
          normalizedKeys settings entry.2 ⊆ normalizedKeys settings last.2) ∧
      ((entries.map fun entry => canonical entry.1).Nodup → NothingLost settings m entries) := by
  intro world m
  have hm : m = withEntries world (.start settings) entries :=
    manager_runLog_submitStructured look input coloured request hpolicy world entries
  have hlast : ∀ path key, key ∈ (m.publishedFor path).map Diagnostic.key ↔
      ∃ last ∈ lastAbout? (canonical path) entries, key ∈ normalizedKeys settings last.2 := by
    intro path key
    rw [hm]
    exact mem_keys_publishedFor_iff hpolicy _ entries path key
  exact ⟨hlast, nothingLost_iff_of_last hlast, nothingLost_of_nodup hlast⟩

/-- Two files, each spelled in one way. -/
theorem entries_published_iff_of_two_files :
    let settings := Settings.standard.withPolicy .structuredOnly
    let boom : Diagnostic := ⟨"b.swift", .point ⟨1, 0⟩, .error, "Boom", .structured, [], none⟩
    let entries := [("a.swift", [boom]), ("lib/./b.swift", [boom])]
    let world := Surroundings.willing (Lookup.ofList []).exists?
    let m := (runLog world (.ofList []) [] false ⟨"-", none, ⟨[], false, none⟩, .text, 1⟩
      (submitStructured world ⟨.start settings, [], none⟩ entries)).manager
    settings.policy = .structuredOnly ∧ NothingLost settings m entries := by
  intro settings boom entries world m
  have hpolicy : settings.policy = .structuredOnly := rfl
  have hnodup : (entries.map fun entry => canonical entry.1).Nodup := by decide +kernel
  exact ⟨hpolicy, (entries_published_iff (.ofList []) [] false _ hpolicy entries).2.2 hnodup⟩

/-- One file, spelled in two ways: what its first spelling reports is lost. -/
theorem entry_replaced_by_other_spelling :
    let settings := Settings.standard.withPolicy .structuredOnly
    let lost : Diagnostic := ⟨"a.swift", .point ⟨0, 0⟩, .error, "Lost", .structured, [], none⟩
    let kept : Diagnostic := ⟨"a.swift", .point ⟨1, 0⟩, .error, "Kept", .structured, [], none⟩
    let entries := [("a.swift", [lost]), ("./a.swift", [kept])]
    let world := Surroundings.willing (Lookup.ofList []).exists?
    let m := (runLog world (.ofList []) [] false ⟨"-", none, ⟨[], false, none⟩, .text, 1⟩
      (submitStructured world ⟨.start settings, [], none⟩ entries)).manager
    lost.key ∈ normalizedKeys settings [lost] ∧
      lost.key ∉ (m.publishedFor "a.swift").map Diagnostic.key ∧
      ¬ NothingLost settings m entries := by
  intro settings lost kept entries world m
  have hpolicy : settings.policy = .structuredOnly := rfl
  have hlost : normalizedKeys settings [lost] = [lost.key] :=
    congrArg (fun message => [(lost.range.start, message)])
      (Wording.normalize_of_round (by decide +kernel))
  have hkept : normalizedKeys settings [kept] = [kept.key] :=
    congrArg (fun message => [(kept.range.start, message)])
      (Wording.normalize_of_round (by decide +kernel))
  have hlast : lastAbout? (canonical "a.swift") entries = some ("./a.swift", [kept]) := by
    decide +kernel
  have hm : m = withEntries world (.start settings) entries :=
    manager_runLog_submitStructured (.ofList []) [] false _ hpolicy world entries
  have hgone : lost.key ∉ (m.publishedFor "a.swift").map Diagnostic.key := by
    rw [hm, mem_keys_publishedFor_iff hpolicy, hlast]
    rintro ⟨last, hmem, hkey⟩
    obtain rfl := Option.some.inj hmem
    rw [hkept] at hkey
    exact absurd hkey (by decide)
  have hfound : lost.key ∈ normalizedKeys settings [lost] := hlost ▸ List.mem_singleton_self _
  exact ⟨hfound, hgone, fun hnothing =>
    hgone ((hnothing "a.swift" lost.key).mpr ⟨_, List.mem_cons_self .., rfl, hfound⟩)⟩

end Reconcile.CommandLine
