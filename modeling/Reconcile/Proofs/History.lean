import Reconcile.Manager

/-!
# Histories of a manager

A history is a list of events: what the producers report, what becomes of runs, which files are
deleted, which settings are applied. Runs go by their numbers, so that whoever holds the number of a
run may feed, end or give it up at any time, between any two other events.

What one step keeps, many keep: one event a history (`afterAll_induction`), publishing one file
publishing several (`publishAll_induction`), one report several (`submitAll_induction`).

The second half says what publishing comes to where the board refuses nothing: files are published
one by one, which sets their lists in what was published before and on the board, and leaves
everything else as it is (`publishAll_willing`).
-/

namespace Reconcile

/-! ## What comes last -/

section

variable {α β : Type}

/-- The last of what a list gives, once it has one more member: what that gives, or the last before.
-/
theorem getLast?_filterMap_concat (f : α → Option β) (xs : List α) (x : α) :
    ((xs ++ [x]).filterMap f).getLast? = (f x).or (xs.filterMap f).getLast? := by
  rw [List.getLast?_filterMap, List.getLast?_filterMap, List.reverse_concat, List.findSome?_cons]
  cases f x with
  | none => rfl
  | some b => rfl

theorem getLast?_filter_concat (p : α → Bool) (xs : List α) (x : α) :
    ((xs ++ [x]).filter p).getLast? = if p x then some x else (xs.filter p).getLast? := by
  rw [← List.filterMap_eq_filter, getLast?_filterMap_concat]
  cases h : p x with
  | true => simp [Option.guard, h]
  | false => simp [Option.guard, h]

end

/-! ## Events -/

/-- What can happen to a manager. -/
inductive Event where
  | submit (file : String) (source : Source) (ds : List Diagnostic)
  | beginRun
  | feed (number : Nat) (chunk : String)
  | close (number : Nat)
  | abandon (number : Nat)
  | deleteFile (path : String)
  | setPolicy (policy : Option Policy)
  | reconfigure (settings : Settings)
  | clear
  | dispose

/-- Surroundings in which the board refuses no file. -/
def Surroundings.willing (resolves : String → Bool) : Surroundings where
  resolves
  refuses _ _ := false

namespace Manager

/-- The manager after an event. -/
def after (world : Surroundings) (m : Manager) : Event → Manager
  | .submit file source ds => (m.submit world file source ds).1
  | .beginRun => (m.beginRun world).1
  | .feed number chunk => (m.feed world number chunk).1
  | .close number => m.close world number
  | .abandon number => m.abandon number
  | .deleteFile path => (m.deleteFile path).1
  | .setPolicy policy => (m.setPolicy world policy).1
  | .reconfigure settings => (m.reconfigure world settings).1
  | .clear => m.clear
  | .dispose => m.dispose

/-- The manager after a history. -/
def afterAll (world : Surroundings) (m : Manager) (events : List Event) : Manager :=
  events.foldl (after world) m

/-- What holds at the start and is kept by every event holds after every history. -/
theorem afterAll_induction {world : Surroundings} {P : Manager → Prop} {m : Manager} (start : P m)
    (step : ∀ m event, P m → P (m.after world event)) (events : List Event) :
    P (m.afterAll world events) := by
  induction events generalizing m with
  | nil => exact start
  | cons event events ih => exact ih (step m event start)

variable {world : Surroundings} {P : Manager → Prop} {m : Manager}

/-- What publishing any of some files keeps is kept by publishing them all, also where the board
refuses one of them. -/
theorem publishAll_induction {files : List String} (start : P m)
    (step : ∀ m, P m → ∀ file ∈ files, P (m.publish world file).1) :
    P (m.publishAll world files).1 := by
  induction files generalizing m with
  | nil => exact start
  | cons file files ih =>
    have hnext := step m start file (List.mem_cons_self ..)
    rw [publishAll]
    split
    next next heq =>
      rw [heq] at hnext
      exact ih hnext fun m hm other hother => step m hm other (List.mem_cons_of_mem _ hother)
    next => exact hnext

/-- What submitting any report of the compiler keeps is kept by submitting several, also where the
board refuses a file. -/
theorem submitAll_induction (start : P m)
    (step : ∀ m, P m → ∀ path ds, P (m.submit world path .textual ds).1)
    (reports : List (String × List Diagnostic)) : P (m.submitAll world reports).1 := by
  induction reports generalizing m with
  | nil => exact start
  | cons report reports ih =>
    have hnext := step m start report.1 report.2
    rw [submitAll]
    split
    next next heq =>
      rw [heq] at hnext
      exact ih hnext
    next => exact hnext

end Manager

/-! ## Publishing on a board that refuses nothing -/

/-- A map in which the values of some files are set anew. -/
def FileMap.refresh {α : Type} (value : String → α) (files : List String) (map : FileMap α) :
    FileMap α :=
  files.foldl (fun map file => map.set file (value file)) map

namespace FileMap

variable {α : Type} (value : String → α)

/-- A value that is set counts unless the file is set again. -/
theorem get?_set_again (map : FileMap α) {file other : String} {files : List String}
    {first last : α} (h : other = file → other ∉ files → first = last) :
    (if other ∈ files then some last else (map.set file first).get? other) =
      if other ∈ file :: files then some last else map.get? other := by
  rw [get?_set]
  by_cases hmem : other ∈ files
  · rw [if_pos hmem, if_pos (List.mem_cons_of_mem _ hmem)]
  · rw [if_neg hmem]
    by_cases heq : other = file
    · rw [if_pos heq, if_pos (heq ▸ List.mem_cons_self ..), h heq hmem]
    · rw [if_neg heq, if_neg (by simp [heq, hmem])]

theorem get?_refresh (files : List String) (map : FileMap α) (other : String) :
    (map.refresh value files).get? other =
      if other ∈ files then some (value other) else map.get? other := by
  induction files generalizing map with
  | nil => rfl
  | cons file files ih =>
    show ((map.set file (value file)).refresh value files).get? other = _
    rw [ih]
    exact get?_set_again map fun heq _ => congrArg value heq.symm

/-- Files that a map has already keep their places. -/
theorem files_refresh_of_subset {files : List String} {map : FileMap α}
    (h : ∀ file ∈ files, file ∈ map.files) : (map.refresh value files).files = map.files := by
  induction files generalizing map with
  | nil => rfl
  | cons file files ih =>
    have hset : (map.set file (value file)).files = map.files := by
      rw [files_set, if_pos (h file (List.mem_cons_self ..))]
    show ((map.set file (value file)).refresh value files).files = _
    rw [ih (fun f hf => by rw [hset]; exact h f (List.mem_cons_of_mem _ hf)), hset]

/-- Files that a map does not have are put at its end, in their order. -/
theorem files_refresh_of_nodup {files : List String} {map : FileMap α}
    (h : (map.files ++ files).Nodup) : (map.refresh value files).files = map.files ++ files := by
  induction files generalizing map with
  | nil => exact (List.append_nil _).symm
  | cons file files ih =>
    have hnew : file ∉ map.files := by
      intro hmem
      exact (List.nodup_append.mp h).2.2 _ hmem _ (List.mem_cons_self ..) rfl
    have hset : (map.set file (value file)).files = map.files ++ [file] := by
      rw [files_set, if_neg hnew]
    have happend : map.files ++ file :: files = (map.set file (value file)).files ++ files := by
      rw [hset, List.append_assoc, List.singleton_append]
    show ((map.set file (value file)).refresh value files).files = _
    rw [ih (happend ▸ h), happend]

end FileMap

namespace Manager

theorem publish_willing (resolves : String → Bool) (m : Manager) (file : String) :
    m.publish (.willing resolves) file =
      ({ m with
          published := m.published.set file (m.merged file)
          board := m.board.set file (m.merged file) }, none) :=
  rfl

/-- Publishing files sets their lists in what was published and on the board, and nothing else. -/
theorem publishAll_willing (resolves : String → Bool) (m : Manager) (files : List String) :
    ∃ board, m.publishAll (.willing resolves) files =
        ({ m with published := m.published.refresh m.merged files, board }, none) ∧
      board.shown = m.board.shown.refresh m.merged files := by
  induction files generalizing m with
  | nil => exact ⟨m.board, rfl, rfl⟩
  | cons file files ih =>
    rw [publishAll, publish_willing]
    obtain ⟨board, heq, hshown⟩ := ih { m with
      published := m.published.set file (m.merged file)
      board := m.board.set file (m.merged file) }
    exact ⟨board, heq, hshown⟩

end Manager

end Reconcile
