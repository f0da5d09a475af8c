import Mathlib.Data.List.Induction
import Mathlib.Data.List.Nodup
import Reconcile.Diagnostic.Normal

/-!
# Normalizing twice

A diagnostic may be normalized when it is reported, when it is stored, and again when it is handed on.
This file says that once is enough: `Diagnostic.IsNormal` lists what there may be to do, nothing of it
is left in a normal form, and a diagnostic for which there is nothing to do is left as it is
(`normalize_eq_self_iff`). `normalization_is_settled` adds what normalization keeps: the notes are the
first of each, in their order, and the code changes only where a link was missing.
-/

namespace Reconcile

/-! ## Notes -/

/-- The notes that do not stand anywhere before their own place. -/
def firstNotes (notes : List Note) : List Note :=
  (notes.zipIdx.filter fun entry => entry.1 ∉ notes.take entry.2).map Prod.fst

theorem firstNotes_concat (notes : List Note) (note : Note) :
    firstNotes (notes ++ [note]) =
      if note ∈ notes then firstNotes notes else firstNotes notes ++ [note] := by
  have hfront : notes.zipIdx.filter (fun entry => entry.1 ∉ (notes ++ [note]).take entry.2) =
      notes.zipIdx.filter fun entry => entry.1 ∉ notes.take entry.2 := by
    refine List.filter_congr fun entry hentry => ?_
    have hplace : entry.2 < notes.length := by
      simpa using List.snd_lt_of_mem_zipIdx hentry
    rw [List.take_append_of_le_length (Nat.le_of_lt hplace)]
  rw [firstNotes, List.zipIdx_append, List.filter_append, hfront, List.map_append]
  split
  next hmem => simp [firstNotes, hmem]
  next hmem => simp [firstNotes, hmem]

theorem distinctNotes_eq_firstNotes (notes : List Note) :
    distinctNotes notes = firstNotes notes := by
  induction notes using List.reverseRecOn with
  | nil => rfl
  | append_singleton notes note ih => rw [distinctNotes_concat, firstNotes_concat, ih]

theorem nodup_distinctNotes (notes : List Note) : (distinctNotes notes).Nodup := by
  induction notes using List.reverseRecOn with
  | nil => exact List.nodup_nil
  | append_singleton notes note ih =>
    rw [distinctNotes_concat]
    split
    next => exact ih
    next hmem =>
      refine List.nodup_append.mpr ⟨ih, List.nodup_singleton note, fun other hother last hlast => ?_⟩
      rw [mem_distinctNotes] at hother
      rw [List.mem_singleton.mp hlast]
      exact fun heq => hmem (heq ▸ hother)

/-- Notes are left as they are exactly if none stands there twice. -/
theorem distinctNotes_eq_self_iff {notes : List Note} :
    distinctNotes notes = notes ↔ notes.Nodup := by
  constructor
  · intro h
    rw [← h]
    exact nodup_distinctNotes notes
  · intro h
    induction notes using List.reverseRecOn with
    | nil => rfl
    | append_singleton notes note ih =>
      obtain ⟨hnotes, -, hapart⟩ := List.nodup_append.mp h
      have hnew : note ∉ notes := fun hmem =>
        hapart note hmem note (List.mem_singleton_self note) rfl
      rw [distinctNotes_concat, if_neg hnew, ih hnotes]

/-! ## Codes -/

namespace Normalization

variable {how : Normalization}

/-- A code is left alone exactly if links are, or it misses none. -/
theorem code_eq_self_iff {code : Option Code} :
    how.code code = code ↔
      (how.repairLinks = true → ∀ c ∈ code, how.rules.missingLink? c = none) := by
  rw [Normalization.code]
  cases code with
  | none => simp
  | some c => cases how.repairLinks <;> simp [LinkRules.repair_eq_self_iff]

theorem code_code (how : Normalization) (code : Option Code) :
    how.code (how.code code) = how.code code := by
  rw [code_eq_self_iff]
  intro hrepair c hc
  rw [Normalization.code, if_pos hrepair] at hc
  obtain ⟨before, -, rfl⟩ := Option.map_eq_some_iff.mp (Option.mem_def.mp hc)
  exact LinkRules.missingLink?_repair how.rules before

/-- A code is left alone, or it was missing its link and has it now. -/
theorem code_eq_self_or (how : Normalization) (code : Option Code) :
    how.code code = code ∨ how.repairLinks = true ∧
      ∃ c target link, code = some c ∧ c.target = some target ∧ c.actionable = false ∧
        how.rules.link? target = some link ∧
        how.code code = some ⟨LinkRules.linkedValue, some link, true⟩ := by
  rw [Normalization.code]
  split
  next hrepair =>
    cases code with
    | none => exact .inl rfl
    | some c =>
      cases hmissing : how.rules.missingLink? c with
      | none => exact .inl (congrArg some (LinkRules.repair_eq_self_iff.mpr hmissing))
      | some link =>
        obtain ⟨target, htarget, haction, hlink⟩ := LinkRules.missingLink?_eq_some_iff.mp hmissing
        refine .inr ⟨hrepair, c, target, link, rfl, htarget, haction, hlink, ?_⟩
        rw [Option.map_some, LinkRules.repair, hmissing]
  next => exact .inl rfl

end Normalization

/-! ## Diagnostics -/

namespace Diagnostic

/-- There is nothing to normalize: the message is in its one wording, no note is there twice, and if
links are repaired, the code misses none. -/
structure IsNormal (how : Normalization) (d : Diagnostic) : Prop where
  message : Wording.normalize d.message = d.message
  notes : d.notes.Nodup
  code : how.repairLinks = true → ∀ c ∈ d.code, how.rules.missingLink? c = none

/-- A diagnostic is left as it is exactly if there is nothing to normalize. -/
theorem normalize_eq_self_iff {how : Normalization} {d : Diagnostic} :
    d.normalize how = d ↔ d.IsNormal how := by
  rw [Diagnostic.ext_iff]
  constructor
  · rintro ⟨-, -, -, hmessage, -, hnotes, hcode⟩
    exact ⟨hmessage, distinctNotes_eq_self_iff.mp hnotes, Normalization.code_eq_self_iff.mp hcode⟩
  · rintro ⟨hmessage, hnotes, hcode⟩
    exact ⟨rfl, rfl, rfl, hmessage, rfl, distinctNotes_eq_self_iff.mpr hnotes,
      Normalization.code_eq_self_iff.mpr hcode⟩

theorem isNormal_normalize (how : Normalization) (d : Diagnostic) :
    (d.normalize how).IsNormal how where
  message := Wording.normalize_normalize d.message
  notes := nodup_distinctNotes d.notes
  code := Normalization.code_eq_self_iff.mp (how.code_code d.code)

/-- **Normalization is settled.** However links are treated, nothing is left to do for a diagnostic in
normal form, and doing it again gives the same one. It is the diagnostic it was but for its message,
its notes and its code; the notes are the first of each, in their order; and the code is the one it
was, unless links are repaired and it had a target that could not be opened as it stood. Then the link
can be opened. -/
theorem normalization_is_settled (how : Normalization) (d : Diagnostic) :
    let normal := d.normalize how
    normal.IsNormal how ∧ normal.normalize how = normal ∧
      normal = { d with message := normal.message, notes := normal.notes, code := normal.code } ∧
      normal.notes = firstNotes d.notes ∧ normal.notes.Nodup ∧
      (normal.code = d.code ∨ how.repairLinks = true ∧
        ∃ code target link, d.code = some code ∧ code.target = some target ∧
          code.actionable = false ∧ how.rules.link? target = some link ∧
          normal.code = some ⟨LinkRules.linkedValue, some link, true⟩) := by
  intro normal
  have hnormal : normal.IsNormal how := isNormal_normalize how d
  refine ⟨hnormal, normalize_eq_self_iff.mpr hnormal, rfl, ?_, hnormal.notes, ?_⟩
  · exact distinctNotes_eq_firstNotes d.notes
  · exact how.code_eq_self_or d.code

end Diagnostic

end Reconcile
