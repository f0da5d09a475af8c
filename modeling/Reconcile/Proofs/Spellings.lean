import Reconcile.Proofs.History
import Reconcile.Proofs.Paths

/-!
# Spellings of one file

A file goes by the identity of its path, and so two paths of one identity are two spellings of one
file. Whatever is submitted, published or stored does not depend on the spelling. Deletion does: it
reads the extension off the path as it is spelled, before it asks for the identity.

* `extensionChars_eq`: a path that ends in a name has the extension of its identity, and one that
  ends in a slash, in `.` or in `..` has none.
* `spellings_agree_iff`: so two spellings of a file are deleted alike exactly if both end in names or
  neither does, or if it does not matter: nothing is stored for the file, the manager is disposed, or
  the extension of the file is tracked just as a missing one.
* `deleted_under_one_spelling`: one spelling of a stored source file deletes it, another does not.

A name at the end of a path is the part that is pushed last, so nothing steps over it: that is why
the normalized path ends in it too (`lastPart_normalizeChars`).
-/

namespace Reconcile

namespace Path

/-! ## The last part of a path -/

/-- The last part of a path. -/
def lastPart (path : List Char) : List Char :=
  (parts path).getLast?.getD []

/-- The parts that name nothing: those that are passed over, and the step up. -/
def nameless : List (List Char) := [[], ['.'], up]

/-- Whether a path ends in a name. -/
def endsInName (path : List Char) : Bool :=
  lastPart path ∉ nameless

theorem parts_ne_nil (path : List Char) : parts path ≠ [] :=
  List.splitOn_ne_nil '/' path

theorem exists_parts_eq_concat (path : List Char) :
    ∃ front, parts path = front ++ [lastPart path] := by
  refine ⟨(parts path).dropLast, ?_⟩
  rw [lastPart, List.getLast?_eq_some_getLast (parts_ne_nil path), Option.getD_some,
    List.dropLast_concat_getLast]

/-- A name is put on top of what is taken. -/
theorem push_of_name {part : List Char} (h : part ∉ nameless) (rooted : Bool)
    (taken : List (List Char)) : push rooted taken part = part :: taken := by
  have hname : part ≠ [] ∧ part ≠ ['.'] ∧ part ≠ ['.', '.'] := by simpa [nameless, up] using h
  unfold push
  rw [if_neg (by simp [hname]), if_neg hname.2.2]

/-- The text of a normalized path ends in the last part that is kept. -/
theorem lastPart_spelled (depth : Nat) {front : List (List Char)} {last : List Char}
    (h : ∀ part ∈ front ++ [last], '/' ∉ part) :
    lastPart (spelled depth (front ++ [last])) = last := by
  induction depth with
  | zero =>
    show (parts (join (front ++ [last]))).getLast?.getD [] = last
    rw [parts, join, List.splitOn_intercalate '/' h (List.append_ne_nil_of_right_ne_nil _ (by simp)),
      List.getLast?_concat, Option.getD_some]
  | succ depth ih =>
    show (parts ('/' :: spelled depth (front ++ [last]))).getLast?.getD [] = last
    rw [parts_slash, List.getLast?_cons_of_ne_nil (parts_ne_nil _)]
    exact ih

/-- The name that a path ends in is the last part of the normalized path. -/
theorem lastPart_normalizeChars {path : List Char} (h : endsInName path = true) :
    lastPart (normalizeChars path) = lastPart path := by
  have hname : lastPart path ∉ nameless := of_decide_eq_true h
  obtain ⟨front, hparts⟩ := exists_parts_eq_concat path
  let taken := front.foldl (push (rootDepth path != 0)) []
  have hpushed : (parts path).foldl (push (rootDepth path != 0)) [] = lastPart path :: taken := by
    rw [hparts, List.foldl_append, List.foldl_cons, List.foldl_nil, push_of_name hname]
  have hsettled : Settled (rootDepth path != 0) (lastPart path :: taken) :=
    hpushed ▸ (Settled.nil _).foldl_push slash_not_mem_of_mem_parts
  have hspelled : lastPart (spelled (rootDepth path) (taken.reverse ++ [lastPart path])) =
      lastPart path := by
    refine lastPart_spelled _ fun part hpart => (hsettled.plain part ?_).2.2
    rw [← List.reverse_cons] at hpart
    exact List.mem_reverse.mp hpart
  -- what ends in a name is not empty
  have hne : spelled (rootDepth path) (taken.reverse ++ [lastPart path]) ≠ [] := by
    intro heq
    rw [heq] at hspelled
    exact hname (hspelled ▸ List.mem_cons_self ..)
  have hnormal : normalizeChars path =
      if spelled (rootDepth path) ((parts path).foldl (push (rootDepth path != 0)) []).reverse = []
      then ['.']
      else spelled (rootDepth path) ((parts path).foldl (push (rootDepth path != 0)) []).reverse :=
    rfl
  rw [hnormal, hpushed, List.reverse_cons, if_neg hne, hspelled]

/-! ## Extensions -/

/-- A path has the extension of its last part. -/
theorem extensionChars_congr {a b : List Char} (h : lastPart a = lastPart b) :
    extensionChars a = extensionChars b := by
  unfold extensionChars
  rw [← lastPart, ← lastPart, h]

/-- A path that ends in a name has the extension of its identity, and any other has none. -/
theorem extensionChars_eq (path : List Char) :
    extensionChars path = if endsInName path then extensionChars (normalizeChars path) else [] := by
  split
  next h => exact extensionChars_congr (lastPart_normalizeChars h).symm
  next h =>
    have hnameless : lastPart path ∈ nameless := by simpa [endsInName] using h
    have hlast : ∀ part ∈ nameless, lastPart part = part ∧ extensionChars part = [] := by decide
    exact (extensionChars_congr (hlast _ hnameless).1.symm).trans (hlast _ hnameless).2

end Path

namespace Manager

/-! ## Files under any spelling -/

variable (m : Manager)

/-- Whether the deletion of a path is heeded, which its extension decides. -/
def tracks (path : String) : Bool :=
  m.settings.extensions.contains (String.ofList (Text.lower (Path.extensionChars path.toList)))

/-- A path that ends in a name is tracked as its identity is, any other as a path without an
extension. -/
theorem tracks_eq (path : String) :
    m.tracks path =
      if Path.endsInName path.toList then m.tracks (canonical path)
      else m.settings.extensions.contains "" := by
  rw [tracks, Path.extensionChars_eq]
  split
  next => rw [tracks, canonical, Path.normalize, String.toList_ofList]
  next => rfl

theorem deleteFile_eq (path : String) :
    m.deleteFile path =
      if m.disposed || !m.tracks path || !m.store.reports.contains (canonical path) then (m, false)
      else
        ({ m with
            store := m.store.remove (canonical path)
            published := m.published.erase (canonical path)
            board := m.board.delete (canonical path) }, true) :=
  rfl

theorem deleteFile_of_not_stored {path : String}
    (h : m.disposed = true ∨ canonical path ∉ m.store.files) : m.deleteFile path = (m, false) := by
  refine if_pos ?_
  rcases h with hdisposed | hstored
  · rw [hdisposed, Bool.true_or, Bool.true_or]
  · have habsent : m.store.reports.contains (canonical path) = false :=
      Bool.eq_false_iff.mpr fun hcontains => hstored ((FileMap.mem_files_iff ..).mpr hcontains)
    rw [habsent, Bool.not_false, Bool.or_true]

/-- The deletion of a stored file is heeded exactly if its path is tracked. -/
theorem snd_deleteFile_of_stored {path : String} (hlive : m.disposed = false)
    (hstored : canonical path ∈ m.store.files) : (m.deleteFile path).2 = m.tracks path := by
  have hcontains : m.store.reports.contains (canonical path) = true :=
    (FileMap.mem_files_iff ..).mp hstored
  rw [deleteFile_eq, hlive, hcontains]
  cases m.tracks path <;> rfl

theorem deleteFile_congr {a b : String} (h : canonical a = canonical b)
    (htracks : m.tracks a = m.tracks b) : m.deleteFile a = m.deleteFile b := by
  rw [deleteFile_eq, deleteFile_eq, h, htracks]

/-- Two spellings of a stored file are deleted alike exactly if both are tracked or neither is. -/
theorem deleteFile_eq_iff {a b : String} (h : canonical a = canonical b) :
    m.deleteFile a = m.deleteFile b ↔
      (m.disposed = true ∨ canonical a ∉ m.store.files) ∨ m.tracks a = m.tracks b := by
  constructor
  · intro heq
    by_cases hidle : m.disposed = true ∨ canonical a ∉ m.store.files
    · exact Or.inl hidle
    · rw [not_or, Bool.not_eq_true, Decidable.not_not] at hidle
      obtain ⟨hlive, hstored⟩ := hidle
      rw [← m.snd_deleteFile_of_stored hlive hstored,
        ← m.snd_deleteFile_of_stored hlive (h ▸ hstored), heq]
      exact Or.inr rfl
  · rintro (hidle | htracks)
    · rw [m.deleteFile_of_not_stored hidle, m.deleteFile_of_not_stored (h ▸ hidle)]
    · exact m.deleteFile_congr h htracks

theorem ite_eq_ite_iff : ∀ p q x y : Bool,
    (if p then x else y) = (if q then x else y) ↔ p = q ∨ x = y := by
  decide

/-- **Spellings agree but for deletion.** Let two paths have one identity. In every state, submitting
under either comes to the same, and so do what is published and what is stored for them. Deleting
either comes to the same exactly if the manager is disposed, if nothing is stored for the file, if
both paths end in names or neither does, or if the extension of the file is tracked just as a missing
one is. -/
theorem spellings_agree_iff (world : Surroundings) {a b : String} (h : canonical a = canonical b) :
    (∀ source ds, m.submit world a source ds = m.submit world b source ds) ∧
      m.publishedFor a = m.publishedFor b ∧ m.storedFor a = m.storedFor b ∧
      (m.deleteFile a = m.deleteFile b ↔
        m.disposed = true ∨ canonical a ∉ m.store.files ∨
          Path.endsInName a.toList = Path.endsInName b.toList ∨
          m.tracks (canonical a) = m.settings.extensions.contains "") := by
  refine ⟨?_, ?_, ?_, ?_⟩
  · intro source ds
    rw [submit, submit, h]
  · rw [publishedFor, publishedFor, h]
  · rw [storedFor, storedFor, h]
  · rw [m.deleteFile_eq_iff h, or_assoc, m.tracks_eq a, m.tracks_eq b, ← h]
    exact or_congr_right (or_congr_right (ite_eq_ite_iff ..))

/-- Two spellings of a stored source file that both end in its name. -/
theorem spellings_agree_iff_of_steps :
    let a := "src/./lib/../a.swift"
    let b := "src//a.swift"
    let m := (start .standard).after (.willing fun _ => true) (.submit a .structured [])
    canonical a = canonical b ∧ canonical a ∈ m.store.files ∧ m.deleteFile a = m.deleteFile b := by
  intro a b m
  have h : canonical a = canonical b := by decide +kernel
  refine ⟨h, by decide +kernel, ?_⟩
  obtain ⟨-, -, -, hdelete⟩ := m.spellings_agree_iff (.willing fun _ => true) h
  exact hdelete.mpr (Or.inr (Or.inr (Or.inl (by decide +kernel))))

/-- A slash at the end of the path of a stored source file saves the file from deletion. -/
theorem deleted_under_one_spelling :
    let m := (start .standard).after (.willing fun _ => true) (.submit "a.swift" .structured [])
    canonical "a.swift" = canonical "a.swift/" ∧
      (m.deleteFile "a.swift").2 = true ∧ (m.deleteFile "a.swift").1.store.files = [] ∧
      (m.deleteFile "a.swift/").2 = false ∧ (m.deleteFile "a.swift/").1.store.files = ["a.swift"] := by
  decide +kernel

end Manager

end Reconcile
