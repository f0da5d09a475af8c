/-!
# Passages and their removal

A `Passage` recognizes one kind of stretch of text: a noise marker, an escape sequence. Removing a
passage goes from left to right, takes each stretch where it first starts, and keeps the rest as it
stands. `erase_sublist` says that removal only ever drops characters; repeated removal ends for that
reason.
-/

namespace Reconcile.Text

/-- One kind of stretch of text, given by what follows a stretch that starts the text. A stretch is
never empty, and what follows it is the end of the text. -/
structure Passage where
  after? : List Char → Option (List Char)
  split : ∀ {text rest : List Char}, after? text = some rest →
    ∃ taken, taken ≠ [] ∧ text = taken ++ rest

namespace Passage

/-- What follows a passage is shorter than the text. -/
theorem length_lt (passage : Passage) {text rest : List Char}
    (h : passage.after? text = some rest) : rest.length < text.length := by
  obtain ⟨taken, hne, rfl⟩ := passage.split h
  have : 0 < taken.length := List.length_pos_iff.2 hne
  rw [List.length_append]
  omega

/-- The passage of one fixed, non-empty text. -/
def literal (first : Char) (others : List Char) : Passage where
  after? text :=
    if (first :: others).isPrefixOf text then some (text.drop (others.length + 1)) else none
  split {text rest} h := by
    split at h
    next hstart =>
      obtain ⟨tail, rfl⟩ := List.isPrefixOf_iff_prefix.1 hstart
      refine ⟨first :: others, by simp, ?_⟩
      have : rest = tail := by
        have := Option.some.inj h
        simpa using this.symm
      rw [this]
    next => simp at h

/-- The text without its passages. -/
def erase (passage : Passage) : List Char → List Char
  | [] => []
  | c :: text =>
    match _h : passage.after? (c :: text) with
    | some rest => passage.erase rest
    | none => c :: passage.erase text
termination_by text => text.length
decreasing_by
  · exact passage.length_lt _h
  · simp

/-- Whether some passage occurs in the text. -/
def occursIn (passage : Passage) : List Char → Bool
  | [] => false
  | c :: text => (passage.after? (c :: text)).isSome || passage.occursIn text

/-- What follows the last passage of the text, the passages being taken from left to right. -/
def afterLast? (passage : Passage) : List Char → Option (List Char)
  | [] => none
  | c :: text =>
    match _h : passage.after? (c :: text) with
    | some rest => some ((passage.afterLast? rest).getD rest)
    | none => passage.afterLast? text
termination_by text => text.length
decreasing_by
  · exact passage.length_lt _h
  · simp

@[simp] theorem erase_nil (passage : Passage) : passage.erase [] = [] := by
  rw [erase]

theorem erase_cons_some (passage : Passage) {c : Char} {text rest : List Char}
    (h : passage.after? (c :: text) = some rest) :
    passage.erase (c :: text) = passage.erase rest := by
  rw [erase]
  split
  next rest' h' => rw [h] at h'; cases h'; rfl
  next h' => rw [h] at h'; cases h'

theorem erase_cons_none (passage : Passage) {c : Char} {text : List Char}
    (h : passage.after? (c :: text) = none) :
    passage.erase (c :: text) = c :: passage.erase text := by
  rw [erase]
  split
  next rest' h' => rw [h] at h'; cases h'
  next h' => rfl

/-- Removal only drops characters. -/
theorem erase_sublist (passage : Passage) (text : List Char) :
    (passage.erase text).Sublist text := by
  fun_induction passage.erase text with
  | case1 => exact List.Sublist.refl _
  | case2 c text rest h ih =>
    obtain ⟨taken, _, heq⟩ := passage.split h
    rw [heq]
    exact ih.trans (List.sublist_append_right ..)
  | case3 c text h ih => exact ih.cons_cons c

end Passage

end Reconcile.Text
