import Mathlib.Logic.Function.Iterate
import Reconcile.Text.Passage

/-!
# What removal leaves

Noise is removed from a text by taking passages out of it, again and again. This file says what one
removal does to a text that is put together from two (`erase_append`, `erase_append_of_not_mem`), when
it does nothing (`erase_eq_self_iff`), and when two notions of a passage come to the same
(`erase_congr`). `exists_iterate_eq` counts the rounds of a repeated removal: a text that gets lighter
in every round which changes it is settled after as many rounds as it is heavy.
-/

namespace Reconcile.Text

/-- A value that is made to go round until a round changes nothing has gone round at most as often as
it was heavy, if every round that changes it makes it lighter. -/
theorem exists_iterate_eq {α : Type} {round settle : α → α} {weight : α → Nat}
    (hstay : ∀ a, round a = a → settle a = a)
    (hgo : ∀ a, round a ≠ a → settle a = settle (round a))
    (hlighter : ∀ a, round a ≠ a → weight (round a) < weight a) (a : α) :
    ∃ rounds ≤ weight a, settle a = round^[rounds] a := by
  induction hweight : weight a using Nat.strongRecOn generalizing a with
  | ind _ ih =>
    by_cases h : round a = a
    · exact ⟨0, Nat.zero_le _, hstay a h⟩
    · obtain ⟨rounds, hle, heq⟩ := ih _ (hweight ▸ hlighter a h) (round a) rfl
      refine ⟨rounds + 1, hweight ▸ Nat.lt_of_le_of_lt hle (hlighter a h), ?_⟩
      rw [hgo a h, heq, Function.iterate_succ_apply]

namespace Passage

variable {passage : Passage}

theorem after?_nil : passage.after? [] = none := by
  cases h : passage.after? [] with
  | none => rfl
  | some rest => exact absurd (passage.length_lt h) (Nat.not_lt_zero _)

theorem suffix_of_after? {text rest : List Char} (h : passage.after? text = some rest) :
    rest <:+ text := by
  obtain ⟨taken, -, rfl⟩ := passage.split h
  exact List.suffix_append ..

theorem erase_of_after? {text rest : List Char} (h : passage.after? text = some rest) :
    passage.erase text = passage.erase rest := by
  cases text with
  | nil => rw [after?_nil] at h; cases h
  | cons c text => exact erase_cons_some passage h

/-- A fixed text stands where a text starts with it. -/
theorem literal_after?_iff {first : Char} {others text rest : List Char} :
    (literal first others).after? text = some rest ↔ text = first :: others ++ rest := by
  dsimp only [literal]
  constructor
  · intro h
    split at h
    next hstart =>
      obtain ⟨tail, rfl⟩ := List.isPrefixOf_iff_prefix.mp hstart
      cases h
      simp
    next => cases h
  · rintro rfl
    rw [if_pos (List.isPrefixOf_iff_prefix.mpr (List.prefix_append ..))]
    simp

theorem occursIn_eq_false_iff {text : List Char} :
    passage.occursIn text = false ↔ ∀ rest, rest <:+ text → passage.after? rest = none := by
  induction text with
  | nil => simp [occursIn, after?_nil]
  | cons c text ih =>
    simp only [occursIn, Bool.or_eq_false_iff, ih, List.suffix_cons_iff, or_imp, forall_and,
      forall_eq, Option.isSome_eq_false_iff, Option.isNone_iff_eq_none]

/-- A removal changes nothing exactly if the passage does not occur. -/
theorem erase_eq_self_iff {text : List Char} :
    passage.erase text = text ↔ passage.occursIn text = false := by
  induction text with
  | nil => simp [occursIn]
  | cons c text ih =>
    cases h : passage.after? (c :: text) with
    | none => simp [erase_cons_none passage h, occursIn, h, ih]
    | some rest =>
      have hshorter : (passage.erase rest).length < (c :: text).length :=
        Nat.lt_of_le_of_lt (passage.erase_sublist rest).length_le (passage.length_lt h)
      have hchanged : passage.erase rest ≠ c :: text := fun heq => by rw [heq] at hshorter; omega
      simp [erase_cons_some passage h, occursIn, h, hchanged]

theorem literal_occursIn_iff {first : Char} {others text : List Char} :
    (literal first others).occursIn text = false ↔ ¬ first :: others <:+: text := by
  rw [occursIn_eq_false_iff]
  constructor
  · rintro h ⟨front, back, rfl⟩
    rw [List.append_assoc] at h
    have hnone := h _ (List.suffix_append ..)
    rw [literal_after?_iff.mpr rfl] at hnone
    cases hnone
  · intro h rest hrest
    rw [Option.eq_none_iff_forall_ne_some]
    intro tail htail
    rw [literal_after?_iff] at htail
    exact h ((List.prefix_append ..).isInfix.trans (htail ▸ hrest.isInfix))

/-- A text is taken apart where no passage crosses the seam: what stands behind a place in front is
told without looking at the back. -/
theorem erase_append {front back : List Char}
    (h : ∀ text, text <:+ front → text ≠ [] →
      passage.after? (text ++ back) = (passage.after? text).map (· ++ back)) :
    passage.erase (front ++ back) = passage.erase front ++ passage.erase back := by
  fun_induction passage.erase front with
  | case1 => rfl
  | case2 c text rest hafter ih =>
    have hsuffix : rest <:+ c :: text := suffix_of_after? hafter
    have hseam := h (c :: text) List.suffix_rfl (List.cons_ne_nil _ _)
    rw [hafter, List.cons_append] at hseam
    rw [List.cons_append, erase_cons_some passage hseam]
    exact ih fun text' h' => h text' (h'.trans hsuffix)
  | case3 c text hafter ih =>
    -- at the last places in front, this is where a passage could have crossed the seam
    have hseam := h (c :: text) List.suffix_rfl (List.cons_ne_nil _ _)
    rw [hafter, List.cons_append] at hseam
    rw [List.cons_append, erase_cons_none passage hseam, List.cons_append]
    rw [ih fun text' h' => h text' (h'.trans (List.suffix_cons ..))]

/-- A text without the character that a passage starts with is left alone. -/
theorem erase_append_of_not_mem {first : Char}
    (hfirst : ∀ c text, c ≠ first → passage.after? (c :: text) = none) {front : List Char}
    (h : first ∉ front) (back : List Char) :
    passage.erase (front ++ back) = front ++ passage.erase back := by
  induction front with
  | nil => rfl
  | cons c front ih =>
    rw [List.mem_cons, not_or] at h
    rw [List.cons_append, erase_cons_none passage (hfirst c _ (Ne.symm h.1)), ih h.2]
    rfl

/-- Two notions of a passage that agree at every place of a text take the same out of it. -/
theorem erase_congr {other : Passage} {text : List Char}
    (h : ∀ rest, rest <:+ text → passage.after? rest = other.after? rest) :
    passage.erase text = other.erase text := by
  fun_induction passage.erase text with
  | case1 => exact other.erase_nil.symm
  | case2 c text rest hafter ih =>
    have hother := (h _ List.suffix_rfl).symm.trans hafter
    rw [erase_cons_some other hother]
    exact ih fun rest' h' => h rest' (h'.trans (suffix_of_after? hafter))
  | case3 c text hafter ih =>
    have hother := (h _ List.suffix_rfl).symm.trans hafter
    rw [erase_cons_none other hother, ih fun rest' h' => h rest' (h'.trans (List.suffix_cons ..))]

end Passage

end Reconcile.Text
