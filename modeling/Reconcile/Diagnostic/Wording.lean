import Reconcile.Text.Blank
import Reconcile.Text.Casing
import Reconcile.Text.Passage

/-!
# The wording of messages

The two producers word the same problem differently: the compiler appends bracketed annotations
such as `[-Wunused]` or `[#Group]`, the language service adds `(fix available)`, and either may
begin with a small or a capital letter. `normalize` brings a message to the one wording both share.

Cleaning a message can expose a new first letter or a new marker, so the steps are repeated until
the message stays as it is. Every round that changes it either turns its first character into
characters that have no other upper case, or only drops characters; so the pair of *how many
characters still have an upper case* and *how many characters there are* goes down, and the rounds
end (`round_eq_self_or_lt`).
-/

namespace Reconcile.Wording

open Reconcile.Text

/-- What follows the closing bracket of an annotation; an annotation stays on its line. -/
def afterBracket? : List Char → Option (List Char)
  | [] => none
  | ']' :: text => some text
  | c :: text => if c = '\n' then none else afterBracket? text

private theorem afterBracket?_suffix {text rest : List Char} (h : afterBracket? text = some rest) :
    rest <:+ text := by
  fun_induction afterBracket? text with
  | case1 => cases h
  | case2 => cases h; exact List.suffix_cons ..
  | case3 => cases h
  | case4 _ _ _ _ ih => exact (ih h).trans (List.suffix_cons ..)

/-- Flag and group annotations of the compiler: `[-W…]` and `[#…]`. -/
def bracketed : Passage where
  after?
    | '[' :: '-' :: 'W' :: text => afterBracket? text
    | '[' :: '#' :: text => afterBracket? text
    | _ => none
  split {text rest} h := by
    split at h
    next text' =>
      obtain ⟨front, rfl⟩ := afterBracket?_suffix h
      exact ⟨'[' :: '-' :: 'W' :: front, by simp, by simp⟩
    next text' =>
      obtain ⟨front, rfl⟩ := afterBracket?_suffix h
      exact ⟨'[' :: '#' :: front, by simp, by simp⟩
    next => cases h

/-- The marker of a problem that an editor can fix. -/
def fixMarker : Passage :=
  Passage.literal '(' "fix available)".toList

/-- A message without annotations, fix markers and surrounding white space. -/
def clean (message : List Char) : List Char :=
  trim (fixMarker.erase (bracketed.erase message))

/-- A message with its first character in upper case. -/
def capitalize : List Char → List Char
  | [] => []
  | c :: message => upperChar c ++ message

/-- One round of normalization. -/
def round (message : List Char) : List Char :=
  capitalize (clean message)

/-- How many characters of a message have another upper case. -/
def uncapped (message : List Char) : Nat :=
  message.countP fun c => !isUpperFixed c

/-- Trimming only drops characters. -/
theorem trim_sublist (text : List Char) : (trim text).Sublist text := by
  have h := ((List.dropWhile_sublist isBlank
    (l := (text.dropWhile isBlank).reverse)).reverse)
  rw [List.reverse_reverse] at h
  exact h.trans (List.dropWhile_sublist _)

/-- Cleaning only drops characters. -/
theorem clean_sublist (message : List Char) : (clean message).Sublist message :=
  (trim_sublist _).trans ((fixMarker.erase_sublist _).trans (bracketed.erase_sublist _))

theorem uncapped_upperChar (c : Char) : uncapped (upperChar c) = 0 := by
  rw [uncapped, List.countP_eq_zero]
  intro d hd
  simp [isUpperFixed, upperChar_eq_self_of_mem hd]

/-- A round that changes a message lowers the number of characters with another upper case, or
keeps it from growing and shortens the message. -/
theorem round_eq_self_or_lt (message : List Char) :
    round message = message ∨
      uncapped (round message) < uncapped message ∨
      (uncapped (round message) ≤ uncapped message ∧ (round message).length < message.length) := by
  have hsub := clean_sublist message
  have hcount : uncapped (clean message) ≤ uncapped message := hsub.countP_le
  have hkept : clean message = message ∨ (clean message).length < message.length := by
    rcases Nat.lt_or_ge (clean message).length message.length with hlt | hge
    · exact Or.inr hlt
    · exact Or.inl (hsub.eq_of_length_le hge)
  unfold round
  generalize clean message = cleaned at hcount hkept
  cases cleaned with
  | nil =>
    rcases hkept with h | h
    · exact Or.inl h
    · exact Or.inr (Or.inr ⟨hcount, h⟩)
  | cons c rest =>
    by_cases hc : upperChar c = [c]
    · have hsame : capitalize (c :: rest) = c :: rest := by simp [capitalize, hc]
      rw [hsame]
      rcases hkept with h | h
      · exact Or.inl h
      · exact Or.inr (Or.inr ⟨hcount, h⟩)
    · refine Or.inr (Or.inl (Nat.lt_of_lt_of_le ?_ hcount))
      have hone : isUpperFixed c = false := by simpa [isUpperFixed] using hc
      have hzero := uncapped_upperChar c
      simp only [uncapped] at hzero ⊢
      rw [capitalize, List.countP_append, hzero, List.countP_cons]
      simp [hone]

/-- The one wording of a message: rounds until a round changes nothing. -/
def normalizeChars (message : List Char) : List Char :=
  if round message = message then message else normalizeChars (round message)
termination_by (uncapped message, message.length)
decreasing_by
  next h =>
    rcases round_eq_self_or_lt message with heq | hlt | ⟨hle, hlt⟩
    · exact absurd heq h
    · exact Prod.Lex.left _ _ hlt
    · rcases Nat.lt_or_eq_of_le hle with hlt' | heq'
      · exact Prod.Lex.left _ _ hlt'
      · rw [heq']
        exact Prod.Lex.right _ hlt

/-- A normalized message stays as it is under another round. -/
theorem round_normalizeChars (message : List Char) :
    round (normalizeChars message) = normalizeChars message := by
  fun_induction normalizeChars message with
  | case1 message h => exact h
  | case2 message h ih => exact ih

theorem normalizeChars_of_round {message : List Char} (h : round message = message) :
    normalizeChars message = message := by
  rw [normalizeChars, if_pos h]

/-- A round more or less before the rounds makes no difference. -/
theorem normalizeChars_round (message : List Char) :
    normalizeChars (round message) = normalizeChars message := by
  by_cases h : round message = message
  · rw [h]
  · rw [normalizeChars.eq_def message, if_neg h]

/-- The one wording of a message. -/
def normalize (message : String) : String :=
  String.ofList (normalizeChars message.toList)

@[simp] theorem toList_normalize (message : String) :
    (normalize message).toList = normalizeChars message.toList :=
  String.toList_ofList

/-- A message that one round leaves as it is is normal. -/
theorem normalize_of_round {message : String}
    (h : round message.toList = message.toList) : normalize message = message := by
  rw [normalize, normalizeChars_of_round h, String.ofList_toList]

theorem normalize_normalize (message : String) :
    normalize (normalize message) = normalize message :=
  normalize_of_round (by rw [toList_normalize, round_normalizeChars])

end Reconcile.Wording
