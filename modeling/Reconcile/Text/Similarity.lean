/-!
# Similarity

Two texts agree in their longest common run of characters, and then again in what stands before the
run and in what stands after it. The similarity of two texts is how much of them agrees, as a
fraction of both lengths together: all of equal texts, nothing of texts without a common character.

`closest` picks from several known words the few that are most similar to a word.
-/

namespace Reconcile.Text

/-- A run of characters that two texts have in common: where it starts in each, and its length. -/
structure CommonRun where
  first : Nat
  second : Nat
  length : Nat
deriving DecidableEq

/-- How many characters two texts have in common from their starts on. -/
def sharedStart : List Char → List Char → Nat
  | a :: as, b :: bs => if a = b then sharedStart as bs + 1 else 0
  | _, _ => 0

/-- The runs in common from every pair of starts on, in the order of the starts. -/
def commonRuns (a b : List Char) : List CommonRun :=
  (List.range a.length).flatMap fun i =>
    (List.range b.length).map fun j => ⟨i, j, sharedStart (a.drop i) (b.drop j)⟩

/-- The longer of two runs, the earlier if they are equally long. -/
def CommonRun.longer (earlier later : CommonRun) : CommonRun :=
  if earlier.length < later.length then later else earlier

/-- The longest run in common; the first of several. -/
def longestRun (a b : List Char) : CommonRun :=
  (commonRuns a b).foldl CommonRun.longer ⟨0, 0, 0⟩

theorem foldl_longer_mem (runs : List CommonRun) (best : CommonRun) :
    runs.foldl CommonRun.longer best = best ∨ runs.foldl CommonRun.longer best ∈ runs := by
  induction runs generalizing best with
  | nil => exact .inl rfl
  | cons run runs ih =>
    rw [List.foldl_cons]
    rcases ih (best.longer run) with h | h
    · rw [h]
      unfold CommonRun.longer
      split
      · exact .inr (List.mem_cons_self ..)
      · exact .inl rfl
    · exact .inr (List.mem_cons_of_mem _ h)

/-- A run that holds anything starts inside the first text. -/
theorem longestRun_first_lt {a b : List Char} (h : 0 < (longestRun a b).length) :
    (longestRun a b).first < a.length := by
  unfold longestRun at h ⊢
  rcases foldl_longer_mem (commonRuns a b) ⟨0, 0, 0⟩ with hbest | hmem
  · rw [hbest] at h
    exact absurd h (Nat.lt_irrefl 0)
  · unfold commonRuns at hmem
    obtain ⟨i, hi, hrun⟩ := List.mem_flatMap.1 hmem
    obtain ⟨j, _, heq⟩ := List.mem_map.1 hrun
    unfold commonRuns
    rw [← heq]
    exact List.mem_range.1 hi

/-- How many characters of two texts agree: those of the longest run in common, and those that agree
before it and after it. -/
def agreement (a b : List Char) : Nat :=
  let run := longestRun a b
  if _h : 0 < run.length then
    agreement (a.take run.first) (b.take run.second) + run.length
      + agreement (a.drop (run.first + run.length)) (b.drop (run.second + run.length))
  else 0
termination_by a.length
decreasing_by
  all_goals
    have pos : 0 < (longestRun a b).length := _h
    have := longestRun_first_lt pos
    simp only [List.length_take, List.length_drop]
    omega

/-- A known word and its similarity to another, as a fraction. -/
structure Likeness where
  word : String
  agreeing : Nat
  total : Nat

namespace Likeness

/-- The likeness of a known word to another. -/
def of (word other : List Char) : Likeness :=
  ⟨String.ofList word, 2 * agreement word other, word.length + other.length⟩

/-- Whether at least six tenths agree. -/
def isClose (likeness : Likeness) : Bool :=
  6 * likeness.total ≤ 10 * likeness.agreeing

/-- Whether one likeness comes before another: the greater similarity does, and of equal ones that
of the later word. -/
def ahead (a b : Likeness) : Bool :=
  -- fractions are compared by cross multiplication
  let left := a.agreeing * b.total
  let right := b.agreeing * a.total
  right < left || (left = right && b.word ≤ a.word)

end Likeness

/-- How many similar words are picked at most. -/
def pickLimit : Nat := 3

/-- The known words that are most similar to a word, in the order of the words. -/
def closest (word : String) (known : List String) : List String :=
  let likenesses := known.map fun name => Likeness.of name.toList word.toList
  let picked := ((likenesses.filter Likeness.isClose).mergeSort Likeness.ahead).take pickLimit
  (picked.map Likeness.word).mergeSort fun a b => a ≤ b

end Reconcile.Text
