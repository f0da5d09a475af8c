import Reconcile.Path

/-!
# Normalized paths stay as they are

A path is normalized by pushing its parts one by one. What has been pushed is *settled*: no part is
empty, `.` or holds a slash, and a step up only stands on other steps up, nowhere below the root.
Settled parts are pushed back to themselves (`foldl_push_reverse`), and the text they are spelled in
is read back as these parts (`foldl_push_parts_spelled`), so `normalize_normalize` holds: the
identity of a file is the identity of its own spelling.
-/

namespace Reconcile.Path

/-- The part that steps up. -/
def up : List Char := ['.', '.']

/-- The parts of a path that has been normalized so far, the latest first. -/
structure Settled (rooted : Bool) (taken : List (List Char)) : Prop where
  plain : ∀ part ∈ taken, part ≠ [] ∧ part ≠ ['.'] ∧ '/' ∉ part
  below : rooted = true → up ∉ taken
  stacked : taken.Pairwise fun later earlier => later = up → earlier = up

theorem Settled.nil (rooted : Bool) : Settled rooted [] :=
  ⟨by simp, by simp, List.Pairwise.nil⟩

theorem Settled.tail {rooted : Bool} {part : List Char} {taken : List (List Char)}
    (h : Settled rooted (part :: taken)) : Settled rooted taken :=
  ⟨fun p hp => h.plain p (List.mem_cons_of_mem _ hp),
    fun hroot hmem => h.below hroot (List.mem_cons_of_mem _ hmem),
    (List.pairwise_cons.mp h.stacked).2⟩

/-- Pushing a part keeps parts settled. -/
theorem Settled.push {rooted : Bool} {taken : List (List Char)} (h : Settled rooted taken)
    {part : List Char} (hpart : '/' ∉ part) : Settled rooted (push rooted taken part) := by
  unfold Path.push
  by_cases hskip : (part = [] || part = ['.']) = true
  · rw [if_pos hskip]
    exact h
  · rw [if_neg hskip]
    have hplain : part ≠ [] ∧ part ≠ ['.'] := by simpa using hskip
    by_cases hup : part = ['.', '.']
    · rw [if_pos hup]
      cases taken with
      | nil =>
        dsimp only
        split
        next => exact Settled.nil rooted
        next hroot =>
          exact ⟨by simp [hplain, hpart], fun hr => absurd hr hroot, List.pairwise_singleton ..⟩
      | cons last others =>
        dsimp only
        split
        next hlast =>
          -- everything below a step up is a step up, so one more may stand on top
          have hall : ∀ p ∈ last :: others, p = up := by
            intro p hp
            rcases List.mem_cons.mp hp with rfl | hp
            · exact hlast
            · exact (List.pairwise_cons.mp h.stacked).1 p hp hlast
          refine ⟨?_, ?_, List.pairwise_cons.mpr ⟨fun p hp _ => hall p hp, h.stacked⟩⟩
          · intro p hp
            rcases List.mem_cons.mp hp with rfl | hp
            · exact ⟨hplain.1, hplain.2, hpart⟩
            · exact h.plain p hp
          · intro hroot
            exact absurd (hlast ▸ List.mem_cons_self ..) (h.below hroot)
        next => exact h.tail
    · rw [if_neg hup]
      refine ⟨?_, ?_, List.pairwise_cons.mpr ⟨fun _ _ hp => absurd hp hup, h.stacked⟩⟩
      · intro p hp
        rcases List.mem_cons.mp hp with rfl | hp
        · exact ⟨hplain.1, hplain.2, hpart⟩
        · exact h.plain p hp
      · intro hroot hmem
        rcases List.mem_cons.mp hmem with hp | hp
        · exact hup hp.symm
        · exact h.below hroot hp

theorem Settled.foldl_push {rooted : Bool} {taken : List (List Char)} (h : Settled rooted taken)
    {parts : List (List Char)} (hparts : ∀ part ∈ parts, '/' ∉ part) :
    Settled rooted (parts.foldl (Path.push rooted) taken) := by
  induction parts generalizing taken with
  | nil => exact h
  | cons part parts ih =>
    rw [List.foldl_cons]
    exact ih (h.push (hparts part (List.mem_cons_self ..)))
      fun p hp => hparts p (List.mem_cons_of_mem _ hp)

/-- A part of settled parts is taken as it is. -/
theorem push_of_settled {rooted : Bool} {part : List Char} {taken : List (List Char)}
    (h : Settled rooted (part :: taken)) : push rooted taken part = part :: taken := by
  obtain ⟨hempty, hdot, -⟩ := h.plain part (List.mem_cons_self ..)
  unfold push
  rw [if_neg (by simp [hempty, hdot])]
  by_cases hup : part = ['.', '.']
  · rw [if_pos hup]
    cases taken with
    | nil =>
      have hroot : rooted ≠ true := fun hr => h.below hr (hup ▸ List.mem_cons_self ..)
      dsimp only
      rw [if_neg hroot]
    | cons last others =>
      have hlast : last = ['.', '.'] :=
        (List.pairwise_cons.mp h.stacked).1 last (List.mem_cons_self ..) hup
      dsimp only
      rw [if_pos hlast]
  · rw [if_neg hup]

/-- Settled parts, pushed in the order of the path, come to themselves. -/
theorem foldl_push_reverse {rooted : Bool} {taken : List (List Char)} (h : Settled rooted taken) :
    taken.reverse.foldl (push rooted) [] = taken := by
  induction taken with
  | nil => rfl
  | cons part taken ih =>
    rw [List.reverse_cons, List.foldl_append, ih h.tail, List.foldl_cons, List.foldl_nil]
    exact push_of_settled h

/-! ## Reading back what was spelled -/

theorem parts_slash (path : List Char) : parts ('/' :: path) = [] :: parts path := by
  rw [parts, parts, List.splitOn_cons_eq_if_modifyHead, if_pos (by rfl)]

/-- No part of a path holds a slash. -/
theorem slash_not_mem_of_mem_parts {path : List Char} : ∀ part ∈ parts path, '/' ∉ part := by
  induction path with
  | nil => simp [parts]
  | cons c path ih =>
    by_cases hc : c = '/'
    · subst hc
      rw [parts_slash]
      intro part hpart
      rcases List.mem_cons.mp hpart with rfl | hpart
      · simp
      · exact ih part hpart
    · rw [parts, List.splitOn_cons_eq_if_modifyHead, if_neg (by simpa using hc), ← parts]
      intro part hpart
      cases hparts : parts path with
      | nil => rw [hparts] at hpart; cases hpart
      | cons first others =>
        rw [hparts] at hpart ih
        rcases List.mem_cons.mp hpart with rfl | hpart
        · rw [List.mem_cons, not_or]
          exact ⟨fun h => hc h.symm, ih first (List.mem_cons_self ..)⟩
        · exact ih part (List.mem_cons_of_mem _ hpart)

theorem rootDepth_le (path : List Char) : rootDepth path ≤ 2 := by
  unfold rootDepth
  split <;> omega

/-- The text of a normalized path. -/
def spelled (depth : Nat) (kept : List (List Char)) : List Char :=
  List.replicate depth '/' ++ join kept

/-- Joined parts begin with the first of them. -/
theorem head?_join {kept : List (List Char)} (h : ∀ part ∈ kept, part ≠ [] ∧ '/' ∉ part) :
    (join kept).head? ≠ some '/' := by
  cases kept with
  | nil => simp [join]
  | cons part kept =>
    obtain ⟨hempty, hslash⟩ := h part (List.mem_cons_self ..)
    cases part with
    | nil => exact absurd rfl hempty
    | cons c part =>
      have hhead : (join ((c :: part) :: kept)).head? = some c := by
        cases kept <;> simp [join, List.intercalate]
      rw [hhead]
      intro hc
      exact hslash (by simp [Option.some.inj hc])

theorem rootDepth_spelled {depth : Nat} (hdepth : depth ≤ 2) {kept : List (List Char)}
    (h : ∀ part ∈ kept, part ≠ [] ∧ '/' ∉ part) : rootDepth (spelled depth kept) = depth := by
  have hhead := head?_join h
  unfold spelled
  generalize join kept = text at hhead
  have hsplit : text = [] ∨ ∃ c rest, text = c :: rest ∧ c ≠ '/' := by
    cases text with
    | nil => exact Or.inl rfl
    | cons c rest => exact Or.inr ⟨c, rest, rfl, fun hc => hhead (by rw [hc]; rfl)⟩
  obtain rfl | rfl | rfl : depth = 0 ∨ depth = 1 ∨ depth = 2 := by omega
  all_goals
    rcases hsplit with rfl | ⟨c, rest, rfl, hc⟩
    · rfl
    · simp [rootDepth, List.replicate, hc]

/-- The slashes of the root are read as empty parts, which are passed over. -/
theorem foldl_push_parts_spelled (rooted : Bool) (depth : Nat) {kept : List (List Char)}
    (h : ∀ part ∈ kept, '/' ∉ part) :
    (parts (spelled depth kept)).foldl (push rooted) [] = kept.foldl (push rooted) [] := by
  induction depth with
  | zero =>
    show (parts (join kept)).foldl (push rooted) [] = _
    by_cases hkept : kept = []
    · subst hkept
      rfl
    · rw [parts, join, List.splitOn_intercalate '/' h hkept]
  | succ depth ih =>
    show (parts ('/' :: spelled depth kept)).foldl (push rooted) [] = _
    rw [parts_slash, List.foldl_cons]
    exact ih

/-- A path that is spelled from settled parts is normalized. -/
theorem normalizeChars_spelled {depth : Nat} (hdepth : depth ≤ 2) {taken : List (List Char)}
    (h : Settled (depth != 0) taken) (hne : spelled depth taken.reverse ≠ []) :
    normalizeChars (spelled depth taken.reverse) = spelled depth taken.reverse := by
  have hplain : ∀ part ∈ taken.reverse, part ≠ [] ∧ '/' ∉ part := by
    intro part hpart
    obtain ⟨hempty, -, hslash⟩ := h.plain part (List.mem_reverse.mp hpart)
    exact ⟨hempty, hslash⟩
  unfold normalizeChars
  simp only [rootDepth_spelled hdepth hplain,
    foldl_push_parts_spelled _ depth fun part hpart => (hplain part hpart).2, foldl_push_reverse h]
  exact if_neg hne

/-- Normalizing spells settled parts, or gives the path of the directory itself. -/
theorem normalizeChars_eq (path : List Char) :
    ∃ taken, Settled (rootDepth path != 0) taken ∧
      normalizeChars path = if spelled (rootDepth path) taken.reverse = [] then ['.']
        else spelled (rootDepth path) taken.reverse :=
  ⟨_, (Settled.nil _).foldl_push slash_not_mem_of_mem_parts, rfl⟩

theorem normalizeChars_normalizeChars (path : List Char) :
    normalizeChars (normalizeChars path) = normalizeChars path := by
  obtain ⟨taken, hsettled, heq⟩ := normalizeChars_eq path
  rw [heq]
  split
  next => decide
  next hne => exact normalizeChars_spelled (rootDepth_le path) hsettled hne

/-- Normalizing a normalized path changes nothing. -/
theorem normalize_normalize (path : String) : normalize (normalize path) = normalize path := by
  rw [normalize, normalize, String.toList_ofList, normalizeChars_normalizeChars]

end Reconcile.Path
