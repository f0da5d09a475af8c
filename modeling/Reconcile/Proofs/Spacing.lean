import Mathlib.Data.List.TakeWhile
import Reconcile.Policy

/-!
# Separators in a text

White space, hyphens and underscores stand between words. None of them is a letter, and none is skipped
in looking for one, so lower case leaves them where they are (`lowerAfter_append_of_separates`,
`lower_append_of_separates`) and comes to the same whichever of them is chosen
(`IsRespacing.lowerAfter_map`).

The words of a text are what is left when it is split at white space and the empty pieces are left out.
White space around a text adds none (`words_append_blanks`), and splitting at more characters splits the
words further (`splitOnP_or`, `splitOn_intercalate_flatMap`).
-/

namespace Reconcile

namespace Text

/-! ## Separators have no case -/

/-- What may stand between words: white space, hyphens and underscores. -/
def separators : CharSet :=
  ⟨blanks.ranges ++ [(0x2d, 0x2d), (0x5f, 0x5f)]⟩

/-- Whether a character may stand between words. -/
def separates (c : Char) : Bool :=
  separators.contains c

theorem separates_iff {c : Char} : separates c = true ↔ isBlank c = true ∨ c = '-' ∨ c = '_' := by
  have hcode : ∀ d : Char, (d.toNat ≤ c.toNat ∧ c.toNat ≤ d.toNat) ↔ c = d := fun d => by
    rw [← Char.toNat_inj]
    omega
  have hhyphen := hcode '-'
  have hunderscore := hcode '_'
  rw [separates, separators, CharSet.contains, List.any_append, Bool.or_eq_true]
  refine or_congr Iff.rfl ?_
  simpa using or_congr hhyphen hunderscore

theorem keepsApart_separators : keepsApart lowerRuns lowerExpansions separators = true := by
  decide +kernel

theorem lowerChar_of_separates {c : Char} (h : separates c = true) : lowerChar c = [c] :=
  mapCase_eq_self_of_contains keepsApart_separators h

theorem not_separates_of_mem_lowerChar {c d : Char} (h : separates c = false)
    (hd : d ∈ lowerChar c) : separates d = false := by
  rw [← Bool.not_eq_true]
  intro hseparates
  have heq := eq_of_mem_mapCase_of_contains keepsApart_separators hd hseparates
  rw [heq, h] at hseparates
  cases hseparates

/-- A separator is neither a letter nor skipped in looking for one. -/
theorem caseless_of_separates {c : Char} (h : separates c = true) :
    casedChars.contains c = false ∧ caseIgnorables.contains c = false := by
  have hall : (separators.codes.all fun code =>
      !casedChars.contains (Char.ofNat code) && !caseIgnorables.contains (Char.ofNat code)) = true := by
    decide +kernel
  have hc := List.all_eq_true.mp hall _ (CharSet.mem_codes h)
  rw [Char.ofNat_toNat] at hc
  simpa using hc

theorem not_separates_capitalSigma : separates capitalSigma = false := by
  decide

theorem lowerAfter_cons_of_separates {c : Char} (h : separates c = true)
    (before rest : List Char) :
    lowerAfter before (c :: rest) = c :: lowerAfter (c :: before) rest := by
  have hsigma : c ≠ capitalSigma := by
    rintro rfl
    rw [not_separates_capitalSigma] at h
    cases h
  rw [lowerAfter, if_neg hsigma, lowerChar_of_separates h]
  rfl

/-- What is no separator has a lower case, in which there are no separators. -/
theorem exists_lowerAfter_cons {c : Char} (h : separates c = false) (before rest : List Char) :
    ∃ image, image ≠ [] ∧ (∀ d ∈ image, separates d = false) ∧
      lowerAfter before (c :: rest) = image ++ lowerAfter (c :: before) rest := by
  by_cases hsigma : c = capitalSigma
  · refine ⟨[_], List.cons_ne_nil _ _, ?_, by rw [lowerAfter, if_pos hsigma]; rfl⟩
    rw [List.forall_mem_singleton]
    split <;> decide
  · exact ⟨lowerChar c, mapCase_ne_nil (by decide),
      fun d hd => not_separates_of_mem_lowerChar h hd, by rw [lowerAfter, if_neg hsigma]⟩

/-- A function that exchanges separators and leaves everything else alone. -/
structure IsRespacing (f : Char → Char) : Prop where
  separator : ∀ c, separates c = true → separates (f c) = true
  other : ∀ c, separates c = false → f c = c

section Respacing

variable {f : Char → Char} (hf : IsRespacing f)

include hf

theorem IsRespacing.caseless (c : Char) :
    casedChars.contains (f c) = casedChars.contains c ∧
      caseIgnorables.contains (f c) = caseIgnorables.contains c := by
  cases h : separates c with
  | true =>
    have hc := caseless_of_separates h
    have hfc := caseless_of_separates (hf.separator c h)
    exact ⟨hfc.1.trans hc.1.symm, hfc.2.trans hc.2.symm⟩
  | false => rw [hf.other c h]; exact ⟨rfl, rfl⟩

theorem IsRespacing.dropWhile_map (text : List Char) :
    (text.map f).dropWhile caseIgnorables.contains =
      (text.dropWhile caseIgnorables.contains).map f := by
  have hcomp : caseIgnorables.contains ∘ f = caseIgnorables.contains :=
    funext fun c => (hf.caseless c).2
  rw [List.dropWhile_map, hcomp]

theorem IsRespacing.caseEnds_map (rest : List Char) : caseEnds (rest.map f) = caseEnds rest := by
  rw [caseEnds, caseEnds, hf.dropWhile_map]
  cases rest.dropWhile caseIgnorables.contains with
  | nil => rfl
  | cons c _ => exact congrArg not (hf.caseless c).1

theorem IsRespacing.caseBegun_map (before : List Char) :
    caseBegun (before.map f) = caseBegun before := by
  rw [caseBegun, caseBegun, hf.dropWhile_map]
  cases before.dropWhile caseIgnorables.contains with
  | nil => rfl
  | cons c _ => exact (hf.caseless c).1

theorem IsRespacing.map_eq_self {text : List Char} (h : ∀ c ∈ text, separates c = false) :
    text.map f = text :=
  (List.map_congr_left fun c hc => hf.other c (h c hc)).trans (List.map_id text)

/-- It does not matter for lower case which separators stand where. -/
theorem IsRespacing.lowerAfter_map (before text : List Char) :
    lowerAfter (before.map f) (text.map f) = (lowerAfter before text).map f := by
  induction text generalizing before with
  | nil => rfl
  | cons c rest ih =>
    have hrest := ih (c :: before)
    rw [List.map_cons] at hrest ⊢
    cases h : separates c with
    | true =>
      rw [lowerAfter_cons_of_separates h, lowerAfter_cons_of_separates (hf.separator c h), hrest]
      rfl
    | false =>
      rw [hf.other c h] at hrest ⊢
      by_cases hsigma : c = capitalSigma
      · rw [lowerAfter, lowerAfter, if_pos hsigma, if_pos hsigma, hf.caseBegun_map,
          hf.caseEnds_map, hrest, List.map_cons]
        refine congrArg (· :: _) (hf.other _ ?_).symm
        split <;> decide
      · rw [lowerAfter, lowerAfter, if_neg hsigma, if_neg hsigma, hrest, List.map_append,
          hf.map_eq_self fun d hd => not_separates_of_mem_lowerChar h hd]

end Respacing

/-! ## White space around a text -/

theorem separates_of_isBlank {c : Char} (h : isBlank c = true) : separates c = true :=
  separates_iff.mpr (Or.inl h)

theorem dropWhile_append_of_separates {text back : List Char}
    (hback : ∀ c ∈ back, separates c = true) :
    (text ++ back).dropWhile caseIgnorables.contains =
      text.dropWhile caseIgnorables.contains ++ back := by
  induction text with
  | nil =>
    cases back with
    | nil => rfl
    | cons c back =>
      have hc := (caseless_of_separates (hback c (List.mem_cons_self ..))).2
      exact List.dropWhile_cons_of_neg (by rw [hc]; decide)
  | cons c text ih =>
    rw [List.cons_append, List.dropWhile_cons, List.dropWhile_cons, ih]
    split <;> rfl

theorem caseEnds_append_of_separates {rest back : List Char}
    (hback : ∀ c ∈ back, separates c = true) : caseEnds (rest ++ back) = caseEnds rest := by
  rw [caseEnds, caseEnds, dropWhile_append_of_separates hback]
  cases rest.dropWhile caseIgnorables.contains with
  | cons c _ => rfl
  | nil =>
    cases back with
    | nil => rfl
    | cons c back => simp [(caseless_of_separates (hback c (List.mem_cons_self ..))).1]

theorem caseBegun_append_of_separates {before front : List Char}
    (hfront : ∀ c ∈ front, separates c = true) :
    caseBegun (before ++ front) = caseBegun before := by
  rw [caseBegun, caseBegun, dropWhile_append_of_separates hfront]
  cases before.dropWhile caseIgnorables.contains with
  | cons c _ => rfl
  | nil =>
    cases front with
    | nil => rfl
    | cons c front => exact (caseless_of_separates (hfront c (List.mem_cons_self ..))).1

/-- Separators behind a text stay behind its lower case. -/
theorem lowerAfter_append_of_separates {before text back : List Char}
    (hback : ∀ c ∈ back, separates c = true) :
    lowerAfter before (text ++ back) = lowerAfter before text ++ back := by
  induction text generalizing before with
  | nil =>
    rw [List.nil_append, lowerAfter, List.nil_append]
    refine lowerAfter_eq_self fun c hc => lowerChar_of_separates (hback c hc)
  | cons c text ih =>
    rw [List.cons_append, lowerAfter, lowerAfter, ih, caseEnds_append_of_separates hback]
    split
    next => rfl
    next => rw [List.append_assoc]

/-- Separators before a text have no part in its lower case. -/
theorem lowerAfter_of_separates_before {before front text : List Char}
    (hfront : ∀ c ∈ front, separates c = true) :
    lowerAfter (before ++ front) text = lowerAfter before text := by
  induction text generalizing before with
  | nil => rfl
  | cons c text ih =>
    rw [lowerAfter, lowerAfter, ← List.cons_append, ih, caseBegun_append_of_separates hfront]

/-- Separators in front of a text stay in front of its lower case. -/
theorem lower_append_of_separates {front text : List Char}
    (hfront : ∀ c ∈ front, separates c = true) : lower (front ++ text) = front ++ lower text := by
  have hgeneral : ∀ before, lowerAfter before (front ++ text) =
      front ++ lowerAfter (front.reverse ++ before) text := by
    induction front with
    | nil => exact fun _ => rfl
    | cons c front ih =>
      intro before
      rw [List.forall_mem_cons] at hfront
      rw [List.cons_append, lowerAfter_cons_of_separates hfront.1, ih hfront.2, List.reverse_cons,
        List.append_assoc]
      rfl
  have hbefore : ∀ c ∈ front.reverse, separates c = true :=
    fun c hc => hfront c (List.mem_reverse.mp hc)
  rw [lower, hgeneral, List.append_nil, ← List.nil_append front.reverse,
    lowerAfter_of_separates_before hbefore, lower]

theorem exists_eq_append_trim (text : List Char) :
    ∃ front back, (∀ c ∈ front, isBlank c = true) ∧ (∀ c ∈ back, isBlank c = true) ∧
      text = front ++ trim text ++ back := by
  let rest := text.dropWhile isBlank
  refine ⟨text.takeWhile isBlank, (rest.reverse.takeWhile isBlank).reverse,
    fun c hc => List.mem_takeWhile_imp hc,
    fun c hc => List.mem_takeWhile_imp (List.mem_reverse.mp hc), ?_⟩
  have hrest : rest = trim text ++ (rest.reverse.takeWhile isBlank).reverse := by
    rw [trim, trimBy, ← List.reverse_append, List.takeWhile_append_dropWhile, List.reverse_reverse]
  rw [List.append_assoc, ← hrest, List.takeWhile_append_dropWhile]

theorem words_append_cons {c : Char} (h : isBlank c = true) (front back : List Char) :
    words (front ++ c :: back) = words front ++ words back := by
  rw [words, List.splitOnP_append_cons front back h, List.filter_append]
  rfl

theorem words_eq_nil {text : List Char} (h : ∀ c ∈ text, isBlank c = true) : words text = [] := by
  induction text with
  | nil => rfl
  | cons c text ih =>
    rw [List.forall_mem_cons] at h
    exact (words_append_cons h.1 [] text).trans (ih h.2)

/-- White space around a text adds no words. -/
theorem words_append_blanks {front text back : List Char} (hfront : ∀ c ∈ front, isBlank c = true)
    (hback : ∀ c ∈ back, isBlank c = true) : words (front ++ text ++ back) = words text := by
  have hbehind : words (front ++ text ++ back) = words (front ++ text) := by
    cases back with
    | nil => rw [List.append_nil]
    | cons c back =>
      rw [List.forall_mem_cons] at hback
      rw [words_append_cons hback.1, words_eq_nil hback.2, List.append_nil]
  rw [hbehind]
  clear hbehind
  induction front with
  | nil => rfl
  | cons c front ih =>
    rw [List.forall_mem_cons] at hfront
    exact (words_append_cons hfront.1 [] (front ++ text)).trans (ih hfront.2)

/-! ## Splitting twice -/

/-- Splitting where either of two tests holds is splitting where the first does, and then each piece
where the second does. -/
theorem splitOnP_or {α : Type} (p q : α → Bool) (xs : List α) :
    xs.splitOnP (fun x => p x || q x) = (xs.splitOnP p).flatMap (·.splitOnP q) := by
  induction xs with
  | nil => rfl
  | cons x xs ih =>
    obtain ⟨first, others, heq⟩ := List.exists_cons_of_ne_nil (List.splitOnP_ne_nil p xs)
    rw [List.splitOnP_cons_eq_if_modifyHead, List.splitOnP_cons_eq_if_modifyHead, ih, heq]
    cases hp : p x with
    | true => rfl
    | false =>
      simp only [Bool.false_or, Bool.false_eq_true, if_false, List.modifyHead_cons,
        List.flatMap_cons, List.splitOnP_cons_eq_if_modifyHead]
      split
      next => rfl
      next =>
        obtain ⟨piece, pieces, hpieces⟩ :=
          List.exists_cons_of_ne_nil (List.splitOnP_ne_nil q first)
        rw [hpieces]
        rfl

theorem not_of_mem_splitOnP {α : Type} {p : α → Bool} {xs piece : List α}
    (h : piece ∈ xs.splitOnP p) : ∀ x ∈ piece, p x = false := by
  induction xs generalizing piece with
  | nil =>
    rw [List.mem_singleton.mp h]
    exact List.forall_mem_nil _
  | cons x xs ih =>
    rw [List.splitOnP_cons_eq_if_modifyHead] at h
    split at h
    next =>
      rcases List.mem_cons.mp h with rfl | h
      · exact List.forall_mem_nil _
      · exact ih h
    next hx =>
      obtain ⟨first, others, heq⟩ := List.exists_cons_of_ne_nil (List.splitOnP_ne_nil p xs)
      rw [heq] at h ih
      rcases List.mem_cons.mp h with rfl | h
      · exact List.forall_mem_cons.mpr ⟨eq_false_of_ne_true hx, ih (List.mem_cons_self ..)⟩
      · exact ih (List.mem_cons_of_mem _ h)

/-- Words that are joined by a character and split at it again come apart where they held it. -/
theorem splitOn_intercalate_flatMap (c : Char) {ws : List (List Char)} (h : ws ≠ []) :
    ([c].intercalate ws).splitOn c = ws.flatMap (·.splitOn c) := by
  induction ws with
  | nil => exact absurd rfl h
  | cons w ws ih =>
    by_cases hws : ws = []
    · rw [hws, List.intercalate_singleton, List.flatMap_singleton]
    · rw [List.intercalate_cons_of_ne_nil hws, List.append_assoc, List.singleton_append,
        List.splitOn_append_cons_self, ih hws, List.flatMap_cons]

/-- The words of a text in which some characters were made white space. -/
theorem words_map {f : Char → Char} {p : Char → Bool} (hblank : ∀ c, isBlank (f c) = p c)
    (hother : ∀ c, p c = false → f c = c) (text : List Char) :
    words (text.map f) = (text.splitOnP p).filter fun word => !word.isEmpty := by
  refine congrArg (List.filter _) ?_
  induction text with
  | nil => rfl
  | cons c text ih =>
    rw [List.map_cons, List.splitOnP_cons_eq_if_modifyHead, List.splitOnP_cons_eq_if_modifyHead,
      hblank, ih]
    cases h : p c with
    | true => rfl
    | false => rw [hother c h]

end Text

end Reconcile
