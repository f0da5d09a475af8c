import Mathlib.Data.List.Chain
import Mathlib.Data.List.Forall2
import Reconcile.Proofs.Spacing

/-!
# Separators in the spellings of policies

A policy may be spelled with hyphens, underscores or spaces between its words, and which of the three
is chosen should make no difference. Hyphens and spaces are treated alike: a run of them is one gap, and
a gap at an end is none. An underscore is what gaps are folded to, but it is not taken for a gap itself,
so it must stand where a folded gap would.

* `separators_interchange_iff`: spellings that differ in their separators alone name the same policy
  exactly if they name none with spaces for all separators, or if in both of them every underscore
  stands alone between two words, or in neither.
* `underscores_in_a_row`: two hyphens in a row are one gap, two underscores are not.

The folded spelling is cut at its underscores into pieces (`splitOn_toList_fold`). With spaces for all
separators, the pieces that are not empty become the words (`toList_fold_loosen`). If every underscore is
alone, no piece is empty (`underscoresAlone_iff`) and nothing changes; otherwise one is, and no policy has
a token with an empty piece. Lower case comes between a spelling and its pieces, but separators have no
part in it, so an underscore is as much alone after it as before (`aloneIn_lower`).
-/

namespace Reconcile

namespace Policy

open Text

/-! ## Underscores -/

/-- Whether a character is a gap between words as it is: white space or a hyphen. -/
def isGap (c : Char) : Bool :=
  isBlank c || c == '-'

theorem separates_eq (c : Char) : separates c = (isGap c || c == '_') := by
  rw [Bool.eq_iff_iff, separates_iff, isGap]
  simp [or_assoc]

/-- Two neighbours of which none is an underscore beside another separator. -/
def Apart (c d : Char) : Prop :=
  separates c = true → separates d = true → c ≠ '_' ∧ d ≠ '_'

instance : DecidableRel Apart := fun c d =>
  inferInstanceAs (Decidable (separates c = true → separates d = true → c ≠ '_' ∧ d ≠ '_'))

/-- Every underscore of a text stands alone between two words. What is in front of the text and behind
it counts as a space. -/
def AloneIn (text : List Char) : Prop :=
  (' ' :: (text ++ [' '])).IsChain Apart

instance (text : List Char) : Decidable (AloneIn text) :=
  inferInstanceAs (Decidable (List.IsChain Apart _))

theorem apart_of_not_separates {c d : Char} (h : separates c = false ∨ separates d = false) :
    Apart c d := by
  intro hc hd
  rcases h with h | h
  · rw [h] at hc; cases hc
  · rw [h] at hd; cases hd

theorem ne_underscore_of_isGap {c : Char} (h : isGap c = true) : c ≠ '_' := by
  rintro rfl
  exact absurd h (by decide)

theorem separates_of_isGap {c : Char} (h : isGap c = true) : separates c = true := by
  rw [separates_eq, h]
  rfl

theorem apart_of_isGap {c d : Char} (hc : isGap c = true) (hd : isGap d = true) : Apart c d :=
  fun _ _ => ⟨ne_underscore_of_isGap hc, ne_underscore_of_isGap hd⟩

theorem not_apart_underscore {d : Char} (h : separates d = true) :
    ¬ Apart '_' d ∧ ¬ Apart d '_' :=
  ⟨fun hapart => (hapart (by decide) h).1 rfl, fun hapart => (hapart h (by decide)).2 rfl⟩

/-- Between two underscores, a word holds them apart if none of its pieces is empty. A word that
follows a letter may begin with one. -/
theorem isChain_word_iff {word : List Char} (hword : ∀ c ∈ word, isGap c = false) :
    (('_' :: (word ++ ['_'])).IsChain Apart ↔ [] ∉ word.splitOn '_') ∧
      ∀ a, separates a = false →
        ((a :: (word ++ ['_'])).IsChain Apart ↔ [] ∉ (word.splitOn '_').tail) := by
  induction word with
  | nil =>
    refine ⟨iff_of_false ?_ (by simp), fun a ha => iff_of_true ?_ List.not_mem_nil⟩
    · rw [List.nil_append, List.isChain_cons_cons]
      exact fun h => (not_apart_underscore (by decide)).1 h.1
    · rw [List.nil_append, List.isChain_cons_cons]
      exact ⟨apart_of_not_separates (Or.inl ha), .singleton _⟩
  | cons c word ih =>
    rw [List.forall_mem_cons] at hword
    obtain ⟨hunderscore, hletter⟩ := ih hword.2
    rw [List.cons_append]
    simp only [List.isChain_cons_cons, List.splitOn_cons_eq_if_modifyHead]
    by_cases hc : c = '_'
    · subst hc
      rw [if_pos (beq_self_eq_true _)]
      refine ⟨iff_of_false ?_ (by simp), fun a ha => ?_⟩
      · exact fun h => (not_apart_underscore (by decide)).1 h.1
      · rw [and_iff_right (apart_of_not_separates (Or.inl ha)), hunderscore]
        rfl
    · have hseparates : separates c = false := by
        rw [separates_eq, hword.1]
        simpa using hc
      obtain ⟨first, others, heq⟩ := List.exists_cons_of_ne_nil (List.splitOn_ne_nil '_' word)
      rw [if_neg (by simpa using hc), heq]
      rw [heq] at hletter
      refine ⟨?_, fun a _ => ?_⟩
      · rw [and_iff_right (apart_of_not_separates (Or.inr hseparates)), hletter c hseparates]
        simp
      · rw [and_iff_right (apart_of_not_separates (Or.inr hseparates)), hletter c hseparates]
        simp

/-- A gap and an underscore are alike to a neighbour that is no gap. -/
theorem apart_gap_iff {b c : Char} (hb : isGap b = true) (hc : isGap c = false) :
    (Apart b c ↔ Apart '_' c) ∧ (Apart c b ↔ Apart c '_') := by
  cases h : separates c with
  | false =>
    exact ⟨iff_of_true (apart_of_not_separates (Or.inr h)) (apart_of_not_separates (Or.inr h)),
      iff_of_true (apart_of_not_separates (Or.inl h)) (apart_of_not_separates (Or.inl h))⟩
  | true =>
    obtain rfl : c = '_' := by
      rw [separates_eq, hc] at h
      simpa using h
    have hgap := not_apart_underscore (separates_of_isGap hb)
    have hself := not_apart_underscore h
    exact ⟨iff_of_false hgap.2 hself.1, iff_of_false hgap.1 hself.2⟩

/-- Behind a gap, underscores are alone in a text if no word has an empty piece. Behind anything else
the first word goes on from there. -/
theorem isChain_text_iff (text : List Char) :
    (∀ b, isGap b = true → ((b :: (text ++ [' '])).IsChain Apart ↔
        ∀ word ∈ text.splitOnP isGap, word ≠ [] → [] ∉ word.splitOn '_')) ∧
      ∀ a, isGap a = false → ∀ first others, text.splitOnP isGap = first :: others →
        ((a :: (text ++ [' '])).IsChain Apart ↔ (a :: (first ++ ['_'])).IsChain Apart ∧
          ∀ word ∈ others, word ≠ [] → [] ∉ word.splitOn '_') := by
  induction text with
  | nil =>
    refine ⟨fun b hb => ?_, fun a ha first others heq => ?_⟩
    · simp [apart_of_isGap hb (show isGap ' ' = true by decide)]
    · obtain ⟨rfl, rfl⟩ := List.cons.inj heq
      simp [(apart_gap_iff (show isGap ' ' = true by decide) ha).2]
  | cons c text ih =>
    obtain ⟨hgap, hletter⟩ := ih
    rw [List.cons_append, List.splitOnP_cons_eq_if_modifyHead]
    simp only [List.isChain_cons_cons]
    cases hc : isGap c with
    | true =>
      rw [if_pos rfl]
      refine ⟨fun b hb => ?_, fun a ha first others heq => ?_⟩
      · rw [and_iff_right (apart_of_isGap hb hc), hgap c hc]
        simp
      · obtain ⟨rfl, rfl⟩ := List.cons.inj heq
        rw [hgap c hc, (apart_gap_iff hc ha).2]
        simp
    | false =>
      obtain ⟨first, others, heq⟩ := List.exists_cons_of_ne_nil (List.splitOnP_ne_nil isGap text)
      rw [if_neg Bool.false_ne_true, heq, List.modifyHead_cons]
      have hword : ∀ d ∈ c :: first, isGap d = false := List.forall_mem_cons.mpr
        ⟨hc, not_of_mem_splitOnP (heq ▸ List.mem_cons_self ..)⟩
      refine ⟨fun b hb => ?_, fun a ha first' others' heq' => ?_⟩
      · rw [List.forall_mem_cons, ← (isChain_word_iff hword).1, hletter c hc first others heq,
          (apart_gap_iff hb hc).1, List.cons_append, List.isChain_cons_cons]
        simp [and_assoc]
      · obtain ⟨rfl, rfl⟩ := List.cons.inj heq'
        rw [hletter c hc first others heq, List.cons_append, List.isChain_cons_cons, and_assoc]

theorem aloneIn_iff {text : List Char} :
    AloneIn text ↔ ∀ word ∈ text.splitOnP isGap, word ≠ [] → [] ∉ word.splitOn '_' :=
  (isChain_text_iff text).1 ' ' (by decide)

theorem isChain_cons_of_not_separates {c : Char} (h : separates c = false) (text : List Char) :
    (c :: text).IsChain Apart ↔ text.IsChain Apart := by
  cases text with
  | nil => simp
  | cons d text => simp [apart_of_not_separates (d := d) (Or.inl h)]

theorem isChain_append_of_not_separates {image : List Char}
    (h : ∀ d ∈ image, separates d = false) (text : List Char) :
    (image ++ text).IsChain Apart ↔ text.IsChain Apart := by
  induction image with
  | nil => rfl
  | cons d image ih =>
    rw [List.forall_mem_cons] at h
    rw [List.cons_append, isChain_cons_of_not_separates h.1, ih h.2]

/-- Lower case keeps every underscore as much alone as it was. -/
theorem aloneIn_lower (text : List Char) : AloneIn (lower text) ↔ AloneIn text := by
  have hgeneral : ∀ before a, (a :: (lowerAfter before text ++ [' '])).IsChain Apart ↔
      (a :: (text ++ [' '])).IsChain Apart := by
    induction text with
    | nil => exact fun _ _ => Iff.rfl
    | cons c text ih =>
      intro before a
      have hrest := ih (c :: before) c
      cases h : separates c with
      | true =>
        rw [lowerAfter_cons_of_separates h, List.cons_append, List.cons_append,
          List.isChain_cons_cons, List.isChain_cons_cons, hrest]
      | false =>
        obtain ⟨image, hne, himage, heq⟩ := exists_lowerAfter_cons h before text
        obtain ⟨d, image, rfl⟩ := List.exists_cons_of_ne_nil hne
        have hd := himage d (List.mem_cons_self ..)
        rw [isChain_cons_of_not_separates h, isChain_cons_of_not_separates h] at hrest
        rw [heq, List.append_assoc, List.cons_append, List.isChain_cons_cons, ← List.cons_append,
          isChain_append_of_not_separates himage, hrest, List.cons_append, List.isChain_cons_cons,
          isChain_cons_of_not_separates h,
          and_iff_right (apart_of_not_separates (Or.inr hd)),
          and_iff_right (apart_of_not_separates (Or.inr h))]
  exact hgeneral [] ' '

/-! ## Folding -/

/-- Folding makes spaces of hyphens. -/
def unhyphened (c : Char) : Char :=
  if c = '-' then ' ' else c

/-- The characters of which it should not matter which one stands between two words. -/
def interchangeable : List Char :=
  ['-', '_', ' ']

/-- A space for any of the three separators. -/
def spaced (c : Char) : Char :=
  if c ∈ interchangeable then ' ' else c

/-- The spelling with spaces for all hyphens and underscores. -/
def loosen (spelling : String) : String :=
  String.ofList (spelling.toList.map spaced)

theorem isBlank_unhyphened (c : Char) : isBlank (unhyphened c) = isGap c := by
  rw [unhyphened, isGap]
  split
  next h => rw [h]; decide
  next h => simp [h]

theorem isBlank_unhyphened_spaced (c : Char) : isBlank (unhyphened (spaced c)) = separates c := by
  rw [isBlank_unhyphened, separates_eq, spaced, interchangeable]
  split
  next h =>
    simp only [List.mem_cons, List.not_mem_nil, or_false] at h
    rcases h with rfl | rfl | rfl <;> decide
  next h =>
    have hne : c ≠ '_' := by
      rintro rfl
      exact h (by decide)
    simp [hne]

theorem unhyphened_eq_self {c : Char} (h : isGap c = false) : unhyphened c = c := by
  refine if_neg ?_
  rintro rfl
  exact absurd h (by decide)

theorem spaced_eq_self {c : Char} (h : separates c = false) : spaced c = c := by
  have hall : ∀ d ∈ interchangeable, separates d = true := List.all_eq_true.mp (by decide)
  refine if_neg fun hmem => ?_
  rw [hall c hmem] at h
  cases h

theorem isRespacing_spaced : IsRespacing spaced where
  separator c h := by
    rw [spaced]
    split
    next => decide
    next => exact h
  other _ := spaced_eq_self

theorem toList_fold (spelling : String) :
    (fold spelling).toList =
      ['_'].intercalate (words ((lower spelling.toList).map unhyphened)) := by
  obtain ⟨front, back, hfront, hback, heq⟩ := exists_eq_append_trim spelling.toList
  have hblank : ∀ c, isBlank c = true → isBlank (unhyphened c) = true := fun c h => by
    rw [isBlank_unhyphened, isGap, h]
    rfl
  have hlower : lower spelling.toList = front ++ lower (trim spelling.toList) ++ back := by
    conv_lhs => rw [heq]
    rw [List.append_assoc, lower_append_of_separates fun c hc => separates_of_isBlank (hfront c hc),
      lower, lowerAfter_append_of_separates fun c hc => separates_of_isBlank (hback c hc),
      List.append_assoc]
    rfl
  have hwords : words ((lower spelling.toList).map unhyphened) =
      words ((lower (trim spelling.toList)).map unhyphened) := by
    rw [hlower, List.map_append, List.map_append]
    refine words_append_blanks (fun c hc => ?_) fun c hc => ?_
    · obtain ⟨d, hd, rfl⟩ := List.mem_map.mp hc
      exact hblank d (hfront d hd)
    · obtain ⟨d, hd, rfl⟩ := List.mem_map.mp hc
      exact hblank d (hback d hd)
  rw [hwords, fold, String.toList_intercalate, List.map_map]
  have hid : String.toList ∘ String.ofList = id := funext fun chars => String.toList_ofList
  rw [hid, List.map_id]
  rfl

/-- The words of a folded spelling, before they are joined. -/
def foldedWords (spelling : String) : List (List Char) :=
  ((lower spelling.toList).splitOnP isGap).filter fun word => !word.isEmpty

/-- A folded spelling, cut at its underscores. -/
def foldedPieces (spelling : String) : List (List Char) :=
  (foldedWords spelling).flatMap (·.splitOn '_')

theorem toList_fold_eq_foldedWords (spelling : String) :
    (fold spelling).toList = ['_'].intercalate (foldedWords spelling) := by
  rw [toList_fold, words_map isBlank_unhyphened fun _ => unhyphened_eq_self]
  rfl

theorem splitOn_toList_fold {spelling : String} (h : foldedWords spelling ≠ []) :
    (fold spelling).toList.splitOn '_' = foldedPieces spelling := by
  rw [toList_fold_eq_foldedWords, splitOn_intercalate_flatMap '_' h]
  rfl

theorem filter_flatMap_splitOn (c : Char) (ws : List (List Char)) :
    (ws.flatMap (·.splitOn c)).filter (fun piece => !piece.isEmpty) =
      ((ws.filter fun word => !word.isEmpty).flatMap (·.splitOn c)).filter
        fun piece => !piece.isEmpty := by
  induction ws with
  | nil => rfl
  | cons w ws ih =>
    cases w with
    | nil => exact ih
    | cons d w =>
      rw [List.filter_cons_of_pos rfl, List.flatMap_cons, List.flatMap_cons, List.filter_append,
        List.filter_append, ih]

/-- With spaces for all separators, the words are the pieces that are not empty. -/
theorem toList_fold_loosen (spelling : String) :
    (fold (loosen spelling)).toList =
      ['_'].intercalate ((foldedPieces spelling).filter fun piece => !piece.isEmpty) := by
  have hother : ∀ c, separates c = false → unhyphened (spaced c) = c := fun c h => by
    rw [spaced_eq_self h]
    rw [separates_eq, Bool.or_eq_false_iff] at h
    exact unhyphened_eq_self h.1
  have hseparates : separates = fun c => isGap c || c == '_' := funext separates_eq
  have hlower := isRespacing_spaced.lowerAfter_map [] spelling.toList
  rw [toList_fold, loosen, String.toList_ofList, lower]
  rw [List.map_nil] at hlower
  rw [hlower, List.map_map, words_map (f := unhyphened ∘ spaced) isBlank_unhyphened_spaced hother,
    hseparates, splitOnP_or,
    foldedPieces, foldedWords, ← filter_flatMap_splitOn]
  rfl

/-! ## Alone or not -/

/-- Every underscore of a spelling stands alone between two words. -/
def UnderscoresAlone (spelling : String) : Prop :=
  AloneIn spelling.toList

instance (spelling : String) : Decidable (UnderscoresAlone spelling) :=
  inferInstanceAs (Decidable (AloneIn _))

/-- Underscores are alone exactly if no piece of the folded spelling is empty. -/
theorem underscoresAlone_iff {spelling : String} :
    UnderscoresAlone spelling ↔ [] ∉ foldedPieces spelling := by
  rw [UnderscoresAlone, ← aloneIn_lower, aloneIn_iff, foldedPieces, foldedWords, List.mem_flatMap]
  simp [List.mem_filter]

theorem fold_loosen_of_underscoresAlone {spelling : String} (h : UnderscoresAlone spelling) :
    fold (loosen spelling) = fold spelling := by
  rw [underscoresAlone_iff] at h
  have hpieces : (foldedPieces spelling).filter (fun piece => !piece.isEmpty) =
      foldedPieces spelling := by
    refine List.filter_eq_self.mpr fun piece hpiece => ?_
    cases piece with
    | nil => exact absurd hpiece h
    | cons c piece => rfl
  rw [← String.toList_inj, toList_fold_loosen, hpieces]
  by_cases hwords : foldedWords spelling = []
  · rw [toList_fold_eq_foldedWords, foldedPieces, hwords]
    rfl
  · rw [← splitOn_toList_fold hwords, List.intercalate_splitOn]

/-- No token of a policy has an empty piece. -/
theorem nil_not_mem_splitOn_of_mem_tokens {policy : Policy} {token : String}
    (h : token ∈ policy.tokens) : [] ∉ token.toList.splitOn '_' := by
  have hall : ((all.flatMap tokens).all fun token => !(token.toList.splitOn '_').contains []) =
      true := by decide +kernel
  have hmem : token ∈ all.flatMap tokens :=
    List.mem_flatMap.mpr ⟨policy, by cases policy <;> decide, h⟩
  simpa using List.all_eq_true.mp hall token hmem

theorem parse?_eq_none_of_not_underscoresAlone {spelling : String}
    (h : ¬ UnderscoresAlone spelling) : parse? spelling = none := by
  rw [underscoresAlone_iff, not_not] at h
  have hwords : foldedWords spelling ≠ [] := by
    intro hnil
    rw [foldedPieces, hnil] at h
    cases h
  rw [← splitOn_toList_fold hwords] at h
  rw [parse?, List.find?_eq_none]
  intro policy _ hcontains
  rw [List.contains_iff_mem] at hcontains
  exact nil_not_mem_splitOn_of_mem_tokens hcontains h

theorem parse?_loosen_of_underscoresAlone {spelling : String} (h : UnderscoresAlone spelling) :
    parse? (loosen spelling) = parse? spelling := by
  rw [parse?, fold_loosen_of_underscoresAlone h]
  rfl

/-! ## Spellings that differ in their separators -/

/-- Two spellings that differ in the choice of hyphens, underscores and spaces alone. -/
def SameButSeparators (a b : String) : Prop :=
  List.Forall₂ (fun c d => c = d ∨ (c ∈ interchangeable ∧ d ∈ interchangeable)) a.toList b.toList

instance (a b : String) : Decidable (SameButSeparators a b) :=
  inferInstanceAs (Decidable (List.Forall₂ _ _ _))

theorem loosen_eq_of_sameButSeparators {a b : String} (h : SameButSeparators a b) :
    loosen a = loosen b := by
  refine congrArg String.ofList ?_
  rw [SameButSeparators] at h
  generalize a.toList = left, b.toList = right at h ⊢
  induction h with
  | nil => rfl
  | @cons c d _ _ hchar _ ih =>
    have hspaced : spaced c = spaced d := by
      rcases hchar with rfl | ⟨hc, hd⟩
      · rfl
      · rw [spaced, spaced, if_pos hc, if_pos hd]
    rw [List.map_cons, List.map_cons, hspaced, ih]

/-- **Separators are interchangeable where underscores are alone.** Let two spellings differ in the
choice of hyphens, underscores and spaces alone. They name the same policy, or both none, exactly if no
policy is named with spaces for all separators, or if every underscore stands alone between two words
in both of them, or in neither. -/
theorem separators_interchange_iff {a b : String} (h : SameButSeparators a b) :
    parse? a = parse? b ↔
      parse? (loosen a) = none ∨ (UnderscoresAlone a ↔ UnderscoresAlone b) := by
  have hloose : parse? (loosen a) = parse? (loosen b) := by
    rw [loosen_eq_of_sameButSeparators h]
  by_cases ha : UnderscoresAlone a
  · by_cases hb : UnderscoresAlone b
    · rw [← parse?_loosen_of_underscoresAlone ha, ← parse?_loosen_of_underscoresAlone hb]
      exact iff_of_true hloose (Or.inr (iff_of_true ha hb))
    · rw [← parse?_loosen_of_underscoresAlone ha, parse?_eq_none_of_not_underscoresAlone hb]
      exact (or_iff_left fun hiff => hb (hiff.mp ha)).symm
  · by_cases hb : UnderscoresAlone b
    · rw [hloose, ← parse?_loosen_of_underscoresAlone hb, parse?_eq_none_of_not_underscoresAlone ha,
        eq_comm]
      exact (or_iff_left fun hiff => ha (hiff.mpr hb)).symm
    · rw [parse?_eq_none_of_not_underscoresAlone ha, parse?_eq_none_of_not_underscoresAlone hb]
      exact iff_of_true rfl (Or.inr (iff_of_false ha hb))

/-- Three kinds of separators, at the ends and in the middle, where every underscore is alone. -/
theorem separators_interchange_iff_of_three_kinds :
    let a := "  Keep Structured-as base-"
    let b := "- Keep_Structured as_base "
    SameButSeparators a b ∧ parse? a = parse? b ∧ parse? a = some .structuredBase := by
  intro a b
  have h : SameButSeparators a b := by decide +kernel
  have halone : UnderscoresAlone a ↔ UnderscoresAlone b := by decide +kernel
  exact ⟨h, (separators_interchange_iff h).mpr (Or.inr halone), by decide +kernel⟩

/-- Two hyphens in a row stand for one gap, two underscores do not. -/
theorem underscores_in_a_row :
    SameButSeparators "union--all" "union__all" ∧
      parse? "union--all" = some .unionAll ∧ parse? "union__all" = none := by
  have hrow : ¬ UnderscoresAlone "union__all" := by decide +kernel
  exact ⟨by decide +kernel, by decide +kernel, parse?_eq_none_of_not_underscoresAlone hrow⟩

end Policy

end Reconcile
