import Mathlib.Data.List.DropRight
import Mathlib.Data.List.Infix
import Reconcile.Diagnostic.Wording
import Reconcile.Proofs.Removal

/-!
# One wording for both producers

`Wording.normalize` goes round until a round changes nothing. This file says what that comes to.

* `normalize_settles`: the rounds end, after at most four for each character, in a message that is
  clean (`IsClean`), and a clean message is one that a round leaves alone (`round_eq_self_iff`).
* `wordings_agree`: what the producers add to a message makes no difference, and neither does a
  capital letter in front.
-/

namespace Reconcile.Wording

open Reconcile.Text

/-! ## Annotations and markers -/

/-- How an annotation opens. -/
def openings : List (List Char) :=
  ["[-W".toList, "[#".toList]

/-- What the marker of a problem that an editor can fix says. -/
def fixText : List Char :=
  "(fix available)".toList

/-- An annotation: an opening, anything on the same line, and a closing bracket. -/
def IsAnnotation (text : List Char) : Prop :=
  ∃ opening ∈ openings, ∃ inner, '\n' ∉ inner ∧ text = opening ++ inner ++ [']']

/-- A bracket is closed by the first closing bracket, if that is on the same line. -/
theorem afterBracket?_iff {text rest : List Char} :
    afterBracket? text = some rest ↔
      ∃ inner, ']' ∉ inner ∧ '\n' ∉ inner ∧ text = inner ++ ']' :: rest := by
  constructor
  · intro h
    fun_induction afterBracket? text with
    | case1 => cases h
    | case2 => cases h; exact ⟨[], List.not_mem_nil, List.not_mem_nil, rfl⟩
    | case3 => cases h
    | case4 c text hbracket hbreak ih =>
      obtain ⟨inner, hclosing, hline, rfl⟩ := ih h
      exact ⟨c :: inner, by simp [hclosing, Ne.symm hbracket], by simp [hline, Ne.symm hbreak], rfl⟩
  · rintro ⟨inner, hclosing, hline, rfl⟩
    induction inner with
    | nil => rfl
    | cons c inner ih =>
      rw [List.mem_cons, not_or] at hclosing hline
      rw [List.cons_append, afterBracket?, if_neg (Ne.symm hline.1), ih hclosing.2 hline.2]
      exact fun heq => hclosing.1 heq.symm

/-- A closing bracket on the same line is enough. -/
theorem isSome_afterBracket? {inner : List Char} (h : '\n' ∉ inner) (rest : List Char) :
    (afterBracket? (inner ++ ']' :: rest)).isSome = true := by
  induction inner with
  | nil => rfl
  | cons c inner ih =>
    rw [List.mem_cons, not_or] at h
    by_cases hc : c = ']'
    · rw [hc]
      rfl
    · rw [List.cons_append, afterBracket?, if_neg (Ne.symm h.1)]
      · exact ih h.2
      · exact hc

/-- What stands behind the annotation that a text starts with. -/
theorem bracketed_after?_iff {text rest : List Char} :
    bracketed.after? text = some rest ↔ ∃ opening ∈ openings, ∃ inner,
      ']' ∉ inner ∧ '\n' ∉ inner ∧ text = opening ++ inner ++ ']' :: rest := by
  dsimp only [bracketed]
  constructor
  · intro h
    split at h
    next tail =>
      obtain ⟨inner, hclosing, hline, rfl⟩ := afterBracket?_iff.mp h
      exact ⟨_, List.mem_cons_self .., inner, hclosing, hline, rfl⟩
    next tail =>
      obtain ⟨inner, hclosing, hline, rfl⟩ := afterBracket?_iff.mp h
      exact ⟨_, List.mem_cons_of_mem _ (List.mem_cons_self ..), inner, hclosing, hline, rfl⟩
    next => cases h
  · rintro ⟨opening, hopening, inner, hclosing, hline, rfl⟩
    have hafter : afterBracket? (inner ++ ']' :: rest) = some rest :=
      afterBracket?_iff.mpr ⟨inner, hclosing, hline, rfl⟩
    rw [openings, List.mem_cons, List.mem_singleton] at hopening
    rcases hopening with rfl | rfl
    · exact hafter
    · exact hafter

/-- An annotation ends, at its first closing bracket or another. -/
theorem isSome_bracketed_after? {opening inner : List Char} (hopening : opening ∈ openings)
    (hline : '\n' ∉ inner) (rest : List Char) :
    (bracketed.after? (opening ++ (inner ++ ']' :: rest))).isSome = true := by
  obtain ⟨rest', hafter⟩ := Option.isSome_iff_exists.mp (isSome_afterBracket? hline rest)
  obtain ⟨inner', hclosing, hline', heq⟩ := afterBracket?_iff.mp hafter
  rw [heq, ← List.append_assoc]
  rw [bracketed_after?_iff.mpr ⟨opening, hopening, inner', hclosing, hline', rfl⟩]
  rfl

theorem bracketed_occursIn_iff {text : List Char} :
    bracketed.occursIn text = false ↔ ∀ noise, IsAnnotation noise → ¬ noise <:+: text := by
  rw [Passage.occursIn_eq_false_iff]
  constructor
  · rintro h _ ⟨opening, hopening, inner, hline, rfl⟩ ⟨front, back, rfl⟩
    have hsome := isSome_bracketed_after? hopening hline back
    have hnone : bracketed.after? (opening ++ (inner ++ ']' :: back)) = none :=
      h _ ⟨front, by simp⟩
    rw [hnone] at hsome
    cases hsome
  · intro h rest hrest
    rw [Option.eq_none_iff_forall_ne_some]
    intro tail htail
    obtain ⟨opening, hopening, inner, -, hline, rfl⟩ := bracketed_after?_iff.mp htail
    refine h _ ⟨opening, hopening, inner, hline, rfl⟩ (List.IsInfix.trans ?_ hrest.isInfix)
    exact ⟨[], tail, by simp⟩

/-! ## Clean messages -/

/-- A text that has nothing to be taken off: no annotation, no marker, no surrounding white space, and
a capital letter in front, if a letter stands there. -/
structure IsClean (text : List Char) : Prop where
  noAnnotation : ∀ noise, IsAnnotation noise → ¬ noise <:+: text
  noMarker : ¬ fixText <:+: text
  noBlankBefore : ∀ c ∈ text.head?, isBlank c = false
  noBlankAfter : ∀ c ∈ text.getLast?, isBlank c = false
  capital : ∀ c ∈ text.head?, upperChar c = [c]

theorem trim_eq_self_iff {text : List Char} :
    trim text = text ↔
      (∀ c ∈ text.head?, isBlank c = false) ∧ ∀ c ∈ text.getLast?, isBlank c = false := by
  have htrim : trim text = (text.dropWhile isBlank).rdropWhile isBlank := rfl
  constructor
  · intro h
    have hshort := (List.rdropWhile_prefix isBlank (text.dropWhile isBlank)).sublist
    rw [← htrim, h] at hshort
    have hfront : text.dropWhile isBlank = text :=
      (List.dropWhile_sublist _).eq_of_length_le hshort.length_le
    rw [htrim, hfront] at h
    refine ⟨fun c hc => ?_, fun c hc => ?_⟩
    · have hnot := List.head?_dropWhile_not isBlank text
      rw [hfront, Option.mem_def.mp hc] at hnot
      simpa using hnot
    · obtain ⟨hne, rfl⟩ := List.mem_getLast?_eq_getLast hc
      simpa using List.rdropWhile_eq_self_iff.mp h hne
  · rintro ⟨hhead, hlast⟩
    have hfront : text.dropWhile isBlank = text := by
      cases text with
      | nil => rfl
      | cons c text => exact List.dropWhile_cons_of_neg (by simp [hhead c rfl])
    rw [htrim, hfront, List.rdropWhile_eq_self_iff]
    intro hne
    simp [hlast _ (List.getLast?_eq_getLast_of_ne_nil hne)]

theorem clean_eq_self_iff {text : List Char} :
    clean text = text ↔ bracketed.occursIn text = false ∧ fixMarker.occursIn text = false ∧
      trim text = text := by
  constructor
  · intro h
    have hmarker := (trim_sublist (fixMarker.erase (bracketed.erase text))).length_le
    have hbracket := (fixMarker.erase_sublist (bracketed.erase text)).length_le
    have hlength : (trim (fixMarker.erase (bracketed.erase text))).length = text.length :=
      congrArg List.length h
    have hfirst : bracketed.erase text = text :=
      (bracketed.erase_sublist text).eq_of_length_le (by omega)
    have hsecond : fixMarker.erase text = text :=
      (fixMarker.erase_sublist text).eq_of_length_le (by rw [hfirst] at hlength hmarker; omega)
    refine ⟨Passage.erase_eq_self_iff.mp hfirst, Passage.erase_eq_self_iff.mp hsecond, ?_⟩
    rw [clean, hfirst, hsecond] at h
    exact h
  · rintro ⟨hbracket, hmarker, htrim⟩
    rw [clean, Passage.erase_eq_self_iff.mpr hbracket, Passage.erase_eq_self_iff.mpr hmarker, htrim]

/-- A round that changes nothing cleans nothing: what capitals add is never what cleaning takes. -/
theorem clean_of_round {text : List Char} (h : round text = text) : clean text = text := by
  have hcount : uncapped (clean text) ≤ uncapped text := (clean_sublist text).countP_le
  rw [round] at h
  cases hcleaned : clean text with
  | nil =>
    rw [hcleaned] at h
    exact h
  | cons c rest =>
    rw [hcleaned, capitalize] at h
    by_cases hc : upperChar c = [c]
    · rw [hc] at h
      exact h
    · -- the text would have fewer small letters than what is left of it
      have hfewer : uncapped text = uncapped rest := by
        rw [← h, uncapped, List.countP_append]
        exact (congrArg (· + _) (uncapped_upperChar c)).trans (Nat.zero_add _)
      have hmore : uncapped (c :: rest) = uncapped rest + 1 :=
        List.countP_cons_of_pos (by simpa [isUpperFixed] using hc)
      rw [hcleaned] at hcount
      omega

theorem capitalize_eq_self_iff {text : List Char} :
    capitalize text = text ↔ ∀ c ∈ text.head?, upperChar c = [c] := by
  cases text with
  | nil => simp [capitalize]
  | cons c text =>
    show upperChar c ++ text = [c] ++ text ↔ _
    rw [List.append_left_inj]
    simp

/-- A round leaves alone exactly the clean messages. -/
theorem round_eq_self_iff {text : List Char} : round text = text ↔ IsClean text := by
  have hstays : round text = text ↔ clean text = text ∧ capitalize text = text := by
    constructor
    · intro h
      have hclean := clean_of_round h
      rw [round, hclean] at h
      exact ⟨hclean, h⟩
    · rintro ⟨hclean, hcapital⟩
      rw [round, hclean, hcapital]
  have hmarker : fixMarker.occursIn text = false ↔ ¬ fixText <:+: text :=
    Passage.literal_occursIn_iff
  rw [hstays, clean_eq_self_iff, capitalize_eq_self_iff, bracketed_occursIn_iff, hmarker,
    trim_eq_self_iff]
  constructor
  · rintro ⟨⟨haside, hmarker, hbefore, hafter⟩, hcapital⟩
    exact ⟨haside, hmarker, hbefore, hafter, hcapital⟩
  · rintro ⟨haside, hmarker, hbefore, hafter, hcapital⟩
    exact ⟨⟨haside, hmarker, hbefore, hafter⟩, hcapital⟩

/-! ## How many rounds there are -/

/-- What a message weighs: a character with another upper case may still become three. -/
def weight (message : List Char) : Nat :=
  message.length + 3 * uncapped message

theorem length_upperChar_le (c : Char) : (upperChar c).length ≤ 3 :=
  length_mapCase_le (by decide) (by decide)

theorem length_round_le (message : List Char) : (round message).length ≤ message.length + 2 := by
  have hclean := (clean_sublist message).length_le
  rw [round]
  cases hcleaned : clean message with
  | nil => exact Nat.zero_le _
  | cons c rest =>
    have hupper := length_upperChar_le c
    rw [hcleaned, List.length_cons] at hclean
    rw [capitalize, List.length_append]
    omega

/-- A round that changes a message makes it lighter. -/
theorem weight_round_lt {message : List Char} (h : round message ≠ message) :
    weight (round message) < weight message := by
  have hlength := length_round_le message
  unfold weight
  rcases round_eq_self_or_lt message with heq | hfewer | ⟨hcount, hshorter⟩
  · exact absurd heq h
  · omega
  · omega

theorem weight_le (message : List Char) : weight message ≤ 4 * message.length := by
  have hcount : uncapped message ≤ message.length := List.countP_le_length
  unfold weight
  omega

/-- **Normalization settles.** The rounds on a message end, after at most four for each of its
characters; what they end in is clean, and it is normal. -/
theorem normalize_settles (message : String) :
    (∃ rounds ≤ 4 * message.length, (normalize message).toList = round^[rounds] message.toList) ∧
      IsClean (normalize message).toList ∧ normalize (normalize message) = normalize message := by
  rw [toList_normalize]
  refine ⟨?_, round_eq_self_iff.mp (round_normalizeChars _), normalize_normalize message⟩
  obtain ⟨rounds, hle, heq⟩ :=
    exists_iterate_eq (fun _ => normalizeChars_of_round)
      (fun text _ => (normalizeChars_round text).symm) (fun _ => weight_round_lt) message.toList
  refine ⟨rounds, Nat.le_trans hle ?_, heq⟩
  rw [← String.length_toList]
  exact weight_le message.toList

/-! ## What the producers add -/

/-- What a producer adds behind a message: white space, if any, and the marker or an annotation. -/
def IsTrailer (text : List Char) : Prop :=
  ∃ gap noise, (∀ c ∈ gap, isBlank c = true) ∧ text = gap ++ noise ∧
    (noise = fixText ∨ ∃ opening ∈ openings, ∃ inner, ']' ∉ inner ∧ '\n' ∉ inner ∧
      noise = opening ++ inner ++ [']'])

/-- Whatever opens an annotation is followed by a closing bracket on the same line. -/
def AllClosed (text : List Char) : Prop :=
  ∀ opening ∈ openings, ∀ rest, opening ++ rest <:+ text →
    ∃ inner after, '\n' ∉ inner ∧ rest = inner ++ ']' :: after

/-- Closing brackets can be looked for. -/
theorem allClosed_iff {text : List Char} :
    AllClosed text ↔ ∀ opening ∈ openings, ∀ tail ∈ text.tails, opening <+: tail →
      (afterBracket? (tail.drop opening.length)).isSome = true := by
  constructor
  · rintro h opening hopening tail htail ⟨rest, rfl⟩
    rw [List.mem_tails] at htail
    obtain ⟨inner, after, hline, rfl⟩ := h opening hopening rest htail
    rw [List.drop_left]
    exact isSome_afterBracket? hline after
  · intro h opening hopening rest hrest
    have hsome := h opening hopening _ ((List.mem_tails _ _).mpr hrest) (List.prefix_append ..)
    rw [List.drop_left, Option.isSome_iff_exists] at hsome
    obtain ⟨after, hafter⟩ := hsome
    obtain ⟨inner, -, hline, rfl⟩ := afterBracket?_iff.mp hafter
    exact ⟨inner, after, hline, rfl⟩

instance (text : List Char) : Decidable (AllClosed text) :=
  decidable_of_iff _ allClosed_iff.symm

/-- Text in which there is nothing but white space, markers and annotations. -/
inductive IsNoise : List Char → Prop where
  | nil : IsNoise []
  | blank {c : Char} {text : List Char} : isBlank c = true → IsNoise text → IsNoise (c :: text)
  | marker {text : List Char} : IsNoise text → IsNoise (fixText ++ text)
  | aside {opening inner text : List Char} : opening ∈ openings → ']' ∉ inner →
    '\n' ∉ inner → IsNoise text → IsNoise (opening ++ inner ++ ']' :: text)

theorem IsNoise.blanks_append {gap text : List Char} (hgap : ∀ c ∈ gap, isBlank c = true)
    (h : IsNoise text) : IsNoise (gap ++ text) := by
  induction gap with
  | nil => exact h
  | cons c gap ih =>
    rw [List.forall_mem_cons] at hgap
    exact .blank hgap.1 (ih hgap.2)

theorem isNoise_flatten {trailers : List (List Char)}
    (h : ∀ trailer ∈ trailers, IsTrailer trailer) : IsNoise trailers.flatten := by
  induction trailers with
  | nil => exact .nil
  | cons trailer trailers ih =>
    rw [List.forall_mem_cons] at h
    obtain ⟨⟨gap, noise, hgap, rfl, hnoise⟩, hrest⟩ := h
    rw [List.flatten_cons, List.append_assoc]
    refine .blanks_append hgap ?_
    rcases hnoise with rfl | ⟨opening, hopening, inner, hclosing, hline, rfl⟩
    · exact .marker (ih hrest)
    · rw [List.append_assoc]
      exact .aside hopening hclosing hline (ih hrest)

/-- Every annotation opens with the same bracket. -/
theorem exists_of_mem_openings {opening : List Char} (h : opening ∈ openings) :
    ∃ tail, opening = '[' :: tail ∧ '(' ∉ tail ∧ '[' ∉ tail := by
  rw [openings, List.mem_cons, List.mem_singleton] at h
  rcases h with rfl | rfl
  · exact ⟨_, rfl, by decide, by decide⟩
  · exact ⟨_, rfl, by decide, by decide⟩

/-- Up to the first bracket there is nothing but white space. -/
theorem IsNoise.isBlank_of_isPrefix {text front : List Char} (h : IsNoise text)
    (hfront : front <+: text) (hround : '(' ∉ front) (hsquare : '[' ∉ front) :
    ∀ c ∈ front, isBlank c = true := by
  induction h generalizing front with
  | nil => simp [List.prefix_nil.mp hfront]
  | blank hblank _ ih =>
    cases front with
    | nil => simp
    | cons c front =>
      rw [List.cons_prefix_cons] at hfront
      rw [List.mem_cons, not_or] at hround hsquare
      rw [List.forall_mem_cons, hfront.1]
      exact ⟨hblank, ih hfront.2 hround.2 hsquare.2⟩
  | marker _ _ =>
    cases front with
    | nil => simp
    | cons c front =>
      have hc : c = '(' := (List.cons_prefix_cons.mp hfront).1
      simp [hc] at hround
  | aside hopening _ _ _ _ =>
    obtain ⟨tail, rfl, -, -⟩ := exists_of_mem_openings hopening
    cases front with
    | nil => simp
    | cons c front =>
      have hc : c = '[' := (List.cons_prefix_cons.mp hfront).1
      simp [hc] at hsquare

/-- A word that starts in front of noise stands in front of it altogether, if it has no bracket but
its first character and does not end in white space. -/
theorem IsNoise.isPrefix_of_append {word front back : List Char} (hback : IsNoise back)
    (hfront : front ≠ []) (hround : '(' ∉ word.tail) (hsquare : '[' ∉ word.tail)
    (hlast : ∀ c ∈ word.getLast?, isBlank c = false) (h : word <+: front ++ back) :
    word <+: front := by
  obtain ⟨rest, heq⟩ := h
  rcases List.append_eq_append_iff.mp heq with ⟨tail, rfl, -⟩ | ⟨extra, rfl, rfl⟩
  · exact List.prefix_append ..
  · -- what the word has behind the seam would be white space, and the word would end in it
    obtain ⟨c, front, rfl⟩ := List.exists_cons_of_ne_nil hfront
    rw [List.cons_append, List.tail_cons, List.mem_append, not_or] at hround hsquare
    have hblank := hback.isBlank_of_isPrefix (List.prefix_append extra rest) hround.2 hsquare.2
    rcases List.eq_nil_or_concat' extra with rfl | ⟨extra, d, rfl⟩
    · simp
    · have hd : isBlank d = false :=
        hlast d (by rw [← List.append_assoc, List.getLast?_concat]; rfl)
      rw [hblank d (by simp)] at hd
      cases hd

theorem bracketed_after?_of_ne (c : Char) (text : List Char) (h : c ≠ '[') :
    bracketed.after? (c :: text) = none := by
  rw [Option.eq_none_iff_forall_ne_some]
  intro rest hrest
  obtain ⟨opening, hopening, inner, -, -, heq⟩ := bracketed_after?_iff.mp hrest
  obtain ⟨tail, rfl, -, -⟩ := exists_of_mem_openings hopening
  exact h (List.cons.inj heq).1

theorem fixMarker_after?_iff {text rest : List Char} :
    fixMarker.after? text = some rest ↔ text = fixText ++ rest :=
  Passage.literal_after?_iff

theorem fixMarker_after?_of_ne (c : Char) (text : List Char) (h : c ≠ '(') :
    fixMarker.after? (c :: text) = none := by
  rw [Option.eq_none_iff_forall_ne_some]
  intro rest hrest
  exact h (List.cons.inj (fixMarker_after?_iff.mp hrest)).1

/-- Where all annotations are closed, noise behind a text is not mixed up with them. -/
theorem bracketed_erase_append {front back : List Char} (hfront : AllClosed front)
    (hback : IsNoise back) :
    bracketed.erase (front ++ back) = bracketed.erase front ++ bracketed.erase back := by
  refine Passage.erase_append fun text htext hne => ?_
  cases hafter : bracketed.after? text with
  | some rest =>
    obtain ⟨opening, hopening, inner, hclosing, hline, rfl⟩ := bracketed_after?_iff.mp hafter
    exact bracketed_after?_iff.mpr ⟨opening, hopening, inner, hclosing, hline, by simp⟩
  | none =>
    -- an annotation that ends in the noise would open in front, and be closed there
    rw [Option.map_none, Option.eq_none_iff_forall_ne_some]
    intro rest hrest
    obtain ⟨opening, hopening, inner, -, -, heq⟩ := bracketed_after?_iff.mp hrest
    have hopens : opening <+: text := by
      obtain ⟨tail, htail, hround, hsquare⟩ := exists_of_mem_openings hopening
      refine hback.isPrefix_of_append hne ?_ ?_ ?_ ⟨inner ++ ']' :: rest, by simp [heq]⟩
      · rw [htail]
        exact hround
      · rw [htail]
        exact hsquare
      · rw [openings, List.mem_cons, List.mem_singleton] at hopening
        rcases hopening with rfl | rfl
        · rintro c ⟨⟩
          decide
        · rintro c ⟨⟩
          decide
    obtain ⟨tail, rfl⟩ := hopens
    obtain ⟨inner', after, hline, rfl⟩ := hfront opening hopening tail htext
    have hsome := isSome_bracketed_after? hopening hline after
    rw [hafter] at hsome
    cases hsome

theorem fixMarker_erase_append {front back : List Char} (hback : IsNoise back) :
    fixMarker.erase (front ++ back) = fixMarker.erase front ++ fixMarker.erase back := by
  refine Passage.erase_append fun text _ hne => ?_
  cases hafter : fixMarker.after? text with
  | some rest =>
    rw [fixMarker_after?_iff] at hafter
    exact fixMarker_after?_iff.mpr (by rw [hafter, List.append_assoc])
  | none =>
    rw [Option.map_none, Option.eq_none_iff_forall_ne_some]
    intro rest hrest
    have hstarts : fixText <+: text ++ back := ⟨rest, (fixMarker_after?_iff.mp hrest).symm⟩
    have hlast : ∀ c ∈ fixText.getLast?, isBlank c = false := by
      rintro c ⟨⟩
      decide
    obtain ⟨tail, rfl⟩ := hback.isPrefix_of_append hne (by decide) (by decide) hlast hstarts
    rw [fixMarker_after?_iff.mpr rfl] at hafter
    cases hafter

/-- Noise without its annotations is noise, and without its markers too it is white space. -/
theorem IsNoise.erase {text : List Char} (h : IsNoise text) :
    IsNoise (bracketed.erase text) ∧
      ∀ c ∈ fixMarker.erase (bracketed.erase text), isBlank c = true := by
  induction h with
  | nil => simp [IsNoise.nil]
  | @blank c text hc _ ih =>
    have hsquare : c ≠ '[' := fun heq => absurd (heq ▸ hc) (by decide)
    have hround : c ≠ '(' := fun heq => absurd (heq ▸ hc) (by decide)
    rw [Passage.erase_cons_none _ (bracketed_after?_of_ne c text hsquare),
      Passage.erase_cons_none _ (fixMarker_after?_of_ne c _ hround), List.forall_mem_cons]
    exact ⟨.blank hc ih.1, hc, ih.2⟩
  | @marker text _ ih =>
    rw [Passage.erase_append_of_not_mem bracketed_after?_of_ne (by decide),
      Passage.erase_of_after? (fixMarker_after?_iff.mpr rfl)]
    exact ⟨.marker ih.1, ih.2⟩
  | aside hopening hclosing hline _ ih =>
    rw [Passage.erase_of_after?
      (bracketed_after?_iff.mpr ⟨_, hopening, _, hclosing, hline, rfl⟩)]
    exact ih

theorem trim_append_of_blank {front back : List Char} (h : ∀ c ∈ back, isBlank c = true) :
    trim (front ++ back) = trim front := by
  have hback : back.dropWhile isBlank = [] := List.dropWhile_eq_nil_iff.mpr h
  have hdrop : ∀ text, (text ++ back).rdropWhile isBlank = text.rdropWhile isBlank := by
    intro text
    rw [List.rdropWhile, List.reverse_append, List.dropWhile_append_of_pos]
    · rfl
    · simpa using h
  show ((front ++ back).dropWhile isBlank).rdropWhile isBlank = _
  rw [List.dropWhile_append]
  split
  next hempty =>
    rw [hback, trim, trimBy, List.isEmpty_iff.mp hempty]
    rfl
  next => exact hdrop _

/-- Cleaning takes off the noise behind a message in which all annotations are closed. -/
theorem clean_append {front back : List Char} (hfront : AllClosed front) (hback : IsNoise back) :
    clean (front ++ back) = clean front := by
  rw [clean, bracketed_erase_append hfront hback, fixMarker_erase_append hback.erase.1,
    trim_append_of_blank hback.erase.2]
  rfl

theorem normalizeChars_congr {a b : List Char} (h : round a = round b) :
    normalizeChars a = normalizeChars b := by
  rw [← normalizeChars_round a, h, normalizeChars_round]

/-! ## A capital letter in front -/

/-- White space and the punctuation of ASCII. -/
def separators : CharSet :=
  ⟨blanks.ranges ++ [(0x21, 0x2f), (0x3a, 0x40), (0x5b, 0x60), (0x7b, 0x7e)]⟩

/-- Case has nothing to do with separators. -/
theorem keepsApart_separators : keepsApart upperRuns upperExpansions separators = true := by
  decide +kernel

theorem isBlank_of_not_separator {c : Char} (h : separators.contains c = false) :
    isBlank c = false := by
  rw [separators, CharSet.contains, List.any_append, Bool.or_eq_false_iff] at h
  exact h.1

theorem trim_append_of_not_blank {front : List Char} (hne : front ≠ [])
    (hfront : ∀ c ∈ front, isBlank c = false) (back : List Char) :
    trim (front ++ back) = front ++ back.rdropWhile isBlank := by
  have hdrop : (front ++ back).dropWhile isBlank = front ++ back := by
    obtain ⟨c, front, rfl⟩ := List.exists_cons_of_ne_nil hne
    exact List.dropWhile_cons_of_neg (by simp [hfront c (List.mem_cons_self ..)])
  show ((front ++ back).dropWhile isBlank).rdropWhile isBlank = _
  rw [hdrop]
  clear hdrop
  induction back using List.reverseRecOn with
  | nil =>
    rw [List.append_nil, List.rdropWhile_nil, List.append_nil, List.rdropWhile_eq_self_iff]
    intro _
    simp [hfront _ (List.getLast_mem hne)]
  | append_singleton back c ih =>
    rw [← List.append_assoc, List.rdropWhile_concat, List.rdropWhile_concat]
    split
    next => exact ih
    next => rw [List.append_assoc]

/-- What stands in front of a message without any separator stays when the message is cleaned. -/
theorem clean_append_of_not_separator {front : List Char} (hne : front ≠ [])
    (hfront : ∀ c ∈ front, separators.contains c = false) (rest : List Char) :
    clean (front ++ rest) =
      front ++ (fixMarker.erase (bracketed.erase rest)).rdropWhile isBlank := by
  have habsent : ∀ c, separators.contains c = true → c ∉ front := fun c hc hmem => by
    rw [hfront c hmem] at hc
    cases hc
  rw [clean, Passage.erase_append_of_not_mem bracketed_after?_of_ne (habsent '[' (by decide)),
    Passage.erase_append_of_not_mem fixMarker_after?_of_ne (habsent '(' (by decide))]
  exact trim_append_of_not_blank hne (fun c hc => isBlank_of_not_separator (hfront c hc)) _

/-- A capital letter in front makes no difference to a round. -/
theorem round_capitalize (message : List Char) : round (capitalize message) = round message := by
  cases message with
  | nil => rfl
  | cons c rest =>
    by_cases hc : upperChar c = [c]
    · rw [capitalize, hc]
      rfl
    · -- neither the letter nor its capital is a separator, so cleaning begins behind them
      have hsmall : separators.contains c = false := by
        rw [← Bool.not_eq_true]
        exact fun h => hc (mapCase_eq_self_of_contains keepsApart_separators h)
      have hcapital : ∀ d ∈ upperChar c, separators.contains d = false := by
        intro d hd
        rw [← Bool.not_eq_true]
        intro h
        rw [eq_of_mem_mapCase_of_contains keepsApart_separators hd h, hsmall] at h
        cases h
      have hne : upperChar c ≠ [] := mapCase_ne_nil (by decide)
      have hfixed : ∀ back, capitalize (upperChar c ++ back) = upperChar c ++ back := by
        intro back
        rw [capitalize_eq_self_iff, List.head?_append_of_ne_nil _ hne]
        exact fun d hd => upperChar_eq_self_of_mem (List.mem_of_mem_head? hd)
      have hone := clean_append_of_not_separator (List.cons_ne_nil c [])
        (List.forall_mem_singleton.mpr hsmall) rest
      rw [capitalize, round, clean_append_of_not_separator hne hcapital, hfixed, round]
      rw [List.singleton_append] at hone
      rw [hone]
      rfl

/-- **The producers' wordings agree.** Trailers behind a message in which all annotations are closed
make no difference to its normal form, and neither does a capital letter in front of any message. -/
theorem wordings_agree (message : String) :
    (∀ trailers : List (List Char), AllClosed message.toList →
      (∀ trailer ∈ trailers, IsTrailer trailer) →
        normalize (message ++ String.ofList trailers.flatten) = normalize message) ∧
      normalize (String.ofList (capitalize message.toList)) = normalize message := by
  refine ⟨fun trailers hclosed htrailers => ?_, ?_⟩
  · have hclean := clean_append hclosed (isNoise_flatten htrailers)
    have hround : round (message.toList ++ trailers.flatten) = round message.toList := by
      rw [round, hclean, round]
    rw [normalize, String.toList_append, String.toList_ofList, normalizeChars_congr hround,
      normalize]
  · rw [normalize, String.toList_ofList, normalizeChars_congr (round_capitalize message.toList),
      normalize]

/-- A message with an annotation of its own, and behind it an annotation that opens twice, the marker
after a line break, and another annotation without white space. -/
theorem wordings_agree_of_three_trailers :
    let message := "value [-Wa] unused"
    let trailers := [" [-Wb [#c]".toList, "\n(fix available)".toList, "[#Group]".toList]
    AllClosed message.toList ∧ (∀ trailer ∈ trailers, IsTrailer trailer) ∧
      normalize (message ++ String.ofList trailers.flatten) = normalize message ∧
      normalize "Value [-Wa] unused" = normalize message := by
  intro message trailers
  have hclosed : AllClosed message.toList := by decide +kernel
  have hspace : ∀ c ∈ [' '], isBlank c = true := List.forall_mem_singleton.mpr (by decide)
  have hbreak : ∀ c ∈ ['\n'], isBlank c = true := List.forall_mem_singleton.mpr (by decide)
  have htrailers : ∀ trailer ∈ trailers, IsTrailer trailer := by
    rw [List.forall_mem_cons, List.forall_mem_cons, List.forall_mem_singleton]
    refine ⟨⟨[' '], _, hspace, rfl, .inr ?_⟩, ⟨['\n'], fixText, hbreak, rfl, .inl rfl⟩,
      ⟨[], _, List.forall_mem_nil _, rfl, .inr ?_⟩⟩
    · exact ⟨"[-W".toList, by decide, "b [#c".toList, by decide, by decide, rfl⟩
    · exact ⟨"[#".toList, by decide, "Group".toList, by decide, by decide, rfl⟩
  have hcapital : String.ofList (capitalize message.toList) = "Value [-Wa] unused" := by
    decide +kernel
  obtain ⟨hadded, hsame⟩ := wordings_agree message
  rw [hcapital] at hsame
  exact ⟨hclosed, htrailers, hadded trailers hclosed htrailers, hsame⟩

end Reconcile.Wording
