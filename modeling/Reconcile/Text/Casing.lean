import Reconcile.Text.CaseTable

/-!
# Upper and lower case

`upper` and `lower` are the full Unicode mappings: one character may become several. A character's
upper case is made of characters that upper-casing leaves alone (`upperChar_eq_self_of_mem`), which
is why capitalizing a text twice is the same as capitalizing it once. The same holds of lower case,
and of whole texts, whose final sigmas stay what they are (`lower_lower`).
-/

namespace Reconcile.Text

/-- The image of a character under a pair of case tables. -/
def mapCase (runs : List CaseRun) (expansions : List (Nat × List Nat)) (c : Char) : List Char :=
  match runs.find? (·.covers c.toNat) with
  | some run => [run.image c.toNat]
  | none =>
    match expansions.lookup c.toNat with
    | some codes => codes.map Char.ofNat
    | none => [c]

/-- The upper case of one character. -/
def upperChar (c : Char) : List Char :=
  mapCase upperRuns upperExpansions c

/-- The lower case of one character, wherever it stands. -/
def lowerChar (c : Char) : List Char :=
  mapCase lowerRuns lowerExpansions c

/-- The lower case of one character when that is a single character; otherwise its first one.
Letters are compared by it when case does not matter. -/
def foldChar (c : Char) : Char :=
  (lowerChar c).headD c

/-- The upper case of a text. -/
def upper (text : List Char) : List Char :=
  text.flatMap upperChar

/-- The capital sigma, whose lower case depends on its place in the word. -/
def capitalSigma : Char := '\u03a3'

/-- A word ends here for the purpose of case when the next character that counts has none. -/
def caseEnds (rest : List Char) : Bool :=
  match rest.dropWhile caseIgnorables.contains with
  | [] => true
  | c :: _ => !casedChars.contains c

/-- A word has begun before this place when the last character that counts has case; `before` is
read backwards. -/
def caseBegun (before : List Char) : Bool :=
  match before.dropWhile caseIgnorables.contains with
  | [] => false
  | c :: _ => casedChars.contains c

/-- The lower case of `text` standing after `before` (read backwards): a capital sigma that ends its
word becomes the final sigma. -/
def lowerAfter : List Char → List Char → List Char
  | _, [] => []
  | before, c :: rest =>
    if c = capitalSigma then
      (if caseBegun before && caseEnds rest then '\u03c2' else '\u03c3')
        :: lowerAfter (c :: before) rest
    else lowerChar c ++ lowerAfter (c :: before) rest

/-- The lower case of a text. -/
def lower (text : List Char) : List Char :=
  lowerAfter [] text

/-- The code points that a run covers, in order. -/
def CaseRun.codes (run : CaseRun) : List Nat :=
  (List.range ((run.last - run.first) / run.step + 1)).map fun i => run.first + run.step * i

/-- Every code point that a pair of case tables changes. -/
def caseCodes (runs : List CaseRun) (expansions : List (Nat × List Nat)) : List Nat :=
  runs.flatMap CaseRun.codes ++ expansions.map Prod.fst

/-- Every character that occurs in the image of another one. -/
def caseImages (runs : List CaseRun) (expansions : List (Nat × List Nat)) : List Char :=
  runs.flatMap (fun run => run.codes.map run.image)
    ++ expansions.flatMap fun entry => entry.2.map Char.ofNat

/-- A list of numbers as one number whose bits are their places. -/
def bitMask (codes : List Nat) : Nat :=
  codes.foldr (fun code mask => mask ||| 1 <<< code) 0

private theorem testBit_bitMask {codes : List Nat} {code : Nat} (h : code ∈ codes) :
    (bitMask codes).testBit code = true := by
  induction codes with
  | nil => simp at h
  | cons head tail ih =>
    rw [bitMask, List.foldr_cons, Nat.testBit_or]
    rcases List.mem_cons.1 h with rfl | h
    · simp [Nat.testBit_shiftLeft]
    · simp [show Nat.testBit (List.foldr _ 0 tail) code = true from ih h]

private theorem mem_codes {run : CaseRun} {code : Nat} (h : run.covers code = true) :
    code ∈ run.codes := by
  simp only [CaseRun.covers, Bool.and_eq_true, decide_eq_true_eq, beq_iff_eq] at h
  obtain ⟨⟨hfirst, hlast⟩, hstep⟩ := h
  refine List.mem_map.2 ⟨(code - run.first) / run.step, ?_, ?_⟩
  · rw [List.mem_range]
    exact Nat.lt_succ_of_le (Nat.div_le_div_right (Nat.sub_le_sub_right hlast _))
  · have := Nat.div_add_mod (code - run.first) run.step
    omega

variable {runs : List CaseRun} {expansions : List (Nat × List Nat)} {c d : Char}

/-- A character whose code point is none of `caseCodes` is left alone. -/
private theorem mapCase_of_unlisted
    (h : (bitMask (caseCodes runs expansions)).testBit c.toNat = false) :
    mapCase runs expansions c = [c] := by
  have hnot : c.toNat ∉ caseCodes runs expansions := fun hmem => by simp [testBit_bitMask hmem] at h
  have hrun : runs.find? (fun run => run.covers c.toNat) = none := by
    rw [List.find?_eq_none]
    intro run hmem hcov
    exact hnot (List.mem_append_left _ (List.mem_flatMap.2 ⟨run, hmem, mem_codes hcov⟩))
  have hexp : expansions.lookup c.toNat = none := by
    rw [List.lookup_eq_none_iff]
    intro entry hmem
    have : c.toNat ≠ entry.1 := fun heq =>
      hnot (List.mem_append_right _ (heq ▸ List.mem_map_of_mem hmem))
    simpa using this
  simp [mapCase, hrun, hexp]

/-- A character is left alone, or its image is made of images. -/
theorem mapCase_eq_self_or (runs : List CaseRun) (expansions : List (Nat × List Nat)) (c : Char) :
    mapCase runs expansions c = [c] ∨
      ∀ d ∈ mapCase runs expansions c, d ∈ caseImages runs expansions := by
  rw [mapCase]
  split
  next run hrun =>
    have hcovers := List.find?_some hrun
    refine Or.inr fun d hd => List.mem_append_left _ (List.mem_flatMap.2 ⟨run, ?_, ?_⟩)
    · exact List.mem_of_find?_eq_some hrun
    · rw [List.mem_singleton.1 hd]
      exact List.mem_map_of_mem (mem_codes hcovers)
  next =>
    split
    next codes hcodes =>
      refine Or.inr fun d hd =>
        List.mem_append_right _ (List.mem_flatMap.2 ⟨(c.toNat, codes), ?_, hd⟩)
      obtain ⟨l₁, l₂, heq, _⟩ := List.lookup_eq_some_iff.1 hcodes
      rw [heq]
      simp
    next => exact Or.inl rfl

theorem mapCase_ne_nil (h : ∀ entry ∈ expansions, entry.2 ≠ []) :
    mapCase runs expansions c ≠ [] := by
  rw [mapCase]
  split
  next => simp
  next =>
    split
    next codes hcodes =>
      obtain ⟨l₁, l₂, heq, _⟩ := List.lookup_eq_some_iff.1 hcodes
      simpa using h (c.toNat, codes) (by rw [heq]; simp)
    next => simp

theorem length_mapCase_le {n : Nat} (hn : 0 < n) (h : ∀ entry ∈ expansions, entry.2.length ≤ n) :
    (mapCase runs expansions c).length ≤ n := by
  rw [mapCase]
  split
  next => exact hn
  next =>
    split
    next codes hcodes =>
      obtain ⟨l₁, l₂, heq, _⟩ := List.lookup_eq_some_iff.1 hcodes
      rw [List.length_map]
      exact h (c.toNat, codes) (by rw [heq]; simp)
    next => exact hn

/-- Whether case tables have nothing to do with a set of characters: they change none of it and make
none of it. -/
def keepsApart (runs : List CaseRun) (expansions : List (Nat × List Nat)) (set : CharSet) : Bool :=
  (set.codes.all fun code => !(bitMask (caseCodes runs expansions)).testBit code)
    && set.codes.all fun code => !(bitMask ((caseImages runs expansions).map Char.toNat)).testBit code

/-- A character of a set that case tables have nothing to do with is left alone. -/
theorem mapCase_eq_self_of_contains {set : CharSet} (hset : keepsApart runs expansions set = true)
    (h : set.contains c = true) : mapCase runs expansions c = [c] := by
  rw [keepsApart, Bool.and_eq_true] at hset
  have hunlisted := List.all_eq_true.1 hset.1 _ (CharSet.mem_codes h)
  exact mapCase_of_unlisted (by simpa using hunlisted)

/-- A character of such a set is made of nothing but itself. -/
theorem eq_of_mem_mapCase_of_contains {set : CharSet} (hset : keepsApart runs expansions set = true)
    (hd : d ∈ mapCase runs expansions c) (h : set.contains d = true) : d = c := by
  rcases mapCase_eq_self_or runs expansions c with hself | himages
  · rw [hself] at hd
    exact List.mem_singleton.1 hd
  · rw [keepsApart, Bool.and_eq_true] at hset
    have hunlisted := List.all_eq_true.1 hset.2 _ (CharSet.mem_codes h)
    rw [testBit_bitMask (List.mem_map_of_mem (himages d hd))] at hunlisted
    cases hunlisted

/-- Whether case tables leave alone every character that occurs in an image. -/
def imagesUnlisted (runs : List CaseRun) (expansions : List (Nat × List Nat)) : Bool :=
  (caseImages runs expansions).all fun d => !(bitMask (caseCodes runs expansions)).testBit d.toNat

private theorem mapCase_eq_self_of_mem (hclosed : imagesUnlisted runs expansions = true)
    (h : d ∈ mapCase runs expansions c) : mapCase runs expansions d = [d] := by
  rcases mapCase_eq_self_or runs expansions c with hc | himages
  · rw [hc, List.mem_singleton] at h
    exact h ▸ hc
  · apply mapCase_of_unlisted
    simpa using List.all_eq_true.1 hclosed d (himages d h)

/-- The upper case of a character is made of characters that upper-casing leaves alone. -/
theorem upperChar_eq_self_of_mem (h : d ∈ upperChar c) : upperChar d = [d] :=
  mapCase_eq_self_of_mem (by decide +kernel) h

/-- The lower case of a character is made of characters that lower-casing leaves alone. -/
theorem lowerChar_eq_self_of_mem (h : d ∈ lowerChar c) : lowerChar d = [d] :=
  mapCase_eq_self_of_mem (by decide +kernel) h

theorem lowerChar_eq_self_of_mem_lowerAfter {before text : List Char}
    (h : d ∈ lowerAfter before text) : lowerChar d = [d] := by
  induction text generalizing before with
  | nil => cases h
  | cons c rest ih =>
    rw [lowerAfter] at h
    split at h
    next =>
      rcases List.mem_cons.1 h with rfl | h
      · split <;> decide +kernel
      · exact ih h
    next =>
      rcases List.mem_append.1 h with h | h
      · exact lowerChar_eq_self_of_mem h
      · exact ih h

/-- A text without characters that have another lower case is its own lower case. -/
theorem lowerAfter_eq_self {before text : List Char} (h : ∀ d ∈ text, lowerChar d = [d]) :
    lowerAfter before text = text := by
  induction text generalizing before with
  | nil => rfl
  | cons c rest ih =>
    rw [List.forall_mem_cons] at h
    have hsigma : c ≠ capitalSigma := by
      rintro rfl
      exact absurd h.1 (by decide +kernel)
    rw [lowerAfter, if_neg hsigma, h.1, ih h.2]
    rfl

/-- Lower-casing a text twice is the same as lower-casing it once. -/
theorem lower_lower (text : List Char) : lower (lower text) = lower text :=
  lowerAfter_eq_self fun _ h => lowerChar_eq_self_of_mem_lowerAfter h

/-- Whether upper-casing leaves a character alone. -/
def isUpperFixed (c : Char) : Bool :=
  upperChar c == [c]

end Reconcile.Text
