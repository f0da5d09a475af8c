import Mathlib.Data.List.TakeWhile
import Reconcile.Report.Line

/-!
# The grammar of report lines

`Line.read?` cuts a line from left to right. This file says what it reads, without saying how: a report
line is decoration, a path and a tail, and `Tail.spelled` writes the tail down.

* `read?_iff_reads`: a line whose numerals are short is a report exactly when it can be cut in this
  way with a path that is not empty, and the report is that of the shortest such path.

A tail can be cut in one way only, because a numeral ends where its digits do and a blank is no digit
(`tail_read?_iff`). So whether a tail stands at a place does not depend on what is in front of it, and
the first place where one stands ends the shortest path (`splitAtTail?_iff`). Without a condition on
numerals, a line is a report, or none, or has a numeral that cannot be read (`read?_eq_some_iff`,
`read?_eq_error_iff`).
-/

namespace Reconcile.Report

open Text

/-! ## Runs of characters -/

/-- The longest prefix of a text that has only characters of a class. -/
structure IsLongestRun (p : Char → Bool) (run text : List Char) : Prop where
  isPrefix : run <+: text
  within : ∀ c ∈ run, p c = true
  longest : ∀ other, other <+: text → (∀ c ∈ other, p c = true) → other.length ≤ run.length

/-- A text that starts with characters of a class has them cut off where the class ends. -/
theorem takeWhile_eq_of_boundary {p : Char → Bool} {run rest : List Char}
    (hrun : ∀ c ∈ run, p c = true) (hrest : ∀ c ∈ rest.head?, p c = false) :
    (run ++ rest).takeWhile p = run ∧ (run ++ rest).dropWhile p = rest := by
  rw [List.takeWhile_append_of_pos hrun, List.dropWhile_append_of_pos hrun]
  cases rest with
  | nil => exact ⟨List.append_nil run, rfl⟩
  | cons c rest =>
    have hc : ¬ p c = true := by simp [hrest c rfl]
    rw [List.takeWhile_cons_of_neg hc, List.dropWhile_cons_of_neg hc]
    exact ⟨List.append_nil run, rfl⟩

theorem head?_dropWhile_eq_false {p : Char → Bool} {text : List Char} :
    ∀ c ∈ (text.dropWhile p).head?, p c = false := by
  intro c hc
  have hnot := List.head?_dropWhile_not p text
  rw [Option.mem_def.mp hc] at hnot
  simpa using hnot

theorem isLongestRun_takeWhile (p : Char → Bool) (text : List Char) :
    IsLongestRun p (text.takeWhile p) text where
  isPrefix := List.takeWhile_prefix p
  within _ := List.mem_takeWhile_imp
  longest other hother hwithin := by
    obtain ⟨rest, rfl⟩ := hother
    rw [List.takeWhile_append_of_pos hwithin, List.length_append]
    exact Nat.le_add_right _ _

/-- There is one longest run. -/
theorem IsLongestRun.eq_takeWhile {p : Char → Bool} {run text : List Char}
    (h : IsLongestRun p run text) : run = text.takeWhile p := by
  have htaken := isLongestRun_takeWhile p text
  have hlength : run.length = (text.takeWhile p).length :=
    Nat.le_antisymm (htaken.longest run h.isPrefix h.within)
      (h.longest _ htaken.isPrefix htaken.within)
  exact (List.prefix_of_prefix_length_le h.isPrefix htaken.isPrefix (Nat.le_of_eq hlength)).eq_of_length
    hlength

/-! ## What a tail looks like -/

/-- One or more digits. -/
def IsNumeral (digits : List Char) : Prop :=
  digits ≠ [] ∧ ∀ c ∈ digits, isDigit c = true

/-- One or more blanks. -/
def IsGap (gap : List Char) : Prop :=
  gap ≠ [] ∧ ∀ c ∈ gap, isBlank c = true

/-- The column of a tail with its colon, if there is a column. -/
def Tail.columnText (tail : Tail) : List Char :=
  match tail.column with
  | some column => ':' :: column
  | none => []

/-- A tail as it is written, given the blanks in front of the word and of the message. -/
def Tail.spelled (tail : Tail) (gap before : List Char) : List Char :=
  ':' :: tail.line ++ tail.columnText ++ ':' :: gap ++ tail.word.toList ++ ':' :: before
    ++ tail.message

/-- A text is a tail. The message starts after all the blanks there are. -/
structure IsTail (text : List Char) (tail : Tail) : Prop where
  spelled : ∃ gap before, IsGap gap ∧ IsGap before ∧ text = tail.spelled gap before
  line : IsNumeral tail.line
  column : ∀ column ∈ tail.column, IsNumeral column
  word : tail.word ∈ gravityWords
  message : ∀ c ∈ tail.message.head?, isBlank c = false

/-- A blank is no digit. -/
theorem isDigit_of_isBlank {c : Char} (h : isBlank c = true) : isDigit c = false := by
  have hapart : ∀ range ∈ blanks.ranges, ∀ start ∈ zeros,
      range.2 < start ∨ start + 10 ≤ range.1 := by decide
  obtain ⟨range, hrange, hblank⟩ := List.any_eq_true.mp h
  rw [isDigit, digitValue?, Option.isSome_map, ← Bool.not_eq_true, List.find?_isSome]
  rintro ⟨start, hstart, hdigit⟩
  have hrow := hapart range hrange start hstart
  simp only [Bool.and_eq_true, decide_eq_true_eq] at hblank hdigit
  omega

/-! ## The parts of a tail -/

theorem drop_length_takeWhile (p : Char → Bool) (text : List Char) :
    text.drop (text.takeWhile p).length = text.dropWhile p := by
  calc text.drop (text.takeWhile p).length
      = (text.takeWhile p ++ text.dropWhile p).drop (text.takeWhile p).length := by
        rw [List.takeWhile_append_dropWhile]
    _ = text.dropWhile p := List.drop_left ..

theorem numeral?_iff {text digits rest : List Char} :
    numeral? text = some (digits, rest) ↔
      IsNumeral digits ∧ text = ':' :: (digits ++ rest) ∧ ∀ c ∈ rest.head?, isDigit c = false := by
  constructor
  · intro h
    unfold numeral? at h
    split at h
    next text =>
      dsimp only at h
      split at h
      next => cases h
      next hne =>
        cases h
        rw [drop_length_takeWhile, List.takeWhile_append_dropWhile]
        exact ⟨⟨hne, fun _ => List.mem_takeWhile_imp⟩, rfl, head?_dropWhile_eq_false⟩
    next => cases h
  · rintro ⟨⟨hne, hdigits⟩, rfl, hrest⟩
    have htaken := (takeWhile_eq_of_boundary hdigits hrest).1
    rw [numeral?, htaken, if_neg hne, List.drop_left]

theorem afterColonAndBlanks?_iff {text rest : List Char} :
    afterColonAndBlanks? text = some rest ↔
      ∃ gap, IsGap gap ∧ text = ':' :: (gap ++ rest) ∧ ∀ c ∈ rest.head?, isBlank c = false := by
  constructor
  · intro h
    unfold afterColonAndBlanks? at h
    split at h
    next c text =>
      split at h
      next hblank =>
        cases h
        refine ⟨c :: text.takeWhile isBlank, ⟨List.cons_ne_nil _ _, ?_⟩, ?_,
          head?_dropWhile_eq_false⟩
        · intro d hd
          rcases List.mem_cons.mp hd with rfl | hd
          · exact hblank
          · exact List.mem_takeWhile_imp hd
        · rw [List.cons_append, List.takeWhile_append_dropWhile]
      next => cases h
    next => cases h
  · rintro ⟨gap, ⟨hne, hblanks⟩, rfl, hrest⟩
    cases gap with
    | nil => exact absurd rfl hne
    | cons c gap =>
      rw [List.forall_mem_cons] at hblanks
      rw [List.cons_append, afterColonAndBlanks?, if_pos hblanks.1,
        (takeWhile_eq_of_boundary hblanks.2 hrest).2]

theorem afterWord?_iff {word : String} {text rest : List Char} :
    afterWord? word text = some rest ↔ text = word.toList ++ rest := by
  rw [afterWord?, ← String.length_toList]
  constructor
  · intro h
    split at h
    next hprefix =>
      obtain ⟨tail, rfl⟩ := List.isPrefixOf_iff_prefix.mp hprefix
      rw [← Option.some.inj h, List.drop_left]
    next => cases h
  · rintro rfl
    rw [if_pos (List.isPrefixOf_iff_prefix.mpr (List.prefix_append ..)), List.drop_left]

/-- The words for the gravity start with different letters, so no text starts with two of them. -/
theorem eq_of_gravityWords {word other : String} (hword : word ∈ gravityWords)
    (hother : other ∈ gravityWords) {rest rest' : List Char}
    (h : word.toList ++ rest = other.toList ++ rest') : word = other := by
  simp only [gravityWords, List.mem_cons, List.not_mem_nil, or_false] at hword hother
  rcases hword with rfl | rfl | rfl <;> rcases hother with rfl | rfl | rfl <;>
    first | rfl | exact absurd (List.cons.inj h).1 (by decide)

theorem gravity?_iff {text rest : List Char} {word : String} :
    gravity? text = some (word, rest) ↔ word ∈ gravityWords ∧ text = word.toList ++ rest := by
  constructor
  · intro h
    obtain ⟨found, hfound, hafter⟩ := List.exists_of_findSome?_eq_some h
    obtain ⟨after, hsome, heq⟩ := Option.map_eq_some_iff.mp hafter
    cases heq
    exact ⟨hfound, afterWord?_iff.mp hsome⟩
  · rintro ⟨hword, rfl⟩
    have hafter : afterWord? word (word.toList ++ rest) = some rest := afterWord?_iff.mpr rfl
    have hsome : (gravity? (word.toList ++ rest)).isSome = true := by
      rw [gravity?, List.findSome?_isSome_iff]
      exact ⟨word, hword, by rw [hafter]; rfl⟩
    obtain ⟨⟨found, after⟩, hfound⟩ := Option.isSome_iff_exists.mp hsome
    obtain ⟨other, hother, hmap⟩ := List.exists_of_findSome?_eq_some hfound
    obtain ⟨after', hafter', heq⟩ := Option.map_eq_some_iff.mp hmap
    cases heq
    have htext := afterWord?_iff.mp hafter'
    obtain rfl := eq_of_gravityWords hword hother htext
    rw [hfound, List.append_cancel_left htext]

theorem message?_of_not_mem {text : List Char} (h : '\n' ∉ text) : message? text = some text := by
  have htaken : text.takeWhile (· != '\n') = text :=
    List.takeWhile_eq_self_iff.mpr fun c hc => bne_iff_ne.mpr fun heq => h (heq ▸ hc)
  rw [message?, htaken, List.drop_length]
  rfl

/-- The head of a word for the gravity is no blank. -/
theorem isBlank_head?_of_gravityWords {word : String} (h : word ∈ gravityWords)
    (rest : List Char) : ∀ c ∈ (word.toList ++ rest).head?, isBlank c = false := by
  simp only [gravityWords, List.mem_cons, List.not_mem_nil, or_false] at h
  rcases h with rfl | rfl | rfl <;>
  · intro c hc
    cases hc
    decide

/-- The part of a tail after its numerals. -/
theorem tail_read_iff {text line : List Char} {column : Option (List Char)} {tail : Tail}
    (hline : '\n' ∉ text) :
    Tail.read line column text = some tail ↔
      tail.line = line ∧ tail.column = column ∧ tail.word ∈ gravityWords ∧
        (∀ c ∈ tail.message.head?, isBlank c = false) ∧
        ∃ gap before, IsGap gap ∧ IsGap before ∧
          text = ':' :: (gap ++ (tail.word.toList ++ ':' :: (before ++ tail.message))) := by
  simp only [Tail.read, Option.bind_eq_bind, Option.bind_eq_some_iff, Option.pure_def,
    afterColonAndBlanks?_iff]
  constructor
  · rintro ⟨rest, ⟨gap, hgap, rfl, -⟩, ⟨word, rest⟩, hgravity, rest', ⟨before, hbefore, hrest, hhead⟩,
      message, hmessage, htail⟩
    obtain ⟨hword, rfl⟩ := gravity?_iff.mp hgravity
    dsimp only at hrest htail
    subst hrest
    rw [message?_of_not_mem (by simp_all)] at hmessage
    cases hmessage
    cases htail
    exact ⟨rfl, rfl, hword, hhead, gap, before, hgap, hbefore, rfl⟩
  · rintro ⟨rfl, rfl, hword, hhead, gap, before, hgap, hbefore, rfl⟩
    exact ⟨_, ⟨gap, hgap, rfl, isBlank_head?_of_gravityWords hword _⟩, _,
      gravity?_iff.mpr ⟨hword, rfl⟩, _, ⟨before, hbefore, rfl, hhead⟩, _,
      message?_of_not_mem (by simp_all), rfl⟩

theorem numeral?_gap {gap : List Char} (h : IsGap gap) (rest : List Char) :
    numeral? (':' :: (gap ++ rest)) = none := by
  rw [Option.eq_none_iff_forall_ne_some]
  rintro ⟨digits, rest'⟩ hnumeral
  obtain ⟨⟨hne, hdigits⟩, heq, -⟩ := numeral?_iff.mp hnumeral
  cases gap with
  | nil => exact h.1 rfl
  | cons c gap =>
    cases digits with
    | nil => exact hne rfl
    | cons d digits =>
      obtain rfl : c = d := (List.cons.inj (List.cons.inj heq).2).1
      have hblank := isDigit_of_isBlank (h.2 c (List.mem_cons_self ..))
      rw [hdigits c (List.mem_cons_self ..)] at hblank
      cases hblank

theorem spelled_eq (tail : Tail) (gap before : List Char) :
    tail.spelled gap before = ':' :: (tail.line ++ (tail.columnText ++
      ':' :: (gap ++ (tail.word.toList ++ ':' :: (before ++ tail.message))))) := by
  simp [Tail.spelled]

/-- A text on one line is read as a tail exactly if it is one. -/
theorem tail_read?_iff {text : List Char} {tail : Tail} (hline : '\n' ∉ text) :
    Tail.read? text = some tail ↔ IsTail text tail := by
  simp only [Tail.read?, Option.bind_eq_bind, Option.bind_eq_some_iff]
  constructor
  · rintro ⟨⟨line, rest⟩, hnumeral, hread⟩
    obtain ⟨hline', rfl, -⟩ := numeral?_iff.mp hnumeral
    dsimp only at hread
    split at hread
    next column rest' hread' =>
      obtain ⟨hcolumn, rfl, -⟩ := numeral?_iff.mp hread'
      obtain ⟨rfl, hsome, hword, hmessage, gap, before, hgap, hbefore, rfl⟩ :=
        (tail_read_iff (by simp_all)).mp hread
      refine ⟨⟨gap, before, hgap, hbefore, ?_⟩, hline', ?_, hword, hmessage⟩
      · rw [spelled_eq, Tail.columnText, hsome]
        rfl
      · rw [hsome]
        rintro _ ⟨⟩
        exact hcolumn
    next =>
      obtain ⟨rfl, hnone, hword, hmessage, gap, before, hgap, hbefore, rfl⟩ :=
        (tail_read_iff (by simp_all)).mp hread
      refine ⟨⟨gap, before, hgap, hbefore, ?_⟩, hline', ?_, hword, hmessage⟩
      · rw [spelled_eq, Tail.columnText, hnone]
        rfl
      · rw [hnone]
        rintro _ ⟨⟩
  · rintro ⟨⟨gap, before, hgap, hbefore, rfl⟩, hline', hcolumn, hword, hmessage⟩
    rw [spelled_eq] at hline ⊢
    have hcolon : ∀ rest : List Char, ∀ c ∈ (':' :: rest).head?, isDigit c = false := by
      rintro rest c ⟨⟩
      decide
    cases hsome : tail.column with
    | none =>
      rw [Tail.columnText, hsome, List.nil_append] at hline ⊢
      refine ⟨_, numeral?_iff.mpr ⟨hline', rfl, hcolon _⟩, ?_⟩
      dsimp only
      rw [numeral?_gap hgap]
      exact (tail_read_iff (by simp_all)).mpr
        ⟨rfl, hsome, hword, hmessage, gap, before, hgap, hbefore, rfl⟩
    | some column =>
      rw [Tail.columnText, hsome] at hline ⊢
      refine ⟨_, numeral?_iff.mpr ⟨hline', rfl, hcolon _⟩, ?_⟩
      dsimp only
      rw [List.cons_append, numeral?_iff.mpr ⟨hcolumn column hsome, rfl, hcolon _⟩]
      exact (tail_read_iff (by simp_all)).mpr
        ⟨rfl, hsome, hword, hmessage, gap, before, hgap, hbefore, rfl⟩

/-! ## Where the path ends -/

/-- A text is a path and a tail. -/
def Splits (text path : List Char) (tail : Tail) : Prop :=
  ∃ rest, text = path ++ rest ∧ IsTail rest tail

/-- A text is a path and a tail, and no shorter path has a tail behind it. -/
structure SplitsFirst (text path : List Char) (tail : Tail) : Prop where
  splits : Splits text path tail
  shortest : ∀ other tail', Splits text other tail' → path.length ≤ other.length

theorem not_splits_nil (path : List Char) (tail : Tail) : ¬ Splits [] path tail := by
  rintro ⟨rest, hnil, ⟨gap, before, -, -, hrest⟩, -⟩
  obtain ⟨-, rfl⟩ := List.append_eq_nil_iff.mp hnil.symm
  cases hrest

theorem splits_nil_iff {text : List Char} {tail : Tail} : Splits text [] tail ↔ IsTail text tail :=
  ⟨fun ⟨_, heq, h⟩ => heq ▸ h, fun h => ⟨text, rfl, h⟩⟩

/-- A path that is not empty takes the first character. -/
theorem splits_cons_iff {c : Char} {text path : List Char} {tail : Tail} :
    Splits (c :: text) path tail ↔
      (path = [] ∧ IsTail (c :: text) tail) ∨ ∃ later, path = c :: later ∧ Splits text later tail := by
  cases path with
  | nil => simp [splits_nil_iff]
  | cons d path =>
    constructor
    · rintro ⟨rest, heq, htail⟩
      obtain ⟨rfl, rfl⟩ := List.cons.inj heq
      exact Or.inr ⟨path, rfl, rest, rfl, htail⟩
    · rintro (⟨hnil, -⟩ | ⟨later, heq, rest, rfl, htail⟩)
      · cases hnil
      · cases heq
        exact ⟨rest, rfl, htail⟩

/-- The first place where a tail stands ends the shortest path. -/
theorem splitAtTail?_iff {text path : List Char} {tail : Tail} (hline : '\n' ∉ text) :
    splitAtTail? text = some (path, tail) ↔ SplitsFirst text path tail := by
  induction text generalizing path with
  | nil =>
    constructor
    · intro h
      cases h
    · intro h
      exact absurd h.splits (not_splits_nil path tail)
  | cons c text ih =>
    have hrest : '\n' ∉ text := fun hmem => hline (List.mem_cons_of_mem _ hmem)
    have hc : c ≠ '\n' := fun heq => hline (heq ▸ List.mem_cons_self ..)
    rw [splitAtTail?]
    cases hread : Tail.read? (c :: text) with
    | some found =>
      have hfound := (tail_read?_iff hline).mp hread
      constructor
      · intro h
        cases h
        exact ⟨splits_nil_iff.mpr hfound, fun _ _ _ => Nat.zero_le _⟩
      · intro h
        have hempty : path = [] :=
          List.eq_nil_of_length_eq_zero
            (Nat.le_zero.mp (h.shortest [] found (splits_nil_iff.mpr hfound)))
        subst hempty
        rw [(tail_read?_iff hline).mpr (splits_nil_iff.mp h.splits)] at hread
        rw [Option.some.inj hread]
    | none =>
      have hnone : ∀ tail', ¬ IsTail (c :: text) tail' := by
        intro tail' htail
        rw [(tail_read?_iff hline).mpr htail] at hread
        cases hread
      dsimp only
      rw [if_neg hc, Option.map_eq_some_iff]
      constructor
      · rintro ⟨⟨later, tail'⟩, hlater, heq⟩
        cases heq
        obtain ⟨hsplits, hshortest⟩ := (ih hrest).mp hlater
        refine ⟨splits_cons_iff.mpr (Or.inr ⟨later, rfl, hsplits⟩), ?_⟩
        intro other tail'' hother
        rcases splits_cons_iff.mp hother with ⟨-, htail⟩ | ⟨other', rfl, hother'⟩
        · exact absurd htail (hnone tail'')
        · exact Nat.succ_le_succ (hshortest other' tail'' hother')
      · rintro ⟨hsplits, hshortest⟩
        rcases splits_cons_iff.mp hsplits with ⟨-, htail⟩ | ⟨later, rfl, hlater⟩
        · exact absurd htail (hnone tail)
        · refine ⟨(later, tail), (ih hrest).mpr ⟨hlater, fun other tail' hother => ?_⟩, rfl⟩
          exact Nat.le_of_succ_le_succ
            (hshortest (c :: other) tail' (splits_cons_iff.mpr (Or.inr ⟨other, rfl, hother⟩)))

/-! ## Report lines -/

/-- A line is decoration, as much of it as there is, then a path and a tail, with the shortest path
that there is. -/
structure Reads (line decoration path : List Char) (tail : Tail) : Prop where
  decorated : IsLongestRun isDecoration decoration line
  split : ∃ rest, line = decoration ++ rest ∧ SplitsFirst rest path tail

/-- What a path and a tail report. A column that is missing is the first one. -/
def Tail.report (tail : Tail) (path : List Char) : Line where
  file := Path.normalize (String.ofList path)
  range := .point ⟨max (numeralValue tail.line - 1) 0,
    max (tail.column.elim 1 (fun column => (numeralValue column : Int)) - 1) 0⟩
  severity := .ofWord tail.word
  message := String.ofList tail.message

/-- What is wrong with the numerals of a tail, that of the line first. -/
def Tail.fault? (tail : Tail) : Option LongNumeral :=
  if numeralLimit < tail.line.length then some (.read tail.line.length)
  else tail.column.bind fun column =>
    if numeralLimit < column.length then some (.read column.length) else none

theorem reads_iff {line path : List Char} {tail : Tail} (hline : '\n' ∉ line) :
    splitAtTail? (line.dropWhile isDecoration) = some (path, tail) ↔
      ∃ decoration, Reads line decoration path tail := by
  have hrest : '\n' ∉ line.dropWhile isDecoration := fun hmem =>
    hline ((List.dropWhile_sublist _).subset hmem)
  rw [splitAtTail?_iff hrest]
  constructor
  · intro h
    exact ⟨_, isLongestRun_takeWhile .., _, List.takeWhile_append_dropWhile.symm, h⟩
  · rintro ⟨decoration, hrun, rest, heq, hsplit⟩
    have hrest' : rest = line.dropWhile isDecoration := by
      have hwhole := List.takeWhile_append_dropWhile (p := isDecoration) (l := line)
      rw [← hrun.eq_takeWhile] at hwhole
      exact List.append_cancel_left (heq.symm.trans hwhole.symm)
    exact hrest' ▸ hsplit

/-- A path without a colon ends where the tail starts. -/
theorem splitsFirst_of_not_mem {path rest : List Char} {tail : Tail} (hcolon : ':' ∉ path)
    (htail : IsTail rest tail) : SplitsFirst (path ++ rest) path tail where
  splits := ⟨rest, rfl, htail⟩
  shortest := by
    rintro other tail' ⟨rest', heq, htail'⟩
    obtain ⟨gap, before, -, -, rfl⟩ := htail'.spelled
    rw [spelled_eq] at heq
    rcases List.append_eq_append_iff.mp heq with ⟨more, rfl, -⟩ | ⟨more, rfl, hrest⟩
    · rw [List.length_append]
      exact Nat.le_add_right _ _
    · cases more with
      | nil => exact Nat.le_of_eq (by rw [List.append_nil])
      | cons c more =>
        obtain ⟨rfl, -⟩ := List.cons.inj hrest
        exact absurd (List.mem_append_right _ (List.mem_cons_self ..)) hcolon

/-- A line with a path that has no colon is read as it is put together. -/
theorem reads_of_not_mem {decoration path rest : List Char} {tail : Tail}
    (hdecoration : ∀ c ∈ decoration, isDecoration c = true)
    (hhead : ∀ c ∈ (path ++ rest).head?, isDecoration c = false) (hcolon : ':' ∉ path)
    (htail : IsTail rest tail) : Reads (decoration ++ (path ++ rest)) decoration path tail where
  decorated := by
    have hrun := isLongestRun_takeWhile isDecoration (decoration ++ (path ++ rest))
    rwa [(takeWhile_eq_of_boundary hdecoration hhead).1] at hrun
  split := ⟨path ++ rest, rfl, splitsFirst_of_not_mem hcolon htail⟩

theorem readNumeral_eq (digits : List Char) :
    readNumeral digits =
      if numeralLimit < digits.length then .error (.read digits.length)
      else .ok (numeralValue digits) := by
  rw [readNumeral]
  by_cases h : numeralLimit < digits.length
  · rw [if_pos h, if_neg (Nat.not_le.mpr h)]
  · rw [if_neg h, if_pos (Nat.not_lt.mp h)]

/-- A line that can be cut into decoration, path and tail is a report on the path, unless a numeral is
too long. -/
theorem read?_of_reads {text : String} {decoration path : List Char} {tail : Tail}
    (hline : '\n' ∉ text.toList) (h : Reads text.toList decoration path tail) (hpath : path ≠ []) :
    Line.read? text =
      match tail.fault? with
      | some fault => .error fault
      | none => .ok (some (tail.report path)) := by
  rw [Line.read?, (reads_iff hline).mpr ⟨decoration, h⟩]
  dsimp only
  rw [if_neg hpath, readNumeral_eq, readNumeral_eq, Tail.fault?]
  by_cases hlong : numeralLimit < tail.line.length
  · rw [if_pos hlong, if_pos hlong]
    rfl
  · rw [if_neg hlong, if_neg hlong, Tail.report]
    cases hcolumn : tail.column with
    | none => rfl
    | some column =>
      by_cases hlong' : numeralLimit < column.length
      · simp [hlong', bind, Except.bind]
      · simp [hlong', bind, Except.bind, pure, Except.pure, Position.ofReport]

section Outcomes

variable {text : String} (hline : '\n' ∉ text.toList)
include hline

/-- A line that cannot be cut in this way, or only with an empty path, is no report. -/
theorem reads_or_none :
    (∃ decoration path tail, Reads text.toList decoration path tail ∧ path ≠ []) ∨
      Line.read? text = .ok none := by
  rw [Line.read?]
  split
  next => exact Or.inr rfl
  next path tail hsplit =>
    obtain ⟨decoration, hreads⟩ := (reads_iff hline).mp hsplit
    by_cases hpath : path = []
    · exact Or.inr (if_pos hpath)
    · exact Or.inl ⟨decoration, path, tail, hreads, hpath⟩

theorem read?_eq_some_iff {line : Line} :
    Line.read? text = .ok (some line) ↔
      ∃ decoration path tail, Reads text.toList decoration path tail ∧ path ≠ [] ∧
        tail.fault? = none ∧ line = tail.report path := by
  constructor
  · intro hread
    rcases reads_or_none hline with ⟨decoration, path, tail, hreads, hpath⟩ | hnone
    · refine ⟨decoration, path, tail, hreads, hpath, ?_⟩
      rw [read?_of_reads hline hreads hpath] at hread
      cases hfault : tail.fault? with
      | some fault => rw [hfault] at hread; cases hread
      | none => rw [hfault] at hread; cases hread; exact ⟨rfl, rfl⟩
    · rw [hnone] at hread
      cases hread
  · rintro ⟨decoration, path, tail, hreads, hpath, hfault, rfl⟩
    rw [read?_of_reads hline hreads hpath, hfault]

theorem read?_eq_error_iff {fault : LongNumeral} :
    Line.read? text = .error fault ↔
      ∃ decoration path tail, Reads text.toList decoration path tail ∧ path ≠ [] ∧
        tail.fault? = some fault := by
  constructor
  · intro hread
    rcases reads_or_none hline with ⟨decoration, path, tail, hreads, hpath⟩ | hnone
    · refine ⟨decoration, path, tail, hreads, hpath, ?_⟩
      rw [read?_of_reads hline hreads hpath] at hread
      cases hfault : tail.fault? with
      | some fault' => rw [hfault] at hread; cases hread; rfl
      | none => rw [hfault] at hread; cases hread
    · rw [hnone] at hread
      cases hread
  · rintro ⟨decoration, path, tail, hreads, hpath, hfault⟩
    rw [read?_of_reads hline hreads hpath, hfault]

end Outcomes

/-- The numerals of a tail are runs of digits in the line. -/
theorem Reads.isInfix {line decoration path : List Char} {tail : Tail}
    (h : Reads line decoration path tail) :
    tail.line <:+: line ∧ ∀ column ∈ tail.column, column <:+: line := by
  obtain ⟨-, rest, rfl, ⟨tailText, rfl, ⟨gap, before, -, -, rfl⟩, -⟩, -⟩ := h
  rw [spelled_eq]
  refine ⟨⟨decoration ++ path ++ [':'], _, by simp; rfl⟩, ?_⟩
  intro column hcolumn
  rw [Tail.columnText, Option.mem_def.mp hcolumn]
  exact ⟨decoration ++ path ++ ':' :: tail.line ++ [':'], _, by simp; rfl⟩

/-- Where no run of digits is too long, no numeral is. -/
theorem fault?_eq_none {line decoration path : List Char} {tail : Tail}
    (h : Reads line decoration path tail)
    (hnumerals : ∀ digits, digits <:+: line → (∀ c ∈ digits, isDigit c = true) →
      digits.length ≤ numeralLimit) : tail.fault? = none := by
  obtain ⟨hlineIn, hcolumnIn⟩ := h.isInfix
  obtain ⟨-, rest, -, ⟨tailText, -, htail⟩, -⟩ := h
  rw [Tail.fault?, if_neg (Nat.not_lt.mpr (hnumerals _ hlineIn htail.line.2))]
  cases hcolumn : tail.column with
  | none => rfl
  | some column =>
    have hshort := hnumerals column (hcolumnIn column hcolumn) (htail.column column hcolumn).2
    exact if_neg (Nat.not_lt.mpr hshort)

/-- **The grammar of report lines.** Take a line whose numerals are not too long to be read. It is read
without a fault, and it is a report exactly if, behind the longest decoration there is, it is a path and
a tail, the shortest such path not being empty. The report is then on that path in its normal form, at
the line and the column that the tail names, counted from zero, with the gravity of its word and with
its message. -/
theorem read?_iff_reads (text : String) (hline : '\n' ∉ text.toList)
    (hnumerals : ∀ digits, digits <:+: text.toList → (∀ c ∈ digits, isDigit c = true) →
      digits.length ≤ numeralLimit) :
    (∃ found, Line.read? text = .ok found) ∧
      ∀ line, Line.read? text = .ok (some line) ↔
        ∃ decoration path tail, Reads text.toList decoration path tail ∧ path ≠ [] ∧
          line =
            { file := Path.normalize (String.ofList path)
              range := .point ⟨max (numeralValue tail.line - 1) 0,
                max (tail.column.elim 1 (fun column => (numeralValue column : Int)) - 1) 0⟩
              severity := .ofWord tail.word
              message := String.ofList tail.message } := by
  refine ⟨?_, fun line => ?_⟩
  · cases hread : Line.read? text with
    | ok found => exact ⟨found, rfl⟩
    | error fault =>
      obtain ⟨decoration, path, tail, hreads, -, hfault⟩ := (read?_eq_error_iff hline).mp hread
      rw [fault?_eq_none hreads hnumerals] at hfault
      cases hfault
  · rw [read?_eq_some_iff hline]
    constructor
    · rintro ⟨decoration, path, tail, hreads, hpath, -, rfl⟩
      exact ⟨decoration, path, tail, hreads, hpath, rfl⟩
    · rintro ⟨decoration, path, tail, hreads, hpath, rfl⟩
      exact ⟨decoration, path, tail, hreads, hpath, fault?_eq_none hreads hnumerals, rfl⟩

/-- Colons, numerals and a word for the gravity stand in the path and in the message as well, and the
line is numbered in the digits of another script. -/
theorem read?_iff_reads_of_colons :
    let text := "-- `a:b:3: c:٣:7: error:  no such: 1:2: note: x"
    '\n' ∉ text.toList ∧
      (∀ digits, digits <:+: text.toList → (∀ c ∈ digits, isDigit c = true) →
        digits.length ≤ numeralLimit) ∧
      Line.read? text =
        .ok (some ⟨"a:b:3: c", .point ⟨2, 6⟩, .error, "no such: 1:2: note: x"⟩) ∧
      ∃ decoration path tail, Reads text.toList decoration path tail ∧ path ≠ [] ∧
        Path.normalize (String.ofList path) = "a:b:3: c" ∧
        String.ofList tail.message = "no such: 1:2: note: x" := by
  intro text
  have hline : '\n' ∉ text.toList := by decide
  have hnumerals : ∀ digits, digits <:+: text.toList → (∀ c ∈ digits, isDigit c = true) →
      digits.length ≤ numeralLimit :=
    fun digits hinfix _ => Nat.le_trans hinfix.length_le (by decide)
  have hread : Line.read? text =
      .ok (some ⟨"a:b:3: c", .point ⟨2, 6⟩, .error, "no such: 1:2: note: x"⟩) := by
    decide +kernel
  obtain ⟨-, hreports⟩ := read?_iff_reads text hline hnumerals
  obtain ⟨decoration, path, tail, hreads, hpath, heq⟩ := (hreports _).mp hread
  obtain ⟨hfile, -, -, hmessage⟩ := Line.mk.inj heq
  exact ⟨hline, hnumerals, hread, decoration, path, tail, hreads, hpath, hfile.symm, hmessage.symm⟩

end Reconcile.Report
