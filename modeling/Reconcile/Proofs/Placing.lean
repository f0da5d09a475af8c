import Mathlib.Data.List.Basic
import Mathlib.Data.List.Induction
import Reconcile.Proofs.Streams

/-!
# Where the problems of a stream are reported

A problem whose file can be resolved is reported there; any other is held until a note places it. This
file follows the *findings* of a stream, that is the file, the range and the message of each report,
from its blocks to the reports, and says which files are reported.

* `resolves_files_iff`: a file that is reported is that of a problem which can be resolved, or that of
  the first note of a held one. All of them can be resolved exactly when the first note of every held
  problem stands in a file that can.
* `stream_placed_unresolved`: a held problem is reported in a file that cannot be resolved, because
  the first note behind it stands there.

A block adds its finding, unless it is suppressed because its problem was reported before
(`addBlock_cases`), and no finding gets lost later (`mentions_mono`). What is mentioned in the end is
therefore the finding of some block (`exists_block_of_mentions`), and the finding of a block is
mentioned in the end if it was not suppressed (`suppresses_or_mentions`).
-/

namespace Reconcile

/-- What a report comes to without its gravity and its notes. -/
structure Finding where
  file : String
  range : Range
  message : String
deriving DecidableEq

/-- The finding of a diagnostic. -/
def Diagnostic.finding (d : Diagnostic) : Finding :=
  ⟨d.file, d.range, d.message⟩

namespace Report

/-! ## Findings -/

/-- Reports mention a finding if a diagnostic of its file has its range and its message. -/
def Reports.Mentions (reports : Reports) (finding : Finding) : Prop :=
  ∃ d ∈ reports.of finding.file, d.range = finding.range ∧ d.message = finding.message

/-- Where a block wants its problem reported: in its own file if that can be resolved, else where the
first note stands. -/
def Block.finding? (resolves : String → Bool) (block : Block) : Option Finding :=
  if resolves block.problem.file then some block.problem.draft.finding
  else block.notes.head?.map fun note => ⟨note.file, note.range, block.problem.draft.message⟩

/-- If the file of the problem cannot be resolved, that of the first note can. -/
def Block.Placeable (resolves : String → Bool) (block : Block) : Prop :=
  resolves block.problem.file = false → ∀ note ∈ block.notes.head?, resolves note.file = true

/-- A block is suppressed if repeats are dropped and its problem was reported before. -/
def Setup.Suppresses (setup : Setup) (reports : Reports) (block : Block) : Prop :=
  setup.dropRepeats = true ∧ reports.Mentions block.problem.draft.finding

theorem not_mentions_empty (finding : Finding) : ¬ Reports.Mentions .empty finding := by
  rintro ⟨d, hd, -⟩
  cases hd

theorem mentions_add (reports : Reports) (d : Diagnostic) (finding : Finding) :
    (reports.add d).Mentions finding ↔ reports.Mentions finding ∨ finding = d.finding := by
  unfold Reports.Mentions
  rw [of_add]
  constructor
  · rintro ⟨e, he, hrange, hmessage⟩
    split at he
    next hfile =>
      rcases List.mem_append.mp he with he | he
      · exact Or.inl ⟨e, he, hrange, hmessage⟩
      · rw [List.mem_singleton.mp he] at hrange hmessage
        obtain ⟨file, range, message⟩ := finding
        dsimp only at hfile hrange hmessage
        exact Or.inr (by rw [Diagnostic.finding, hfile, hrange, hmessage])
    next => exact Or.inl ⟨e, he, hrange, hmessage⟩
  · rintro (⟨e, he, hsame⟩ | rfl)
    · refine ⟨e, ?_, hsame⟩
      split
      next => exact List.mem_append_left _ he
      next => exact he
    · refine ⟨d, ?_, rfl, rfl⟩
      rw [if_pos (show d.finding.file = d.file from rfl)]
      exact List.mem_append_right _ (List.mem_singleton_self d)

/-- Repeats are told by their findings. -/
theorem any_sameReport_iff (reports : Reports) (d : Diagnostic) :
    (reports.of d.file).any (·.sameReport d) = true ↔ reports.Mentions d.finding := by
  simp [Reports.Mentions, Diagnostic.finding, Diagnostic.sameReport]

/-- The diagnostic of a block has the finding of the block. -/
theorem map_finding_diagnostic? (setup : Setup) (block : Block) :
    (block.diagnostic? setup).map Diagnostic.finding = block.finding? setup.resolves := by
  unfold Block.diagnostic? Block.finding?
  dsimp only
  split
  next => rfl
  next => rw [Option.map_map]; rfl

theorem finding?_of_diagnostic? {setup : Setup} {block : Block} {d : Diagnostic}
    (h : block.diagnostic? setup = some d) : block.finding? setup.resolves = some d.finding := by
  rw [← map_finding_diagnostic?, h]
  rfl

/-! ## One block -/

section AddBlock

variable {setup : Setup} {reports : Reports} {block : Block}

theorem suppresses_iff :
    (setup.dropRepeats && (reports.of block.problem.file).any (·.sameReport block.problem.draft))
      = true ↔ setup.Suppresses reports block := by
  rw [Bool.and_eq_true]
  exact and_congr_right fun _ => any_sameReport_iff reports block.problem.draft

theorem addBlock_of_suppresses (h : setup.Suppresses reports block) :
    reports.addBlock setup block = reports := by
  rw [Reports.addBlock, if_pos (suppresses_iff.mpr h)]

/-- A block is suppressed, or has no diagnostic, or its diagnostic is added. -/
theorem addBlock_cases (setup : Setup) (reports : Reports) (block : Block) :
    (setup.Suppresses reports block ∧ reports.addBlock setup block = reports) ∨
      (¬ setup.Suppresses reports block ∧ block.diagnostic? setup = none ∧
        reports.addBlock setup block = reports) ∨
      ∃ d, ¬ setup.Suppresses reports block ∧ block.diagnostic? setup = some d ∧
        reports.addBlock setup block = reports.add d := by
  by_cases h : setup.Suppresses reports block
  · exact Or.inl ⟨h, addBlock_of_suppresses h⟩
  · right
    rw [Reports.addBlock, if_neg (mt suppresses_iff.mp h)]
    cases block.diagnostic? setup with
    | none => exact Or.inl ⟨h, rfl, rfl⟩
    | some d => exact Or.inr ⟨d, h, rfl, rfl⟩

/-- A block adds its finding, unless it is suppressed. -/
theorem mentions_addBlock (finding : Finding) :
    (reports.addBlock setup block).Mentions finding ↔
      reports.Mentions finding ∨
        (¬ setup.Suppresses reports block ∧ block.finding? setup.resolves = some finding) := by
  rcases addBlock_cases setup reports block with ⟨h, heq⟩ | ⟨h, hd, heq⟩ | ⟨d, h, hd, heq⟩
  · rw [heq]
    simp [h]
  · have hnone : block.finding? setup.resolves = none := by
      rw [← map_finding_diagnostic?, hd]
      rfl
    rw [heq, hnone]
    simp
  · rw [heq, mentions_add, finding?_of_diagnostic? hd, Option.some.injEq, eq_comm]
    simp [h]

end AddBlock

/-! ## All blocks of a stream -/

theorem reportBlocks_concat (setup : Setup) (front : List Block) (block : Block) :
    reportBlocks setup (front ++ [block]) = (reportBlocks setup front).addBlock setup block :=
  List.foldl_concat ..

theorem exists_prefix_concat_of_mem {α : Type} {a : α} {xs : List α} (h : a ∈ xs) :
    ∃ front, front ++ [a] <+: xs := by
  obtain ⟨front, back, rfl⟩ := List.append_of_mem h
  exact ⟨front, back, (List.append_cons front a back).symm⟩

/-- What is mentioned once stays mentioned. -/
theorem mentions_mono {setup : Setup} {front bs : List Block} {finding : Finding}
    (h : front <+: bs) (hmentions : (reportBlocks setup front).Mentions finding) :
    (reportBlocks setup bs).Mentions finding := by
  obtain ⟨back, rfl⟩ := h
  induction back using List.reverseRecOn with
  | nil => rwa [List.append_nil]
  | append_singleton back block ih =>
    rw [← List.append_assoc, reportBlocks_concat]
    exact (mentions_addBlock finding).mpr (Or.inl ih)

/-- What is mentioned in the end is the finding of a block. -/
theorem exists_block_of_mentions {setup : Setup} {bs : List Block} {finding : Finding}
    (h : (reportBlocks setup bs).Mentions finding) :
    ∃ block ∈ bs, block.finding? setup.resolves = some finding := by
  induction bs using List.reverseRecOn with
  | nil => exact absurd h (not_mentions_empty finding)
  | append_singleton front block ih =>
    rw [reportBlocks_concat] at h
    rcases (mentions_addBlock finding).mp h with h | ⟨-, hfinding⟩
    · obtain ⟨earlier, hearlier, hfinding⟩ := ih h
      exact ⟨earlier, List.mem_append_left _ hearlier, hfinding⟩
    · exact ⟨block, by simp, hfinding⟩

/-- The finding of a block is mentioned in the end, unless the block was suppressed at its time. -/
theorem suppresses_or_mentions {setup : Setup} {front bs : List Block} {block : Block}
    {finding : Finding} (h : front ++ [block] <+: bs)
    (hfinding : block.finding? setup.resolves = some finding) :
    setup.Suppresses (reportBlocks setup front) block ∨
      (reportBlocks setup bs).Mentions finding := by
  by_cases hsuppressed : setup.Suppresses (reportBlocks setup front) block
  · exact Or.inl hsuppressed
  · right
    apply mentions_mono h
    rw [reportBlocks_concat]
    exact (mentions_addBlock finding).mpr (Or.inr ⟨hsuppressed, hfinding⟩)

/-- Nothing suppresses the first block. -/
theorem mentions_singleton_iff {setup : Setup} {block : Block} {placed finding : Finding}
    (h : block.finding? setup.resolves = some placed) :
    (reportBlocks setup [block]).Mentions finding ↔ finding = placed := by
  constructor
  · intro hmentions
    obtain ⟨other, hother, hfinding⟩ := exists_block_of_mentions hmentions
    rw [List.mem_singleton.mp hother, h] at hfinding
    exact (Option.some.inj hfinding).symm
  · rintro rfl
    exact (suppresses_or_mentions (List.prefix_refl ([] ++ [block])) h).resolve_left
      fun hsuppressed => not_mentions_empty _ hsuppressed.2

/-! ## Files -/

theorem mem_files_of_mentions {reports : Reports} {finding : Finding}
    (h : reports.Mentions finding) : finding.file ∈ reports.files := by
  obtain ⟨d, hd, -⟩ := h
  rw [FileMap.mem_files_iff]
  rw [Reports.of] at hd
  cases hget : reports.get? finding.file with
  | none => rw [hget] at hd; cases hd
  | some ds => rfl

theorem mem_files_add {reports : Reports} {d : Diagnostic} {file : String}
    (h : file ∈ (reports.add d).files) : file ∈ reports.files ∨ file = d.file := by
  rw [Reports.add, FileMap.files_set] at h
  split at h
  next => exact Or.inl h
  next => simpa using h

/-- No file is reported without a finding. -/
theorem exists_mentions_of_mem_files {setup : Setup} {bs : List Block} {file : String}
    (h : file ∈ (reportBlocks setup bs).files) :
    ∃ finding, finding.file = file ∧ (reportBlocks setup bs).Mentions finding := by
  induction bs using List.reverseRecOn with
  | nil => cases h
  | append_singleton front block ih =>
    rw [reportBlocks_concat] at h ⊢
    rcases addBlock_cases setup (reportBlocks setup front) block with
      ⟨-, heq⟩ | ⟨-, -, heq⟩ | ⟨d, -, -, heq⟩
    · rw [heq] at h ⊢
      exact ih h
    · rw [heq] at h ⊢
      exact ih h
    · rw [heq] at h ⊢
      rcases mem_files_add h with h | rfl
      · obtain ⟨finding, hfile, hmentions⟩ := ih h
        exact ⟨finding, hfile, (mentions_add _ d finding).mpr (Or.inl hmentions)⟩
      · exact ⟨d.finding, rfl, (mentions_add _ d d.finding).mpr (Or.inr rfl)⟩

/-- Every file that is reported is that of the finding of a block. -/
theorem exists_block_of_mem_files {setup : Setup} {bs : List Block} {file : String}
    (h : file ∈ (reportBlocks setup bs).files) :
    ∃ block ∈ bs, ∃ finding ∈ block.finding? setup.resolves, finding.file = file := by
  obtain ⟨finding, hfile, hmentions⟩ := exists_mentions_of_mem_files h
  obtain ⟨block, hblock, hfinding⟩ := exists_block_of_mentions hmentions
  exact ⟨block, hblock, finding, hfinding, hfile⟩

theorem Block.Placeable.resolves {resolves : String → Bool} {block : Block}
    (h : block.Placeable resolves) {finding : Finding}
    (hfinding : block.finding? resolves = some finding) : resolves finding.file = true := by
  unfold Block.finding? at hfinding
  split at hfinding
  next hresolves =>
    cases hfinding
    exact hresolves
  next hheld =>
    obtain ⟨note, hnote, rfl⟩ := Option.map_eq_some_iff.mp hfinding
    exact h (eq_false_of_ne_true hheld) note hnote

theorem resolves_of_mem_files {setup : Setup} {bs : List Block}
    (hplaceable : ∀ block ∈ bs, block.Placeable setup.resolves) {file : String}
    (h : file ∈ (reportBlocks setup bs).files) : setup.resolves file = true := by
  obtain ⟨block, hblock, finding, hfinding, rfl⟩ := exists_block_of_mem_files h
  exact (hplaceable block hblock).resolves hfinding

/-- A held problem is not suppressed by reports whose files can all be resolved. -/
theorem not_suppresses_of_resolves {setup : Setup} {reports : Reports} {block : Block}
    (h : ∀ file ∈ reports.files, setup.resolves file = true)
    (hheld : setup.resolves block.problem.file = false) : ¬ setup.Suppresses reports block := by
  rintro ⟨-, hmentions⟩
  have hresolves : setup.resolves block.problem.file = true := h _ (mem_files_of_mentions hmentions)
  rw [hheld] at hresolves
  cases hresolves

/-- If all files that are reported can be resolved, every block could be placed. -/
theorem placeable_of_resolves {setup : Setup} {bs : List Block}
    (h : ∀ file ∈ (reportBlocks setup bs).files, setup.resolves file = true) {block : Block}
    (hblock : block ∈ bs) : block.Placeable setup.resolves := by
  intro hheld note hnote
  obtain ⟨front, hfront⟩ := exists_prefix_concat_of_mem hblock
  have hfinding : block.finding? setup.resolves =
      some ⟨note.file, note.range, block.problem.draft.message⟩ := by
    rw [Block.finding?, if_neg (by simp [hheld]), hnote]
    rfl
  rcases suppresses_or_mentions hfront hfinding with ⟨hdrop, hmentions⟩ | hmentions
  · -- what suppresses it would still be reported in the end
    have hlater := mentions_mono ((List.prefix_append front [block]).trans hfront) hmentions
    exact absurd ⟨hdrop, hlater⟩ (not_suppresses_of_resolves h hheld)
  · exact h _ (mem_files_of_mentions hmentions)

/-- **A held problem can be reported in a file that cannot be resolved.** Every file a stream reports
is that of the finding of one of its blocks, and all of them can be resolved exactly when every problem
whose file cannot be resolved has its first note in a file that can. -/
theorem resolves_files_iff (setup : Setup) (chunks : List String) :
    (∀ file ∈ (streamReports setup chunks).files,
        ∃ block ∈ streamBlocks setup.markers chunks,
          ∃ finding ∈ block.finding? setup.resolves, finding.file = file) ∧
      ((∀ file ∈ (streamReports setup chunks).files, setup.resolves file = true) ↔
        ∀ block ∈ streamBlocks setup.markers chunks, block.Placeable setup.resolves) := by
  rw [streamReports_eq]
  refine ⟨fun file h => exists_block_of_mem_files h, ?_, ?_⟩
  · intro h block hblock
    exact placeable_of_resolves h hblock
  · intro hplaceable file h
    exact resolves_of_mem_files hplaceable h

/-- A problem and the note behind it stand in files that cannot be resolved, and yet it is reported. -/
theorem stream_placed_unresolved :
    let setup : Setup := ⟨(· = "a.swift"), [], true⟩
    let chunks := ["@m:1: error: lost\n@n:2: note: here\n"]
    "@n" ∈ (streamReports setup chunks).files ∧ setup.resolves "@n" = false := by
  intro setup chunks
  refine ⟨?_, by decide⟩
  let block : Block :=
    ⟨⟨"@m", .point ⟨0, 0⟩, .error, "lost"⟩, [⟨"@n", .point ⟨1, 0⟩, .information, "here"⟩]⟩
  have hlines : streamLines setup.markers [] chunks = block.problem :: block.notes := by
    decide +kernel
  rw [streamReports_eq, streamBlocks, hlines]
  have hplaced : block.finding? setup.resolves =
      some ⟨"@n", .point ⟨1, 0⟩, block.problem.draft.message⟩ :=
    rfl
  exact mem_files_of_mentions ((mentions_singleton_iff hplaced).mpr rfl)

end Report

end Reconcile
