import Reconcile.Proofs.Placing

/-!
# Repeats in a stream

A run that drops repeats looks, for every problem, whether its own file has a report of the same. If
the problem is held, it is reported elsewhere, and there nothing is looked for. This file says what
comes of that.

* `stream_distinct_iff`: only a held problem is ever reported twice, and the reports are distinct
  exactly when none is placed where the same was reported before. `stream_reported_twice` is a stream
  where one is.
* `dropRepeats_mentions_iff`: dropping repeats adds no finding, and it loses none exactly when the
  finding of every held problem that is suppressed is mentioned anyway. It loses none if every held
  problem has its first note in a file that can be resolved. `stream_finding_lost` is a stream where
  one is lost.

Both follow the blocks of the stream one by one: `distinct_addBlock_iff` says what one block does to
distinct reports, and a block that is not suppressed is mentioned (`suppresses_or_mentions`).
-/

namespace Reconcile.Report

/-- No file has two reports of the same. -/
def Reports.Distinct (reports : Reports) : Prop :=
  ∀ file, (reports.of file).Pairwise fun a b => a.sameReport b = false

/-- A block repeats what was reported: it is not suppressed, and yet its finding is mentioned. -/
def Setup.Repeats (setup : Setup) (reports : Reports) (block : Block) : Prop :=
  ¬ setup.Suppresses reports block ∧
    ∃ finding ∈ block.finding? setup.resolves, reports.Mentions finding

/-! ## One block -/

section AddBlock

variable {setup : Setup} {reports : Reports} {block : Block}

theorem pairwise_add_iff (reports : Reports) (d : Diagnostic) (R : Diagnostic → Diagnostic → Prop) :
    (∀ file, ((reports.add d).of file).Pairwise R) ↔
      (∀ file, (reports.of file).Pairwise R) ∧ ∀ e ∈ reports.of d.file, R e d := by
  constructor
  · intro h
    have hlast : (reports.of d.file ++ [d]).Pairwise R := by
      have hfile := h d.file
      rwa [of_add, if_pos rfl] at hfile
    refine ⟨fun file => ?_, fun e he => (List.pairwise_append.mp hlast).2.2 e he d (by simp)⟩
    by_cases hfile : file = d.file
    · rw [hfile]
      exact (List.pairwise_append.mp hlast).1
    · have hother := h file
      rwa [of_add, if_neg hfile] at hother
  · rintro ⟨hall, hlast⟩ file
    rw [of_add]
    split
    next hfile =>
      subst hfile
      refine List.pairwise_append.mpr ⟨hall d.file, List.pairwise_singleton R d, ?_⟩
      intro e he d' hd'
      rw [List.mem_singleton.mp hd']
      exact hlast e he
    next => exact hall file

theorem distinct_add_iff (reports : Reports) (d : Diagnostic) :
    (reports.add d).Distinct ↔ reports.Distinct ∧ ¬ reports.Mentions d.finding := by
  have hlast : (∀ e ∈ reports.of d.file, e.sameReport d = false) ↔
      ¬ reports.Mentions d.finding := by
    rw [← any_sameReport_iff, Bool.not_eq_true, List.any_eq_false]
    simp only [Bool.not_eq_true]
  rw [← hlast]
  exact pairwise_add_iff reports d _

/-- A block keeps distinct reports distinct unless it repeats one of them. -/
theorem distinct_addBlock_iff :
    (reports.addBlock setup block).Distinct ↔
      reports.Distinct ∧ ¬ setup.Repeats reports block := by
  rcases addBlock_cases setup reports block with ⟨h, heq⟩ | ⟨h, hd, heq⟩ | ⟨d, h, hd, heq⟩
  · rw [heq]
    simp [Setup.Repeats, h]
  · rw [heq, Setup.Repeats, ← map_finding_diagnostic?, hd]
    simp
  · rw [heq, distinct_add_iff, Setup.Repeats, finding?_of_diagnostic? hd]
    simp [h]

/-- When repeats are dropped, only a held problem is a repeat. -/
theorem Setup.Repeats.held (h : setup.Repeats reports block) (hdrop : setup.dropRepeats = true) :
    setup.resolves block.problem.file = false := by
  obtain ⟨hsuppressed, finding, hfinding, hmentions⟩ := h
  cases hresolves : setup.resolves block.problem.file with
  | false => rfl
  | true =>
    rw [Block.finding?, if_pos hresolves] at hfinding
    cases hfinding
    exact absurd ⟨hdrop, hmentions⟩ hsuppressed

end AddBlock

/-! ## Distinct reports -/

theorem forall_prefix_concat {α : Type} {P : List α → α → Prop} (xs : List α) (x : α) :
    (∀ front a, front ++ [a] <+: xs ++ [x] → P front a) ↔
      (∀ front a, front ++ [a] <+: xs → P front a) ∧ P xs x := by
  constructor
  · intro h
    exact ⟨fun front a hfront => h front a (hfront.trans (List.prefix_append xs [x])),
      h xs x (List.prefix_refl _)⟩
  · rintro ⟨hall, hlast⟩ front a hfront
    rcases List.prefix_concat_iff.mp hfront with heq | hfront
    · obtain ⟨rfl, ha⟩ := List.append_inj' heq rfl
      cases ha
      exact hlast
    · exact hall front a hfront

/-- Reports are distinct when no block repeats what the blocks before it report. -/
theorem distinct_reportBlocks_iff (setup : Setup) (bs : List Block) :
    (reportBlocks setup bs).Distinct ↔
      ∀ front block, front ++ [block] <+: bs → ¬ setup.Repeats (reportBlocks setup front) block := by
  induction bs using List.reverseRecOn with
  | nil =>
    constructor
    · intro _ front block h
      simp at h
    · intro _ file
      exact List.Pairwise.nil
  | append_singleton bs block ih =>
    rw [forall_prefix_concat, ← ih, reportBlocks_concat]
    exact distinct_addBlock_iff

/-- When repeats are dropped, a report of the same as one before it is that of a held problem. -/
theorem pairwise_held (setup : Setup) (hdrop : setup.dropRepeats = true) (bs : List Block)
    (file : String) :
    ((reportBlocks setup bs).of file).Pairwise fun a b => a.sameReport b = true →
      ∃ block ∈ bs, setup.resolves block.problem.file = false ∧ block.diagnostic? setup = some b := by
  revert file
  induction bs using List.reverseRecOn with
  | nil => exact fun _ => List.Pairwise.nil
  | append_singleton bs block ih =>
    have hearlier : ∀ file, ((reportBlocks setup bs).of file).Pairwise fun a b =>
        a.sameReport b = true → ∃ other ∈ bs ++ [block],
          setup.resolves other.problem.file = false ∧ other.diagnostic? setup = some b := by
      intro file
      refine (ih file).imp fun hheld hsame => ?_
      obtain ⟨other, hother, hheld⟩ := hheld hsame
      exact ⟨other, List.mem_append_left _ hother, hheld⟩
    rw [reportBlocks_concat]
    rcases addBlock_cases setup (reportBlocks setup bs) block with
      ⟨-, heq⟩ | ⟨-, -, heq⟩ | ⟨d, h, hd, heq⟩
    · rwa [heq]
    · rwa [heq]
    · rw [heq, pairwise_add_iff]
      refine ⟨hearlier, fun e he hsame => ⟨block, by simp, ?_, hd⟩⟩
      have hmentions : (reportBlocks setup bs).Mentions d.finding :=
        (any_sameReport_iff _ d).mp (List.any_eq_true.mpr ⟨e, he, hsame⟩)
      exact Setup.Repeats.held ⟨h, d.finding, finding?_of_diagnostic? hd, hmentions⟩ hdrop

/-- **Only held problems are reported twice.** When repeats are dropped, a report of the same as one
before it in its file is that of a held problem. The reports of a stream are distinct exactly when no
held problem is reported, unsuppressed, where the same was reported before. -/
theorem stream_distinct_iff (resolves : String → Bool) (markers : List Pattern)
    (chunks : List String) :
    let setup : Setup := { resolves, markers, dropRepeats := true }
    (∀ file, ((streamReports setup chunks).of file).Pairwise fun a b => a.sameReport b = true →
        ∃ block ∈ streamBlocks markers chunks,
          resolves block.problem.file = false ∧ block.diagnostic? setup = some b) ∧
      ((streamReports setup chunks).Distinct ↔
        ∀ front block, front ++ [block] <+: streamBlocks markers chunks →
          resolves block.problem.file = false → ¬ setup.Repeats (reportBlocks setup front) block) := by
  intro setup
  rw [streamReports_eq]
  refine ⟨pairwise_held setup rfl _, ?_⟩
  rw [distinct_reportBlocks_iff]
  constructor
  · intro h front block hfront _
    exact h front block hfront
  · intro h front block hfront hrepeats
    exact h front block hfront (hrepeats.held rfl) hrepeats

/-- A problem that is reported a second time where the first note places it. -/
theorem stream_reported_twice :
    let setup : Setup := ⟨(· = "a.swift"), [], true⟩
    let report := "@m:2: error: lost\na.swift:7: note: here\n"
    ¬ (streamReports setup [report ++ report]).Distinct := by
  intro setup report
  let block : Block :=
    ⟨⟨"@m", .point ⟨1, 0⟩, .error, "lost"⟩, [⟨"a.swift", .point ⟨6, 0⟩, .information, "here"⟩]⟩
  have hlines : streamLines setup.markers [] [report ++ report] =
      block.problem :: block.notes ++ block.problem :: block.notes := by
    decide +kernel
  rw [streamReports_eq, streamBlocks, hlines, distinct_reportBlocks_iff]
  have hplaced : block.finding? setup.resolves =
      some ⟨"a.swift", .point ⟨6, 0⟩, block.problem.draft.message⟩ :=
    rfl
  intro hdistinct
  refine hdistinct [block] block ⟨[], rfl⟩
    ⟨?_, _, hplaced, (mentions_singleton_iff hplaced).mpr rfl⟩
  -- the first report stands in the file of the note, not in that of the problem
  rintro ⟨-, hmentions⟩
  have hfile : "@m" = "a.swift" :=
    congrArg Finding.file ((mentions_singleton_iff hplaced).mp hmentions)
  exact absurd hfile (by decide)

/-! ## Findings that are lost -/

/-- When repeats are kept, what is mentioned are the findings of all blocks. -/
theorem mentions_keeping_iff {setup : Setup} (hkeep : setup.dropRepeats = false) {bs : List Block}
    {finding : Finding} :
    (reportBlocks setup bs).Mentions finding ↔
      ∃ block ∈ bs, block.finding? setup.resolves = some finding := by
  refine ⟨exists_block_of_mentions, ?_⟩
  rintro ⟨block, hblock, hfinding⟩
  obtain ⟨front, hfront⟩ := exists_prefix_concat_of_mem hblock
  rcases suppresses_or_mentions hfront hfinding with ⟨hdrop, -⟩ | hmentions
  · rw [hkeep] at hdrop
    cases hdrop
  · exact hmentions

/-- The findings of all blocks are mentioned if those of the held blocks are that are suppressed. -/
theorem mentions_all_iff (setup : Setup) (bs : List Block) :
    (∀ block ∈ bs, ∀ finding ∈ block.finding? setup.resolves,
        (reportBlocks setup bs).Mentions finding) ↔
      ∀ front block, front ++ [block] <+: bs → setup.resolves block.problem.file = false →
        setup.Suppresses (reportBlocks setup front) block →
          ∀ finding ∈ block.finding? setup.resolves, (reportBlocks setup bs).Mentions finding := by
  constructor
  · intro hall front block hfront _ _
    exact hall block (hfront.subset (by simp))
  · intro hheld block hblock finding hfinding
    obtain ⟨front, hfront⟩ := exists_prefix_concat_of_mem hblock
    rcases suppresses_or_mentions hfront hfinding with hsuppressed | hmentions
    · cases hresolves : setup.resolves block.problem.file with
      | false => exact hheld front block hfront hresolves hsuppressed finding hfinding
      | true =>
        -- what suppresses a problem that is not held is its own finding
        rw [Block.finding?, if_pos hresolves] at hfinding
        cases hfinding
        exact mentions_mono ((List.prefix_append front [block]).trans hfront) hsuppressed.2
    · exact hmentions

/-- **Dropping repeats loses only held problems.** It adds no finding to a stream. It loses none
exactly when the finding of every held problem that is suppressed is mentioned anyway, and so it loses
none if every held problem has its first note in a file that can be resolved. -/
theorem dropRepeats_mentions_iff (resolves : String → Bool) (markers : List Pattern)
    (chunks : List String) :
    let dropping : Setup := { resolves, markers, dropRepeats := true }
    let keeping : Setup := { resolves, markers, dropRepeats := false }
    let bs := streamBlocks markers chunks
    (∀ finding, (streamReports dropping chunks).Mentions finding →
        (streamReports keeping chunks).Mentions finding) ∧
      ((∀ finding, (streamReports keeping chunks).Mentions finding →
          (streamReports dropping chunks).Mentions finding) ↔
        ∀ front block, front ++ [block] <+: bs → resolves block.problem.file = false →
          dropping.Suppresses (reportBlocks dropping front) block →
            ∀ finding ∈ block.finding? resolves, (streamReports dropping chunks).Mentions finding) ∧
      ((∀ block ∈ bs, block.Placeable resolves) →
        ∀ finding, (streamReports keeping chunks).Mentions finding →
          (streamReports dropping chunks).Mentions finding) := by
  intro dropping keeping bs
  rw [streamReports_eq, streamReports_eq]
  have hkeeping : ∀ finding, (reportBlocks keeping bs).Mentions finding ↔
      ∃ block ∈ bs, block.finding? resolves = some finding :=
    fun _ => mentions_keeping_iff rfl
  have hall : (∀ finding, (reportBlocks keeping bs).Mentions finding →
      (reportBlocks dropping bs).Mentions finding) ↔
      ∀ block ∈ bs, ∀ finding ∈ block.finding? resolves,
        (reportBlocks dropping bs).Mentions finding := by
    constructor
    · intro h block hblock finding hfinding
      exact h finding ((hkeeping finding).mpr ⟨block, hblock, hfinding⟩)
    · intro h finding hmentions
      obtain ⟨block, hblock, hfinding⟩ := (hkeeping finding).mp hmentions
      exact h block hblock finding hfinding
  refine ⟨?_, hall.trans (mentions_all_iff dropping bs), ?_⟩
  · intro finding hmentions
    exact (hkeeping finding).mpr (exists_block_of_mentions hmentions)
  · intro hplaceable
    refine hall.mpr ((mentions_all_iff dropping bs).mpr ?_)
    intro front block hfront hheld hsuppressed
    have hbefore : ∀ other ∈ front, other.Placeable resolves :=
      fun other hother => hplaceable other (hfront.subset (by simp [hother]))
    have hfiles : ∀ file ∈ (reportBlocks dropping front).files, resolves file = true :=
      fun file hfile => resolves_of_mem_files hbefore hfile
    exact absurd hsuppressed (not_suppresses_of_resolves hfiles hheld)

/-- A problem that is lost when repeats are dropped: the one before it was reported in its file, where
a note that cannot be resolved placed it. -/
theorem stream_finding_lost :
    let chunks := ["@m:1: error: lost\n@n:2: note: here\n@n:2: error: lost\na.swift:3: note: here\n"]
    ∃ finding, (streamReports ⟨(· = "a.swift"), [], false⟩ chunks).Mentions finding ∧
      ¬ (streamReports ⟨(· = "a.swift"), [], true⟩ chunks).Mentions finding := by
  intro chunks
  let first : Block :=
    ⟨⟨"@m", .point ⟨0, 0⟩, .error, "lost"⟩, [⟨"@n", .point ⟨1, 0⟩, .information, "here"⟩]⟩
  let second : Block :=
    ⟨⟨"@n", .point ⟨1, 0⟩, .error, "lost"⟩, [⟨"a.swift", .point ⟨2, 0⟩, .information, "here"⟩]⟩
  have hlines : streamLines [] [] chunks =
      first.problem :: first.notes ++ second.problem :: second.notes := by
    decide +kernel
  have hblocks : streamBlocks [] chunks = [first, second] := by
    rw [streamBlocks, hlines]
    rfl
  refine ⟨⟨"a.swift", .point ⟨2, 0⟩, second.problem.draft.message⟩, ?_, ?_⟩
  · rw [streamReports_eq, hblocks]
    exact (mentions_keeping_iff rfl).mpr ⟨second, by simp, rfl⟩
  · have hplaced : first.finding? (· = "a.swift") =
        some ⟨"@n", .point ⟨1, 0⟩, first.problem.draft.message⟩ :=
      rfl
    have hsuppressed : Setup.Suppresses ⟨(· = "a.swift"), [], true⟩
        (reportBlocks ⟨(· = "a.swift"), [], true⟩ [first]) second :=
      ⟨rfl, (mentions_singleton_iff hplaced).mpr rfl⟩
    rw [streamReports_eq, hblocks, show [first, second] = [first] ++ [second] from rfl,
      reportBlocks_concat, addBlock_of_suppresses hsuppressed, mentions_singleton_iff hplaced]
    intro heq
    have hfile : "a.swift" = "@n" := congrArg Finding.file heq
    exact absurd hfile (by decide)

end Reconcile.Report
