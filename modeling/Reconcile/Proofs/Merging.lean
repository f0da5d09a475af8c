import Mathlib.Data.List.Nodup
import Reconcile.Merge

/-!
# Merging publishes one record for every problem

`merge` is built from a fold that keeps canonical records, a loop that overrides the records of one
producer by those of the other, and a sort. This file says what comes out, without either of them:

* `merge_one_record_a_problem`: the published records are strictly increasing by start and message,
  they cover exactly the problems of the producers that the policy selects, each is the first of the
  least records among the `contenders` for its problem, and merging them again changes nothing.

Everything goes through `Publishes result group`: the result is increasing, it has a record for each
problem whose group is not empty, and each of its records is the first of the least ones of its
group. The fold (`publishes_distinct`) and the loop (`publishes_withPrecedence`) each publish a
group of their own; and what is published for given groups is unique (`Publishes.unique`), from
which it follows that a second merge changes nothing.
-/

namespace Reconcile

open Std

/-! ## The orders of positions, ranges, notes and records -/

instance : TransOrd Position :=
  inferInstanceAs (TransCmp (compareLex (compareOn Position.line) (compareOn Position.character)))

instance : LawfulEqOrd Position where
  eq_of_compare {a b} h := by
    obtain ⟨hline, hcharacter⟩ := compareLex_eq_eq.mp h
    exact Position.ext (LawfulEqOrd.eq_of_compare hline) (LawfulEqOrd.eq_of_compare hcharacter)

instance : TransOrd Range :=
  inferInstanceAs (TransCmp (compareLex (compareOn Range.start) (compareOn Range.stop)))

instance : TransOrd Note :=
  inferInstanceAs (TransCmp (compareLex (compareOn Note.file)
    (compareLex (compareOn Note.range) (compareOn Note.message))))

namespace Diagnostic

instance : TransCmp canonicalOrder := by
  unfold canonicalOrder
  infer_instance

/-- The order of problems: by start, then by message. -/
def keyOrder : Position × String → Position × String → Ordering :=
  compareLex (compareOn Prod.fst) (compareOn Prod.snd)

instance : TransCmp keyOrder := by
  unfold keyOrder
  infer_instance

instance : LawfulEqCmp keyOrder where
  eq_of_compare {a b} h := by
    obtain ⟨hstart, hmessage⟩ := compareLex_eq_eq.mp h
    exact Prod.ext (LawfulEqOrd.eq_of_compare hstart) (LawfulEqOrd.eq_of_compare hmessage)

/-- Diagnostics are published by problem; only then does the canonical order decide. -/
theorem publicationOrder_eq_then (a b : Diagnostic) :
    publicationOrder a b = (keyOrder a.key b.key).then (canonicalOrder a b) := by
  show (compare a.range.start b.range.start).then
      ((compare a.message b.message).then (canonicalOrder a b)) = _
  rw [← Ordering.then_assoc]
  rfl

instance : TransCmp publicationOrder := by
  unfold publicationOrder
  infer_instance

theorem sameProblem_iff (a b : Diagnostic) : a.sameProblem b = true ↔ a.key = b.key :=
  decide_eq_true_iff

theorem canonicalLess_iff (a b : Diagnostic) :
    a.canonicalLess b = true ↔ canonicalOrder a b = .lt :=
  beq_iff_eq

theorem canonicalLess_trans {a b c : Diagnostic} (hab : a.canonicalLess b = true)
    (hbc : b.canonicalLess c = true) : a.canonicalLess c = true := by
  rw [canonicalLess_iff] at *
  exact TransCmp.lt_trans hab hbc

theorem canonicalLess_of_not_less {a b c : Diagnostic} (hab : a.canonicalLess b = true)
    (hcb : ¬c.canonicalLess b = true) : a.canonicalLess c = true := by
  rw [canonicalLess_iff] at *
  refine TransCmp.lt_of_lt_of_isLE hab ?_
  rw [← OrientedCmp.isGE_iff_isLE]
  cases h : canonicalOrder c b with
  | lt => exact absurd h hcb
  | eq => rfl
  | gt => rfl

end Diagnostic

namespace Merge

open Diagnostic

/-! ## The first of the least records -/

/-- A record is the first of the least: the records before it are all greater in the canonical
order, and none after it is less. -/
def IsFirstLeast (d : Diagnostic) (ds : List Diagnostic) : Prop :=
  ∃ front back, ds = front ++ d :: back ∧
    (∀ e ∈ front, d.canonicalLess e = true) ∧ ∀ e ∈ back, ¬e.canonicalLess d = true

theorem IsFirstLeast.mem {d : Diagnostic} {ds : List Diagnostic} (h : IsFirstLeast d ds) :
    d ∈ ds := by
  obtain ⟨front, back, rfl, -, -⟩ := h
  simp

theorem isFirstLeast_singleton (d : Diagnostic) : IsFirstLeast d [d] :=
  ⟨[], [], rfl, by simp, by simp⟩

/-- A list has at most one first of the least records. -/
theorem IsFirstLeast.unique {a b : Diagnostic} {ds : List Diagnostic}
    (ha : IsFirstLeast a ds) (hb : IsFirstLeast b ds) : a = b := by
  obtain ⟨front, back, rfl, hfront, hback⟩ := ha
  obtain ⟨front', back', heq, hfront', hback'⟩ := hb
  rcases List.append_eq_append_iff.mp heq with ⟨mid, hmid, hrest⟩ | ⟨mid, hmid, hrest⟩
  · -- `a` stands first, so it is less than `b` or stands where `b` does
    cases mid with
    | nil => exact (List.cons.injEq .. ▸ hrest).1
    | cons m mid =>
      obtain ⟨rfl, rfl⟩ := (List.cons.injEq .. ▸ hrest : a = m ∧ back = mid ++ b :: back')
      exact absurd (hfront' a (by simp [hmid])) (hback b (by simp))
  · cases mid with
    | nil => exact (List.cons.injEq .. ▸ hrest).1.symm
    | cons m mid =>
      obtain ⟨rfl, rfl⟩ := (List.cons.injEq .. ▸ hrest : b = m ∧ back' = mid ++ a :: back)
      exact absurd (hfront b (by simp [hmid])) (hback' a (by simp))

/-- A record put at the end becomes the first of the least only if it is less than the one before. -/
theorem IsFirstLeast.concat {e : Diagnostic} {ds : List Diagnostic} (h : IsFirstLeast e ds)
    (d : Diagnostic) :
    IsFirstLeast (if d.canonicalLess e then d else e) (ds ++ [d]) := by
  obtain ⟨front, back, rfl, hfront, hback⟩ := h
  by_cases hless : d.canonicalLess e = true
  · rw [if_pos hless]
    refine ⟨front ++ e :: back, [], rfl, ?_, by simp⟩
    intro x hx
    rcases List.mem_append.mp hx with hx | hx
    · exact canonicalLess_trans hless (hfront x hx)
    · rcases List.mem_cons.mp hx with rfl | hx
      · exact hless
      · exact canonicalLess_of_not_less hless (hback x hx)
  · rw [if_neg hless]
    refine ⟨front, back ++ [d], by simp, hfront, ?_⟩
    intro x hx
    rcases List.mem_append.mp hx with hx | hx
    · exact hback x hx
    · rw [List.mem_singleton.mp hx]
      exact hless

/-! ## What is published for given groups -/

/-- Records of distinct problems, in the order of their problems. -/
def Increasing (ds : List Diagnostic) : Prop :=
  ds.Pairwise fun a b => keyOrder a.key b.key = .lt

/-- The records of a problem. -/
def about (key : Position × String) (ds : List Diagnostic) : List Diagnostic :=
  ds.filter (·.key = key)

@[simp] theorem mem_about {key : Position × String} {ds : List Diagnostic} {d : Diagnostic} :
    d ∈ about key ds ↔ d ∈ ds ∧ d.key = key := by
  simp [about]

theorem about_append (key : Position × String) (ds es : List Diagnostic) :
    about key (ds ++ es) = about key ds ++ about key es :=
  List.filter_append ..

theorem about_singleton (key : Position × String) (d : Diagnostic) :
    about key [d] = if d.key = key then [d] else [] := by
  by_cases h : d.key = key <;> simp [about, h]

theorem about_eq_nil {key : Position × String} {ds : List Diagnostic} :
    about key ds = [] ↔ key ∉ ds.map Diagnostic.key := by
  simp [about]

/-- The result has one record for every problem that has a group, in order, and it is the first of
the least records of that group. -/
structure Publishes (result : List Diagnostic) (group : Position × String → List Diagnostic) :
    Prop where
  increasing : Increasing result
  covers : ∀ key, group key ≠ [] → key ∈ result.map Diagnostic.key
  first : ∀ d ∈ result, IsFirstLeast d (group d.key)

theorem Increasing.nodup_keys {ds : List Diagnostic} (h : Increasing ds) :
    (ds.map Diagnostic.key).Nodup := by
  rw [List.Nodup, List.pairwise_map]
  refine h.imp ?_
  intro a b hlt heq
  have hself : keyOrder b.key b.key = .eq := ReflCmp.compare_self
  rw [heq, hself] at hlt
  cases hlt

/-- In an increasing list, a record is the only one about its problem. -/
theorem Increasing.about_key {ds : List Diagnostic} (h : Increasing ds) {d : Diagnostic}
    (hd : d ∈ ds) : about d.key ds = [d] := by
  obtain ⟨front, back, rfl⟩ := List.append_of_mem hd
  have hkeys := h.nodup_keys
  rw [List.map_append, List.map_cons, List.nodup_append] at hkeys
  obtain ⟨-, hback, hfront⟩ := hkeys
  have hnone : about d.key front = [] := by
    rw [about_eq_nil]
    intro hmem
    exact hfront _ hmem _ (List.mem_cons_self ..) rfl
  have hnone' : about d.key back = [] := about_eq_nil.mpr (List.nodup_cons.mp hback).1
  rw [List.append_cons, about_append, about_append, hnone, hnone', about_singleton, if_pos rfl]
  rfl

/-- Increasing lists with the same members are equal. -/
theorem Increasing.eq_of_mem_iff {ds es : List Diagnostic} (hds : Increasing ds)
    (hes : Increasing es) (h : ∀ d, d ∈ ds ↔ d ∈ es) : ds = es := by
  have hperm : ds.Perm es :=
    (List.perm_ext_iff_of_nodup hds.nodup_keys.of_map hes.nodup_keys.of_map).mpr h
  refine hperm.eq_of_pairwise ?_ hds hes
  intro a b _ _ hab hba
  exact absurd hba (OrientedCmp.not_lt_of_lt hab)

/-- What is published for given groups is determined by them. -/
theorem Publishes.unique {result other : List Diagnostic}
    {group : Position × String → List Diagnostic} (h : Publishes result group)
    (h' : Publishes other group) : result = other := by
  have hsub : ∀ {xs ys : List Diagnostic}, Publishes xs group → Publishes ys group →
      ∀ d ∈ xs, d ∈ ys := by
    intro xs ys hxs hys d hd
    have hfirst := hxs.first d hd
    have hkey := hys.covers d.key (List.ne_nil_of_mem hfirst.mem)
    obtain ⟨e, he, hek⟩ := List.mem_map.mp hkey
    have hsame := hys.first e he
    rw [hek] at hsame
    rw [hfirst.unique hsame]
    exact he
  exact h.increasing.eq_of_mem_iff h'.increasing fun d => ⟨hsub h h' d, hsub h' h d⟩

/-! ## Sorting -/

theorem sorted_perm (ds : List Diagnostic) : (sorted ds).Perm ds :=
  List.mergeSort_perm ..

/-- Sorted records of distinct problems are increasing. -/
theorem increasing_sorted {ds : List Diagnostic} (h : (ds.map Diagnostic.key).Nodup) :
    Increasing (sorted ds) := by
  have hle : (sorted ds).Pairwise fun a b => (publicationOrder a b).isLE = true := by
    refine List.pairwise_mergeSort ?_ ?_ ds
    · intro a b c hab hbc
      exact TransCmp.isLE_trans hab hbc
    · intro a b
      have hswap : publicationOrder b a = (publicationOrder a b).swap := OrientedCmp.eq_swap
      rw [hswap]
      cases publicationOrder a b <;> rfl
  have hne : (sorted ds).Pairwise fun a b => a.key ≠ b.key :=
    List.pairwise_map.mp (((sorted_perm ds).map _).nodup_iff.mpr h)
  refine hle.imp₂ ?_ hne
  intro a b hab hkey
  rw [publicationOrder_eq_then] at hab
  cases hcmp : keyOrder a.key b.key with
  | lt => rfl
  | eq => exact absurd (LawfulEqCmp.eq_of_compare hcmp) hkey
  | gt => rw [hcmp] at hab; cases hab

/-! ## One record for every problem of a producer -/

/-- What the fold has come to after some records: one record for each of their problems, the first
of the least ones. -/
structure Keeps (kept seen : List Diagnostic) : Prop where
  nodup : (kept.map Diagnostic.key).Nodup
  covers : ∀ key ∈ seen.map Diagnostic.key, key ∈ kept.map Diagnostic.key
  first : ∀ d ∈ kept, IsFirstLeast d (about d.key seen)

/-- A record is either put at the end, when its problem is new, or contends with the one record of
its problem, in that one's place. -/
theorem keepCanonical_cases (kept : List Diagnostic) (d : Diagnostic) :
    (d.key ∉ kept.map Diagnostic.key ∧ keepCanonical kept d = kept ++ [d]) ∨
      ∃ front e back, kept = front ++ e :: back ∧ e.key = d.key ∧
        keepCanonical kept d = front ++ (if d.canonicalLess e then d else e) :: back := by
  induction kept with
  | nil => exact Or.inl ⟨by simp, rfl⟩
  | cons e es ih =>
    by_cases hsame : e.sameProblem d = true
    · refine Or.inr ⟨[], e, es, rfl, (sameProblem_iff e d).mp hsame, ?_⟩
      rw [keepCanonical, if_pos hsame]
      rfl
    · rw [keepCanonical, if_neg hsame]
      rcases ih with ⟨hnew, heq⟩ | ⟨front, x, back, rfl, hkey, heq⟩
      · refine Or.inl ⟨?_, by rw [heq]; rfl⟩
        rw [List.map_cons, List.mem_cons]
        rintro (hk | hk)
        · exact hsame ((sameProblem_iff e d).mpr hk.symm)
        · exact hnew hk
      · exact Or.inr ⟨e :: front, x, back, rfl, hkey, by rw [heq]; rfl⟩

/-- A record of a new problem keeps the invariant at the end. -/
theorem Keeps.concat {kept seen : List Diagnostic} (h : Keeps kept seen) {d : Diagnostic}
    (hnew : d.key ∉ kept.map Diagnostic.key) : Keeps (kept ++ [d]) (seen ++ [d]) := by
  refine ⟨?_, ?_, ?_⟩
  · rw [List.map_append]
    refine List.nodup_append.mpr ⟨h.nodup, by simp, ?_⟩
    rintro k hk _ hk' rfl
    rw [List.map_singleton, List.mem_singleton] at hk'
    exact hnew (hk' ▸ hk)
  · intro k hk
    rw [List.map_append, List.mem_append] at hk ⊢
    exact hk.imp_left (h.covers k)
  · intro x hx
    rw [about_append, about_singleton]
    rcases List.mem_append.mp hx with hx | hx
    · have hne : d.key ≠ x.key := fun hk => hnew (hk ▸ List.mem_map_of_mem hx)
      rw [if_neg hne, List.append_nil]
      exact h.first x hx
    · rw [List.mem_singleton.mp hx, if_pos rfl, about_eq_nil.mpr fun hk => hnew (h.covers _ hk)]
      exact isFirstLeast_singleton d

/-- A record of a problem that has one already keeps the invariant in that one's place. -/
theorem Keeps.contend {front back seen : List Diagnostic} {e d : Diagnostic}
    (h : Keeps (front ++ e :: back) seen) (hkey : e.key = d.key) :
    Keeps (front ++ (if d.canonicalLess e then d else e) :: back) (seen ++ [d]) := by
  -- the winner has the key of the record it contends with, so the keys stay as they are
  have hwinner : (if d.canonicalLess e then d else e).key = e.key := by
    split
    · exact hkey.symm
    · rfl
  have hkeys : (front ++ (if d.canonicalLess e then d else e) :: back).map Diagnostic.key
      = (front ++ e :: back).map Diagnostic.key := by
    rw [List.map_append, List.map_cons, hwinner, List.map_append, List.map_cons]
  refine ⟨hkeys ▸ h.nodup, ?_, ?_⟩
  · intro k hk
    rw [List.map_append, List.mem_append] at hk
    rw [hkeys]
    rcases hk with hk | hk
    · exact h.covers k hk
    · rw [List.map_singleton, List.mem_singleton] at hk
      rw [hk, ← hkey]
      exact List.mem_map_of_mem (by simp)
  · intro x hx
    rw [about_append, about_singleton]
    by_cases hx' : x = if d.canonicalLess e then d else e
    · rw [hx', hwinner, if_pos hkey.symm]
      exact (h.first e (by simp)).concat d
    · have hold : x ∈ front ++ back := by
        rw [List.mem_append, List.mem_cons] at hx
        rw [List.mem_append]
        tauto
      have hne : d.key ≠ x.key := by
        intro hk
        have hperm : (front ++ e :: back).Perm (e :: (front ++ back)) := List.perm_middle
        have hnodup := (hperm.map Diagnostic.key).nodup_iff.mp h.nodup
        rw [List.map_cons, List.nodup_cons] at hnodup
        exact hnodup.1 (hkey.trans hk ▸ List.mem_map_of_mem hold)
      rw [if_neg hne, List.append_nil]
      refine h.first x ?_
      rw [List.mem_append, List.mem_cons]
      rw [List.mem_append] at hold
      tauto

/-- One more record keeps the invariant. -/
theorem Keeps.keepCanonical {kept seen : List Diagnostic} (h : Keeps kept seen) (d : Diagnostic) :
    Keeps (keepCanonical kept d) (seen ++ [d]) := by
  rcases keepCanonical_cases kept d with ⟨hnew, heq⟩ | ⟨front, e, back, rfl, hkey, heq⟩
  · rw [heq]
    exact h.concat hnew
  · rw [heq]
    exact h.contend hkey

theorem Keeps.foldl {kept seen : List Diagnostic} (h : Keeps kept seen) (ds : List Diagnostic) :
    Keeps (ds.foldl Merge.keepCanonical kept) (seen ++ ds) := by
  induction ds generalizing kept seen with
  | nil => rwa [List.append_nil]
  | cons d ds ih =>
    rw [List.foldl_cons, List.append_cons]
    exact ih (h.keepCanonical d)

/-- `distinct` publishes all records of each problem. -/
theorem publishes_distinct (ds : List Diagnostic) :
    Publishes (distinct ds) fun key => about key ds := by
  have hstart : Keeps [] [] := ⟨List.nodup_nil, by simp, by simp⟩
  have h : Keeps (ds.foldl keepCanonical []) ds := hstart.foldl ds
  refine ⟨increasing_sorted h.nodup, ?_, ?_⟩
  · intro key hkey
    rw [Ne, about_eq_nil, not_not] at hkey
    exact ((sorted_perm _).map _).mem_iff.mpr (h.covers key hkey)
  · intro d hd
    exact h.first d ((sorted_perm _).mem_iff.mp hd)

/-! ## Where both producers report a problem -/

/-- Overriding by records of distinct problems drops what they report and puts them at the end. -/
theorem foldl_override (kept incoming : List Diagnostic)
    (h : (incoming.map Diagnostic.key).Nodup) :
    incoming.foldl override kept =
      kept.filter (fun d => d.key ∉ incoming.map Diagnostic.key) ++ incoming := by
  induction incoming generalizing kept with
  | nil => simp
  | cons e es ih =>
    rw [List.map_cons, List.nodup_cons] at h
    -- no later record has the key of `e`, so `e` is not overridden in turn
    have hkeep : [e].filter (fun d => d.key ∉ es.map Diagnostic.key) = [e] := by
      rw [List.filter_cons_of_pos (by simpa using h.1), List.filter_nil]
    rw [List.foldl_cons, ih _ h.2, override, List.filter_append, hkeep, List.filter_filter,
      List.append_assoc, List.singleton_append]
    congr 1
    refine List.filter_congr ?_
    intro d _
    have hsame : d.sameProblem e = decide (d.key = e.key) := rfl
    rw [hsame, List.map_cons]
    by_cases hd : d.key = e.key <;> simp [hd]

/-- The records of a problem of two producers among which the second's go first: those of the first
count only where the second has none. -/
def preferring (base incoming : List Diagnostic) : List Diagnostic :=
  if incoming = [] then base else incoming

/-- A problem that `distinct` does not publish was not reported. -/
theorem about_eq_nil_of_not_mem_distinct {key : Position × String} {ds : List Diagnostic}
    (h : key ∉ (distinct ds).map Diagnostic.key) : about key ds = [] := by
  by_contra hne
  exact h ((publishes_distinct ds).covers key hne)

theorem withPrecedence_eq (base incoming : List Diagnostic) :
    withPrecedence base incoming =
      sorted ((distinct base).filter (fun d => d.key ∉ (distinct incoming).map Diagnostic.key)
        ++ distinct incoming) := by
  rw [withPrecedence, foldl_override _ _ (publishes_distinct incoming).increasing.nodup_keys]

/-- `withPrecedence` publishes the records of the second producer, and those of the first about the
problems that the second does not report. -/
theorem publishes_withPrecedence (base incoming : List Diagnostic) :
    Publishes (withPrecedence base incoming) fun key =>
      preferring (about key base) (about key incoming) := by
  have hbase := publishes_distinct base
  have hincoming := publishes_distinct incoming
  rw [withPrecedence_eq]
  refine ⟨?_, ?_, ?_⟩
  · refine increasing_sorted ?_
    rw [List.map_append]
    refine List.nodup_append.mpr ⟨?_, hincoming.increasing.nodup_keys, ?_⟩
    · exact hbase.increasing.nodup_keys.sublist (List.filter_sublist.map _)
    · rintro k hk _ hk' rfl
      obtain ⟨d, hd, rfl⟩ := List.mem_map.mp hk
      exact of_decide_eq_true (List.mem_filter.mp hd).2 hk'
  · intro key hkey
    rw [((sorted_perm _).map _).mem_iff, List.map_append, List.mem_append]
    by_cases hin : key ∈ (distinct incoming).map Diagnostic.key
    · exact Or.inr hin
    · rw [preferring, if_pos (about_eq_nil_of_not_mem_distinct hin)] at hkey
      obtain ⟨d, hd, rfl⟩ := List.mem_map.mp (hbase.covers key hkey)
      exact Or.inl (List.mem_map_of_mem (List.mem_filter.mpr ⟨hd, decide_eq_true hin⟩))
  · intro d hd
    rcases List.mem_append.mp ((sorted_perm _).mem_iff.mp hd) with hd | hd
    · obtain ⟨hd, hkey⟩ := List.mem_filter.mp hd
      have hnone : about d.key incoming = [] :=
        about_eq_nil_of_not_mem_distinct (of_decide_eq_true hkey)
      rw [preferring, if_pos hnone]
      exact hbase.first d hd
    · have hfirst := hincoming.first d hd
      rw [preferring, if_neg (List.ne_nil_of_mem hfirst.mem)]
      exact hfirst

/-! ## The policies -/

/-- The records that a policy looks at: those of both producers, or of one only. -/
def selected (policy : Policy) (ds : List Diagnostic) : List Diagnostic :=
  match policy with
  | .structuredOnly => ofSource .structured ds
  | .textualOnly => ofSource .textual ds
  | _ => ds

/-- The records of a problem among which a policy chooses, in the order in which ties are
decided. -/
def contenders (policy : Policy) (ds : List Diagnostic) (key : Position × String) :
    List Diagnostic :=
  let textual := about key (ofSource .textual ds)
  let structured := about key (ofSource .structured ds)
  match policy with
  | .structuredBase => preferring structured textual
  | .textualBase => preferring textual structured
  | .structuredOnly => structured
  | .textualOnly => textual
  | .unionAll => structured ++ textual

theorem publishes_merge (policy : Policy) (ds : List Diagnostic) :
    Publishes (merge policy ds) (contenders policy ds) := by
  cases policy with
  | structuredBase => exact publishes_withPrecedence _ _
  | textualBase => exact publishes_withPrecedence _ _
  | structuredOnly => exact publishes_distinct _
  | textualOnly => exact publishes_distinct _
  | unionAll =>
    have h := publishes_distinct (ofSource .structured ds ++ ofSource .textual ds)
    simp only [about_append] at h
    exact h

theorem mem_ofSource {source : Source} {ds : List Diagnostic} {d : Diagnostic} :
    d ∈ ofSource source ds ↔ d ∈ ds ∧ d.source = source := by
  simp [ofSource]

theorem mem_about_ofSource {source : Source} {ds : List Diagnostic} {d : Diagnostic}
    {key : Position × String} :
    d ∈ about key (ofSource source ds) ↔ (d ∈ ds ∧ d.source = source) ∧ d.key = key := by
  rw [mem_about, mem_ofSource]

theorem mem_of_mem_selected {policy : Policy} {ds : List Diagnostic} {d : Diagnostic}
    (h : d ∈ selected policy ds) : d ∈ ds := by
  cases policy with
  | structuredOnly => exact (mem_ofSource.mp h).1
  | textualOnly => exact (mem_ofSource.mp h).1
  | _ => exact h

/-- Contenders are selected records about the problem. -/
theorem mem_selected_of_mem_contenders {policy : Policy} {ds : List Diagnostic}
    {key : Position × String} {d : Diagnostic} (h : d ∈ contenders policy ds key) :
    d ∈ selected policy ds ∧ d.key = key := by
  cases policy with
  | structuredBase =>
    rw [contenders, preferring] at h
    split at h <;> exact ⟨(mem_about_ofSource.mp h).1.1, (mem_about_ofSource.mp h).2⟩
  | textualBase =>
    rw [contenders, preferring] at h
    split at h <;> exact ⟨(mem_about_ofSource.mp h).1.1, (mem_about_ofSource.mp h).2⟩
  | structuredOnly => exact mem_about.mp h
  | textualOnly => exact mem_about.mp h
  | unionAll =>
    rcases List.mem_append.mp h with h | h <;>
      exact ⟨(mem_about_ofSource.mp h).1.1, (mem_about_ofSource.mp h).2⟩

/-- What is published is among what is stored. -/
theorem mem_of_mem_merge {policy : Policy} {ds : List Diagnostic} {d : Diagnostic}
    (h : d ∈ merge policy ds) : d ∈ ds :=
  mem_of_mem_selected
    (mem_selected_of_mem_contenders ((publishes_merge policy ds).first d h).mem).1

theorem merge_nil (policy : Policy) : merge policy [] = [] :=
  List.eq_nil_iff_forall_not_mem.mpr fun _ h => List.not_mem_nil (mem_of_mem_merge h)

/-- Every problem of a selected record has contenders. -/
theorem contenders_ne_nil {policy : Policy} {ds : List Diagnostic} {d : Diagnostic}
    (h : d ∈ selected policy ds) : contenders policy ds d.key ≠ [] := by
  have hpreferring : ∀ {xs ys : List Diagnostic}, d ∈ xs ∨ d ∈ ys → preferring xs ys ≠ [] := by
    intro xs ys hd
    rw [preferring]
    split
    next hnil => exact List.ne_nil_of_mem (hd.resolve_right (by simp [hnil]))
    next hne => exact hne
  have hsource : selected policy ds = ds →
      d ∈ about d.key (ofSource .textual ds) ∨ d ∈ about d.key (ofSource .structured ds) := by
    intro hall
    rw [hall] at h
    cases hs : d.source with
    | textual => exact Or.inl (mem_about_ofSource.mpr ⟨⟨h, hs⟩, rfl⟩)
    | structured => exact Or.inr (mem_about_ofSource.mpr ⟨⟨h, hs⟩, rfl⟩)
  cases policy with
  | structuredBase => exact hpreferring (hsource rfl).symm
  | textualBase => exact hpreferring (hsource rfl)
  | structuredOnly => exact List.ne_nil_of_mem (mem_about.mpr ⟨h, rfl⟩)
  | textualOnly => exact List.ne_nil_of_mem (mem_about.mpr ⟨h, rfl⟩)
  | unionAll => exact List.ne_nil_of_mem (List.mem_append.mpr (hsource rfl).symm)

theorem mem_keys_merge_iff (policy : Policy) (ds : List Diagnostic) (key : Position × String) :
    key ∈ (merge policy ds).map Diagnostic.key ↔ key ∈ (selected policy ds).map Diagnostic.key := by
  have h := publishes_merge policy ds
  constructor
  · intro hkey
    obtain ⟨d, hd, rfl⟩ := List.mem_map.mp hkey
    exact List.mem_map_of_mem (mem_selected_of_mem_contenders (h.first d hd).mem).1
  · intro hkey
    obtain ⟨d, hd, rfl⟩ := List.mem_map.mp hkey
    exact h.covers _ (contenders_ne_nil hd)

/-- In published records, a record contends with no other. -/
theorem contenders_merge {policy : Policy} {ds : List Diagnostic} {d : Diagnostic}
    (hd : d ∈ merge policy ds) : contenders policy (merge policy ds) d.key = [d] := by
  have h := publishes_merge policy ds
  have hof : ∀ source, about d.key (ofSource source (merge policy ds)) =
      if d.source = source then [d] else [] := by
    intro source
    rw [about, ofSource, List.filter_comm, ← about, h.increasing.about_key hd]
    by_cases hs : d.source = source <;> simp [hs]
  have hselected := (mem_selected_of_mem_contenders (h.first d hd).mem).1
  cases policy with
  | structuredBase => cases hs : d.source <;> simp [contenders, preferring, hof, hs]
  | textualBase => cases hs : d.source <;> simp [contenders, preferring, hof, hs]
  | structuredOnly => rw [contenders, hof, if_pos (mem_ofSource.mp hselected).2]
  | textualOnly => rw [contenders, hof, if_pos (mem_ofSource.mp hselected).2]
  | unionAll => cases hs : d.source <;> simp [contenders, hof, hs]

/-- Published records publish themselves: each is the only contender for its problem. -/
theorem publishes_contenders_merge (policy : Policy) (ds : List Diagnostic) :
    Publishes (merge policy ds) (contenders policy (merge policy ds)) := by
  refine ⟨(publishes_merge policy ds).increasing, ?_, ?_⟩
  · intro key hkey
    obtain ⟨d, hd⟩ := List.exists_mem_of_ne_nil _ hkey
    obtain ⟨hselected, rfl⟩ := mem_selected_of_mem_contenders hd
    exact List.mem_map_of_mem (mem_of_mem_selected hselected)
  · intro d hd
    rw [contenders_merge hd]
    exact isFirstLeast_singleton d

theorem Increasing.pairwise_not_sameProblem {ds : List Diagnostic} (h : Increasing ds) :
    ds.Pairwise fun a b => a.sameProblem b = false := by
  refine (List.pairwise_map.mp h.nodup_keys).imp ?_
  intro a b hne
  exact decide_eq_false hne

/-- **One record for every problem.** The published records are strictly increasing by start and
message, so no two name the same problem; their problems are those of the selected records; each is
the first of the least contenders for its problem; and merging them again changes nothing. -/
theorem merge_one_record_a_problem (policy : Policy) (ds : List Diagnostic) :
    Increasing (merge policy ds) ∧
      ((merge policy ds).Pairwise fun a b => a.sameProblem b = false) ∧
      (∀ key, key ∈ (merge policy ds).map Diagnostic.key ↔
        key ∈ (selected policy ds).map Diagnostic.key) ∧
      (∀ d ∈ merge policy ds, IsFirstLeast d (contenders policy ds d.key)) ∧
      merge policy (merge policy ds) = merge policy ds := by
  have h := publishes_merge policy ds
  have hself := publishes_contenders_merge policy ds
  refine ⟨h.increasing, h.increasing.pairwise_not_sameProblem, mem_keys_merge_iff policy ds,
    h.first, ?_⟩
  exact (publishes_merge policy (merge policy ds)).unique hself

end Merge

end Reconcile
