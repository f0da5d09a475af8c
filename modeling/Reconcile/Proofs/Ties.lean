import Reconcile.Proofs.Merging

/-!
# What the order of records decides

Merging looks at records one after the other, and of records that tie in the canonical order it keeps
the first. This file says which records tie, and so how far the order of the records matters.

* `merge_perm_iff`: in whatever order the records come, the same ones are published up to their
  codes, once these are spelled out; and it is the very same list for every order exactly when the
  least contenders for each problem agree in their codes.
* `merge_swapped`: two records whose codes differ and tie. Each is published if it comes first.

The canonical order looks at everything but the message, which records of a problem share. It tells
any two of them apart, except that it reads a missing code as an empty one and a missing target as an
empty target (`canonicalOrder_eq_iff`).
-/

namespace Reconcile

open Std

/-! ## Records that tie -/

instance : LawfulEqOrd Range where
  eq_of_compare {a b} h := by
    obtain ⟨hstart, hstop⟩ := compareLex_eq_eq.mp h
    exact Range.ext (LawfulEqOrd.eq_of_compare hstart) (LawfulEqOrd.eq_of_compare hstop)

instance : LawfulEqOrd Note where
  eq_of_compare {a b} h := by
    obtain ⟨hfile, h⟩ := compareLex_eq_eq.mp h
    obtain ⟨hrange, hmessage⟩ := compareLex_eq_eq.mp h
    exact Note.ext (LawfulEqOrd.eq_of_compare hfile) (LawfulEqOrd.eq_of_compare hrange)
      (LawfulEqOrd.eq_of_compare hmessage)

theorem compareOn_eq_iff {α β : Type} [Ord β] [LawfulEqOrd β] (f : α → β) (a b : α) :
    compareOn f a b = .eq ↔ f a = f b :=
  compare_eq_iff_eq

theorem Severity.rank_injective : Function.Injective Severity.rank := by
  intro a b h
  cases a <;> cases b <;> first | rfl | cases h

theorem Source.tag_injective : Function.Injective Source.tag :=
  Function.LeftInverse.injective Source.ofTag_tag

/-- A code with everything spelled out that may be missing: a missing code is an empty one, and a
missing target an empty target. -/
def Code.spelledOut : Option Code → Code
  | none => ⟨"", some "", false⟩
  | some code => { code with target := some (code.target.getD "") }

/-- Codes have one place in the order if they are the same once spelled out. -/
theorem Code.orderKey_eq_iff (a b : Option Code) :
    orderKey a = orderKey b ↔ spelledOut a = spelledOut b := by
  cases a <;> cases b <;> simp [orderKey, spelledOut, Code.ext_iff]

namespace Diagnostic

/-- The record with its code spelled out. -/
def spelledOut (d : Diagnostic) : Diagnostic :=
  { d with code := some (Code.spelledOut d.code) }

theorem spelledOut_eq_iff (a b : Diagnostic) :
    a.spelledOut = b.spelledOut ↔
      a.file = b.file ∧ a.range = b.range ∧ a.severity = b.severity ∧ a.message = b.message ∧
        a.source = b.source ∧ a.notes = b.notes ∧
        Code.spelledOut a.code = Code.spelledOut b.code := by
  simp [spelledOut, Diagnostic.ext_iff]

/-- Records of one problem tie if they are the same once their codes are spelled out. -/
theorem canonicalOrder_eq_iff {a b : Diagnostic} (h : a.key = b.key) :
    canonicalOrder a b = .eq ↔ a.spelledOut = b.spelledOut := by
  have hmessage : a.message = b.message := congrArg Prod.snd h
  rw [spelledOut_eq_iff, ← Code.orderKey_eq_iff, canonicalOrder]
  simp only [compareLex_eq_eq, compareOn_eq_iff, Severity.rank_injective.eq_iff,
    Source.tag_injective.eq_iff, Prod.ext_iff]
  tauto

/-- Records that tie are equal if their codes are. -/
theorem eq_of_spelledOut {a b : Diagnostic} (h : a.spelledOut = b.spelledOut)
    (hcode : a.code = b.code) : a = b := by
  obtain ⟨hfile, hrange, hseverity, hmessage, hsource, hnotes, -⟩ := (spelledOut_eq_iff a b).mp h
  exact Diagnostic.ext hfile hrange hseverity hmessage hsource hnotes hcode

/-- Records of different producers do not tie. -/
theorem source_eq_of_tie {a b : Diagnostic} (h : canonicalOrder a b = .eq) :
    a.source = b.source := by
  simp only [canonicalOrder, compareLex_eq_eq, compareOn_eq_iff] at h
  exact Source.tag_injective h.2.2.2.2.2.2.2

end Diagnostic

namespace Merge

open Diagnostic

/-! ## Least records -/

/-- A record is among the least ones: none is canonical rather than it. -/
def IsLeast (d : Diagnostic) (ds : List Diagnostic) : Prop :=
  d ∈ ds ∧ ∀ e ∈ ds, ¬e.canonicalLess d = true

theorem not_canonicalLess_self (d : Diagnostic) : ¬d.canonicalLess d = true := by
  have hself : canonicalOrder d d = .eq := ReflCmp.compare_self
  rw [canonicalLess_iff, hself]
  exact fun h => by cases h

theorem not_canonicalLess_of_less {a b : Diagnostic} (h : a.canonicalLess b = true) :
    ¬b.canonicalLess a = true :=
  fun hback => not_canonicalLess_self a (canonicalLess_trans h hback)

theorem IsFirstLeast.isLeast {d : Diagnostic} {ds : List Diagnostic} (h : IsFirstLeast d ds) :
    IsLeast d ds := by
  refine ⟨h.mem, ?_⟩
  obtain ⟨front, back, rfl, hfront, hback⟩ := h
  intro e he
  rcases List.mem_append.mp he with he | he
  · exact not_canonicalLess_of_less (hfront e he)
  · rcases List.mem_cons.mp he with rfl | he
    · exact not_canonicalLess_self e
    · exact hback e he

theorem IsLeast.perm {d : Diagnostic} {ds es : List Diagnostic} (h : IsLeast d ds)
    (hperm : es.Perm ds) : IsLeast d es :=
  ⟨hperm.mem_iff.mpr h.1, fun e he => h.2 e (hperm.mem_iff.mp he)⟩

/-- Two least records tie. -/
theorem IsLeast.canonicalOrder_eq {a b : Diagnostic} {ds : List Diagnostic} (ha : IsLeast a ds)
    (hb : IsLeast b ds) : canonicalOrder a b = .eq := by
  cases h : canonicalOrder a b with
  | eq => rfl
  | lt => exact absurd ((canonicalLess_iff a b).mpr h) (hb.2 a ha.1)
  | gt => exact absurd ((canonicalLess_iff b a).mpr (OrientedCmp.lt_of_gt h)) (ha.2 b hb.1)

/-- A least record is the first of the least if the records before it are the other producer's. -/
theorem IsLeast.isFirstLeast {d : Diagnostic} {front back : List Diagnostic}
    (h : IsLeast d (front ++ d :: back)) (hfront : ∀ e ∈ front, e.source ≠ d.source) :
    IsFirstLeast d (front ++ d :: back) := by
  refine ⟨front, back, rfl, ?_, fun e he => h.2 e (by simp [he])⟩
  intro e he
  rw [canonicalLess_iff]
  cases hcmp : canonicalOrder d e with
  | lt => rfl
  | eq => exact absurd (source_eq_of_tie hcmp).symm (hfront e he)
  | gt =>
    have hless : e.canonicalLess d = true := (canonicalLess_iff e d).mpr (OrientedCmp.lt_of_gt hcmp)
    exact absurd hless (h.2 e (by simp [he]))

/-! ## Contenders in another order -/

theorem preferring_perm {base base' incoming incoming' : List Diagnostic}
    (hbase : base'.Perm base) (hincoming : incoming'.Perm incoming) :
    (preferring base' incoming').Perm (preferring base incoming) := by
  unfold preferring
  by_cases hnil : incoming = []
  · subst hnil
    rw [if_pos rfl, if_pos (List.perm_nil.mp hincoming)]
    exact hbase
  · have hnil' : incoming' ≠ [] := fun h => hnil (List.nil_perm.mp (h ▸ hincoming))
    rw [if_neg hnil, if_neg hnil']
    exact hincoming

/-- Records in another order contend for the same problems. -/
theorem contenders_perm (policy : Policy) {ds es : List Diagnostic} (h : es.Perm ds)
    (key : Position × String) : (contenders policy es key).Perm (contenders policy ds key) := by
  have hof : ∀ source, (about key (ofSource source es)).Perm (about key (ofSource source ds)) :=
    fun source => (h.filter _).filter _
  cases policy with
  | structuredBase => exact preferring_perm (hof _) (hof _)
  | textualBase => exact preferring_perm (hof _) (hof _)
  | structuredOnly => exact hof _
  | textualOnly => exact hof _
  | unionAll => exact (hof _).append (hof _)

theorem about_ofSource_cons {source : Source} {d : Diagnostic} {ds : List Diagnostic}
    (h : d ∈ about d.key (ofSource source (d :: ds))) :
    ∃ back, about d.key (ofSource source (d :: ds)) = d :: back := by
  have hsource : d.source = source := (mem_about_ofSource.mp h).1.2
  exact ⟨about d.key (ofSource source ds), by simp [about, ofSource, hsource]⟩

/-- A contender that comes first of all records has only contenders of the other producer before
it. -/
theorem contenders_cons {policy : Policy} {d : Diagnostic} {ds : List Diagnostic}
    (h : d ∈ contenders policy (d :: ds) d.key) :
    ∃ front back, contenders policy (d :: ds) d.key = front ++ d :: back ∧
      ∀ e ∈ front, e.source ≠ d.source := by
  -- apart from a union, all contenders are records of one producer
  have hone : ∀ source, contenders policy (d :: ds) d.key = about d.key (ofSource source (d :: ds)) →
      ∃ front back, contenders policy (d :: ds) d.key = front ++ d :: back ∧
        ∀ e ∈ front, e.source ≠ d.source := by
    intro source heq
    rw [heq] at h ⊢
    obtain ⟨back, hback⟩ := about_ofSource_cons h
    exact ⟨[], back, hback, by simp⟩
  cases policy with
  | structuredBase =>
    by_cases hnil : about d.key (ofSource .textual (d :: ds)) = []
    · exact hone .structured (if_pos hnil)
    · exact hone .textual (if_neg hnil)
  | textualBase =>
    by_cases hnil : about d.key (ofSource .structured (d :: ds)) = []
    · exact hone .textual (if_pos hnil)
    · exact hone .structured (if_neg hnil)
  | structuredOnly => exact hone .structured rfl
  | textualOnly => exact hone .textual rfl
  | unionAll =>
    rcases List.mem_append.mp h with h | h
    · obtain ⟨back, hback⟩ := about_ofSource_cons h
      exact ⟨[], back ++ _, by rw [contenders, hback]; rfl, by simp⟩
    · obtain ⟨back, hback⟩ := about_ofSource_cons h
      refine ⟨about d.key (ofSource .structured (d :: ds)), back, by rw [contenders, hback], ?_⟩
      intro e he heq
      have htextual : d.source = .textual := (mem_about_ofSource.mp h).1.2
      rw [(mem_about_ofSource.mp he).1.2, htextual] at heq
      cases heq

/-! ## Merging in another order -/

/-- What is published for a problem is the first of the least records of its group. -/
theorem Publishes.mem_of_isFirstLeast {result : List Diagnostic}
    {group : Position × String → List Diagnostic} (h : Publishes result group) {d : Diagnostic}
    (hd : IsFirstLeast d (group d.key)) : d ∈ result := by
  obtain ⟨e, he, hkey⟩ := List.mem_map.mp (h.covers d.key (List.ne_nil_of_mem hd.mem))
  have hfirst := h.first e he
  rw [hkey] at hfirst
  exact hd.unique hfirst ▸ he

/-- Every least contender is published if it comes first of all records. -/
theorem mem_merge_of_isLeast {policy : Policy} {ds : List Diagnostic} {key : Position × String}
    {d : Diagnostic} (h : IsLeast d (contenders policy ds key)) :
    ∃ es, es.Perm ds ∧ d ∈ merge policy es := by
  obtain ⟨hselected, rfl⟩ := mem_selected_of_mem_contenders h.1
  have hperm : (d :: ds.erase d).Perm ds :=
    (List.perm_cons_erase (mem_of_mem_selected hselected)).symm
  refine ⟨d :: ds.erase d, hperm, ?_⟩
  have hleast := h.perm (contenders_perm policy hperm d.key)
  obtain ⟨front, back, heq, hfront⟩ := contenders_cons hleast.1
  refine (publishes_merge policy (d :: ds.erase d)).mem_of_isFirstLeast ?_
  rw [heq] at hleast ⊢
  exact hleast.isFirstLeast hfront

/-- Of a problem that is published in one order, a least contender is published in every other. -/
theorem exists_isLeast_of_perm {policy : Policy} {ds es : List Diagnostic} (h : es.Perm ds)
    {d : Diagnostic} (hd : d ∈ merge policy es) :
    ∃ e ∈ merge policy ds, e.key = d.key ∧ IsLeast d (contenders policy ds d.key) ∧
      IsLeast e (contenders policy ds d.key) := by
  have hleast := ((publishes_merge policy es).first d hd).isLeast.perm
    (contenders_perm policy h d.key).symm
  have hpublishes := publishes_merge policy ds
  obtain ⟨e, he, hkey⟩ := List.mem_map.mp (hpublishes.covers d.key (List.ne_nil_of_mem hleast.1))
  exact ⟨e, he, hkey, hleast, hkey ▸ (hpublishes.first e he).isLeast⟩

theorem Increasing.map_spelledOut {ds : List Diagnostic} (h : Increasing ds) :
    Increasing (ds.map spelledOut) :=
  List.pairwise_map.mpr h

/-- In whatever order records come, the same ones are published up to how their codes are spelled. -/
theorem spelledOut_merge_perm (policy : Policy) {ds es : List Diagnostic} (h : es.Perm ds) :
    (merge policy es).map spelledOut = (merge policy ds).map spelledOut := by
  have hsub : ∀ {xs ys : List Diagnostic}, xs.Perm ys →
      ∀ d ∈ (merge policy xs).map spelledOut, d ∈ (merge policy ys).map spelledOut := by
    intro xs ys hperm d hd
    obtain ⟨x, hx, rfl⟩ := List.mem_map.mp hd
    obtain ⟨y, hy, hkey, hxleast, hyleast⟩ := exists_isLeast_of_perm hperm hx
    have htie := (canonicalOrder_eq_iff hkey.symm).mp (hxleast.canonicalOrder_eq hyleast)
    exact htie ▸ List.mem_map_of_mem hy
  exact (publishes_merge policy es).increasing.map_spelledOut.eq_of_mem_iff
    (publishes_merge policy ds).increasing.map_spelledOut
    fun d => ⟨hsub h d, hsub h.symm d⟩

/-- If the least contenders agree in their codes, the order of the records does not matter. -/
theorem merge_perm_of_codes {policy : Policy} {ds : List Diagnostic}
    (hcode : ∀ key a b, IsLeast a (contenders policy ds key) → IsLeast b (contenders policy ds key) →
      a.code = b.code) {es : List Diagnostic} (h : es.Perm ds) :
    merge policy es = merge policy ds := by
  have heq : ∀ {d e : Diagnostic}, e.key = d.key → IsLeast d (contenders policy ds d.key) →
      IsLeast e (contenders policy ds d.key) → d = e := by
    intro d e hkey hd he
    have htie := (canonicalOrder_eq_iff hkey.symm).mp (hd.canonicalOrder_eq he)
    exact eq_of_spelledOut htie (hcode _ d e hd he)
  refine (publishes_merge policy es).increasing.eq_of_mem_iff
    (publishes_merge policy ds).increasing fun d => ⟨fun hd => ?_, fun hd => ?_⟩
  · obtain ⟨e, he, hkey, hdleast, heleast⟩ := exists_isLeast_of_perm h hd
    exact heq hkey hdleast heleast ▸ he
  · obtain ⟨e, he, hkey, hdleast, heleast⟩ := exists_isLeast_of_perm h.symm hd
    have hperm := (contenders_perm policy h d.key).symm
    exact heq hkey (hdleast.perm hperm) (heleast.perm hperm) ▸ he

/-- **Only codes that tie make the order of the records matter.** In whatever order records come, the
same ones are published once their codes are spelled out; and they are the very same for every order
exactly when the least contenders for each problem agree in their codes. -/
theorem merge_perm_iff (policy : Policy) (ds : List Diagnostic) :
    (∀ es, es.Perm ds → (merge policy es).map spelledOut = (merge policy ds).map spelledOut) ∧
      ((∀ es, es.Perm ds → merge policy es = merge policy ds) ↔
        ∀ key a b, IsLeast a (contenders policy ds key) → IsLeast b (contenders policy ds key) →
          a.code = b.code) := by
  refine ⟨fun _ h => spelledOut_merge_perm policy h, ?_, fun hcode _ => merge_perm_of_codes hcode⟩
  intro hsame key a b ha hb
  have hmem : ∀ {d : Diagnostic}, IsLeast d (contenders policy ds key) → d ∈ merge policy ds := by
    intro d hd
    obtain ⟨es, hperm, hpublished⟩ := mem_merge_of_isLeast hd
    exact hsame es hperm ▸ hpublished
  -- both are published, and only one record of a problem is
  have hkey : a.key = b.key :=
    (mem_selected_of_mem_contenders ha.1).2.trans (mem_selected_of_mem_contenders hb.1).2.symm
  have hincreasing := (publishes_merge policy ds).increasing
  have hone := hincreasing.about_key (hmem ha)
  have hb' : b ∈ about a.key (merge policy ds) := mem_about.mpr ⟨hmem hb, hkey.symm⟩
  rw [hone, List.mem_singleton] at hb'
  rw [hb']

/-- A record without a code and one with an empty code tie; of the two, the one that comes first is
published. -/
theorem merge_swapped :
    let bare : Diagnostic := ⟨"a.swift", .point ⟨0, 0⟩, .error, "Boom", .structured, [], none⟩
    let coded : Diagnostic := { bare with code := some ⟨"", none, false⟩ }
    [coded, bare].Perm [bare, coded] ∧
      merge .structuredBase [bare, coded] = [bare] ∧
      merge .structuredBase [coded, bare] = [coded] ∧ bare ≠ coded := by
  intro bare coded
  exact ⟨.swap .., by decide +kernel, by decide +kernel, by decide⟩

end Merge

end Reconcile
