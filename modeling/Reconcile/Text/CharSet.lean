/-!
# Character sets

A Unicode property is a table of inclusive ranges of code points. Every table of this library is
one `CharSet`, so that membership is defined once; the tables follow Unicode 14.
-/

namespace Reconcile.Text

/-- A set of characters, written as inclusive ranges of code points. -/
structure CharSet where
  ranges : List (Nat × Nat)

/-- A character belongs to the set when one of the ranges holds its code point. -/
def CharSet.contains (set : CharSet) (c : Char) : Bool :=
  set.ranges.any fun range => range.1 ≤ c.toNat && c.toNat ≤ range.2

/-- The code points of a set, in order. -/
def CharSet.codes (set : CharSet) : List Nat :=
  set.ranges.flatMap fun range => List.range' range.1 (range.2 + 1 - range.1)

theorem CharSet.mem_codes {set : CharSet} {c : Char} (h : set.contains c = true) :
    c.toNat ∈ set.codes := by
  obtain ⟨range, hrange, hc⟩ := List.any_eq_true.1 h
  rw [Bool.and_eq_true, decide_eq_true_eq, decide_eq_true_eq] at hc
  refine List.mem_flatMap.2 ⟨range, hrange, ?_⟩
  rw [List.mem_range'_1]
  omega

end Reconcile.Text
