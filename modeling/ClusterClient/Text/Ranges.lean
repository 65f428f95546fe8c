import ClusterClient.Text.Basic

/-!
# Ranges of code points

A property of the Unicode standard is written as the list of the ranges that have it.
-/

namespace ClusterClient

/-- Closed ranges of code points, in ascending order. -/
abbrev Ranges := List (Nat × Nat)

/-- Whether some range holds the code point. -/
def Ranges.contains (ranges : Ranges) (c : CodePoint) : Bool :=
  ranges.any fun range => range.1 ≤ c.val && c.val ≤ range.2

theorem Ranges.contains_iff {ranges : Ranges} {c : CodePoint} :
    ranges.contains c = true ↔ ∃ range ∈ ranges, range.1 ≤ c.val ∧ c.val ≤ range.2 := by
  simp [Ranges.contains]

end ClusterClient
