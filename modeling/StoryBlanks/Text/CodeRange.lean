/-!
# Ranges of code points

A class of characters, given by the ranges of its code points.
-/

namespace StoryBlanks.Text

/-- The first and the last code point of a run. -/
abbrev CodeRange := Nat × Nat

/-- The character lies in one of the ranges. -/
def inRanges (ranges : List CodeRange) (c : Char) : Bool :=
  ranges.any fun (first, last) => first ≤ c.toNat && c.toNat ≤ last

theorem inRanges_iff {ranges : List CodeRange} {c : Char} :
    inRanges ranges c = true ↔ ∃ r ∈ ranges, r.1 ≤ c.toNat ∧ c.toNat ≤ r.2 := by
  simp [inRanges]

end StoryBlanks.Text
