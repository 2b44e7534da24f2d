/-!
# Ranges of code points

A property of characters is given by the ranges of code points that have it.  Both
ends of a range belong to it.
-/

namespace JobConsole.Text

/-- Whether a code point lies in one of the ranges. -/
def inRanges (ranges : List (Nat × Nat)) (codePoint : Nat) : Bool :=
  ranges.any fun range => range.1 ≤ codePoint && codePoint ≤ range.2

/-- A code point below all ranges lies in none of them. -/
theorem inRanges_eq_false_of_below {ranges : List (Nat × Nat)} {bound codePoint : Nat}
    (all : ∀ range ∈ ranges, bound ≤ range.1) (below : codePoint < bound) :
    inRanges ranges codePoint = false := by
  simp only [inRanges, List.any_eq_false, Bool.and_eq_true, decide_eq_true_eq]
  intro range member within
  exact Nat.lt_irrefl _ (Nat.lt_of_lt_of_le below (Nat.le_trans (all range member) within.1))

end JobConsole.Text
