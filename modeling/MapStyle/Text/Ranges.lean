/-
Ranges of code points.

Properties of characters are kept as lists of ranges.

* `inRanges` — whether a code point lies in one of them.
-/
namespace MapStyle.Text

/-- Ranges of code points, ends included. -/
abbrev Ranges := List (Nat × Nat)

/-- Whether a code point lies in one of the ranges. -/
def inRanges (ranges : Ranges) (n : Nat) : Bool :=
  ranges.any fun r => r.1 ≤ n && n ≤ r.2

end MapStyle.Text
