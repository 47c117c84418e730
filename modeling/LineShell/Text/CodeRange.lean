/-!
# Sets of code points

A property of characters is kept as the ascending list of the ranges of code points that have it.
-/
namespace LineShell.Text

/-- Ranges of code points, both ends included. -/
abbrev CodeRanges := Array (Nat × Nat)

def CodeRanges.holds (ranges : CodeRanges) (c : Char) : Bool :=
  ranges.any fun (low, high) => low ≤ c.toNat && c.toNat ≤ high

end LineShell.Text
