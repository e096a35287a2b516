/-! # Sets of characters

A set of characters given as ranges of code points. -/

namespace Fleet.Text

/-- The first and last code points of ranges. -/
abbrev Ranges := List (Nat × Nat)

/-- Whether a character lies in one of the ranges. -/
def Ranges.has (ranges : Ranges) (c : Char) : Bool :=
  ranges.any (fun r => r.1 ≤ c.toNat && c.toNat ≤ r.2)

end Fleet.Text
