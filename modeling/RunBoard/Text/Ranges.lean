/-!
# Sets of characters

A set of characters is given by the ranges of code points that it holds, in ascending order, each
with its first and its last member.
-/

namespace RunBoard.Text

/-- A set of characters, as ascending ranges of code points. -/
abbrev Ranges := List (Nat × Nat)

/-- Whether a character lies in one of the ranges. -/
def Ranges.has (ranges : Ranges) (c : Char) : Bool :=
  ranges.any fun (first, last) => first ≤ c.toNat && c.toNat ≤ last

end RunBoard.Text
