/-!
# Powers

Powers of two and of ten, which scale the numbers of the two number systems.
-/

namespace RunBoard.Number

/-- A power of two. -/
def twoTo (n : Nat) : Nat := Nat.pow 2 n

/-- A power of ten. -/
def tenTo (n : Nat) : Nat := Nat.pow 10 n

end RunBoard.Number
