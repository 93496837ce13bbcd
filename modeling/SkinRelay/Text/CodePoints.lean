/-!
Sets of code points, kept as the sorted list of the bounds where membership changes.
-/

namespace SkinRelay.Text

/-- A set of code points: the first bound is the first member, the second the first non-member
after it, and so on in turn. -/
structure CodePoints where
  bounds : List Nat

/-- Whether `n` lies between a bound at which members begin and the next one. -/
def withinBounds (n : Nat) : List Nat → Bool
  | first :: after :: rest => first ≤ n && (n < after || withinBounds n rest)
  | [first] => first ≤ n
  | [] => false

def CodePoints.contains (set : CodePoints) (c : Char) : Bool :=
  withinBounds c.toNat set.bounds

end SkinRelay.Text
