/-!
Character properties as tables: a property is a list of closed ranges of code points, ascending
and apart.
-/

namespace ApiContract.Text

/-- Whether the code point lies in one of the ranges. -/
def inRanges (ranges : List (Nat × Nat)) (n : Nat) : Bool :=
  ranges.any fun r => r.1 ≤ n && n ≤ r.2

end ApiContract.Text
