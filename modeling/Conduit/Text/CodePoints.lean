/-!
# Sets of code points

A set of characters given as closed ranges of code points, in ascending order.
-/

namespace Conduit.Text

/-- Closed ranges of code points. -/
abbrev CodePoints := List (Nat × Nat)

namespace CodePoints

/-- Whether one of the ranges holds the character. -/
def holds (ranges : CodePoints) (c : Char) : Bool :=
  ranges.any fun r ↦ r.1 ≤ c.toNat && c.toNat ≤ r.2

/-- Each range is non-empty and starts above the end of the range before it. -/
def ascending : CodePoints → Bool
  | [] => true
  | [r] => r.1 ≤ r.2
  | r :: s :: rest => r.1 ≤ r.2 && r.2 < s.1 && ascending (s :: rest)

end CodePoints

end Conduit.Text
