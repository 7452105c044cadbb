/-!
# Sets of numbers as boundary lists

A set of code points that consists of a few hundred runs is kept as the ascending list of the
points where membership changes.
-/

namespace IconPress
namespace Text

/--
Boundaries `b₀ < b₁ < b₂ < ⋯` stand for the set `[b₀, b₁) ∪ [b₂, b₃) ∪ ⋯`: a number belongs to
it when an odd number of boundaries is not above it.
-/
def withinBoundaries (boundaries : List Nat) (n : Nat) : Bool :=
  (boundaries.takeWhile (· ≤ n)).length % 2 == 1

end Text
end IconPress
