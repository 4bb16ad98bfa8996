/-! Shares of a total as floating-point numbers. -/
namespace SlabAllocator

/-- The quotient of two word-sized counts: each is rounded to the nearest
double first, then the quotient is. -/
def ratio (part total : Nat) : Float :=
  (UInt64.ofNat part).toFloat / (UInt64.ofNat total).toFloat

end SlabAllocator
