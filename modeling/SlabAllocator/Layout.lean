import SlabAllocator.Word

/-! The shape of a request to the system: a size and an alignment. -/
namespace SlabAllocator

/-- A size in bytes with the alignment its start must have. -/
structure Layout where
  size : Nat
  align : Nat
  deriving DecidableEq, Repr

namespace Layout

/-- Sizes rounded up to their alignment stay below this bound, so that the
distance between any two bytes of a region is a signed word. -/
def limit : Nat := .pow 2 63

/-- A layout exists when the alignment is a power of two and the size, rounded
up to the alignment, stays below the limit. -/
def of? (size align : Nat) : Option Layout :=
  if align ≠ 0 ∧ align &&& (align - 1) = 0 ∧ size + align ≤ limit then some ⟨size, align⟩ else none

end Layout

end SlabAllocator
