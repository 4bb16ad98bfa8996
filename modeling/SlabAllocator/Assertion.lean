/-! Checks that stop an operation before it has changed anything. They guard
arithmetic that would leave the machine word, links that would tear a ring and
slabs that would begin between two words. -/
namespace SlabAllocator

/-- A condition an operation relies on and found broken. -/
inductive Assertion
  /-- An alignment has to be a power of two. -/
  | powerOfTwo
  /-- A sum has to fit in a machine word. -/
  | sumInRange
  /-- A node has to be on no ring before it is threaded onto one. -/
  | detached
  /-- A node has to be on some ring before it is taken off. -/
  | linked
  /-- A slab has to begin at a word. -/
  | alignedBase
  /-- Two numbers have to be equal. -/
  | equal (left right : Nat)
  deriving DecidableEq, Repr

/-- The text reported when the condition does not hold. -/
def Assertion.message : Assertion → String
  | .powerOfTwo => "assertion failed: alignment.is_power_of_two()"
  | .sumInRange => "attempt to add with overflow"
  | .detached => "node is already linked"
  | .linked => "unlink of a detached node"
  | .alignedBase =>
      "assertion failed: is_aligned(base.as_ptr() as usize, align_of::<SlabHeader>())"
  | .equal left right => "assertion `left == right` failed\n  left: " ++ toString left ++
      "\n right: " ++ toString right

end SlabAllocator
