import SlabAllocator.Assertion

/-! Machine words, pages and alignment. Sizes and addresses elsewhere are
natural numbers with their bounds checked; here rounding to a power of two is
done on words by masking, as the machine does it. -/
namespace SlabAllocator

/-- Bytes in a machine word, which is also the width of a pointer. -/
def wordBytes : Nat := 8

/-- Bytes in a page; every block starts on a page boundary. -/
def pageSize : Nat := 4096

/-- The first number that no longer fits in a machine word. -/
def wordLimit : Nat := .pow 2 64

/-- The least multiple of the word size at or above `size`. A size so close to
the limit that no multiple fits saturates at the largest word. -/
def roundUpToWord (size : Nat) : Nat :=
  let rounded := (size + (wordBytes - 1)) / wordBytes * wordBytes
  if rounded < wordLimit then rounded else wordLimit - 1

namespace Word

/-- A power of two has exactly one bit set, so taking one away clears it. -/
def isPowerOfTwo (word : UInt64) : Bool :=
  word != 0 && word &&& (word - 1) == 0

/-- The sum of two words, refused when it would wrap. -/
def checkedAdd (first second : UInt64) : Except Assertion UInt64 :=
  if first.toNat + second.toNat < wordLimit then .ok (first + second) else .error .sumInRange

/-- Rounds `value` up to a multiple of a power of two. The sum with the
alignment is formed first, so a value within one alignment of the top of the
range is refused even where the rounded value itself would fit. -/
def alignUp (value alignment : UInt64) : Except Assertion UInt64 :=
  if isPowerOfTwo alignment then
    match checkedAdd value alignment with
    | .ok sum => .ok ((sum - 1) &&& ~~~(alignment - 1))
    | .error broken => .error broken
  else .error .powerOfTwo

/-- Whether `value` is a multiple of a power of two. -/
def isAligned (value alignment : UInt64) : Except Assertion Bool :=
  if isPowerOfTwo alignment then .ok (value &&& (alignment - 1) == 0) else .error .powerOfTwo

end Word

end SlabAllocator
