/-! Sets of characters given by ranges of code points, the form in which the
properties of characters are tabulated. -/
namespace SlabAllocator.Text

/-- The code points from `first` to `last`, both included. -/
structure CodeRange where
  first : Nat
  last : Nat
  deriving DecidableEq, Repr

namespace CodeRange

/-- Whether one of some ranges holds a code point. -/
def hold (ranges : List CodeRange) (code : Nat) : Bool :=
  ranges.any fun range => range.first ≤ code && code ≤ range.last

/-- Whether ranges are in ascending order, with a gap after each and none empty. -/
def ascending : List CodeRange → Bool
  | [] => true
  | [range] => range.first ≤ range.last
  | range :: next :: rest =>
    range.first ≤ range.last && range.last + 1 < next.first && ascending (next :: rest)

/-- The number of code points in ranges that do not overlap. -/
def total (ranges : List CodeRange) : Nat :=
  ranges.foldr (fun range sum => range.last + 1 - range.first + sum) 0

end CodeRange

end SlabAllocator.Text
