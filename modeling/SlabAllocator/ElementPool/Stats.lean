import SlabAllocator.Ratio
import SlabAllocator.Text

/-! The counters of an element pool and the figures derived from them. -/
namespace SlabAllocator.ElementPool

/-- The counters of an element pool at one moment. -/
structure Stats where
  /-- Elements handed out so far. -/
  totalAllocs : Nat
  /-- Elements given back so far. -/
  totalDeallocs : Nat
  /-- The most bytes that were ever in live elements. -/
  peakUsage : Nat
  /-- Bytes in live elements. -/
  currentUsage : Nat
  /-- Bytes held in slabs, the resident slab included. -/
  slabBytes : Nat
  /-- Bytes in each element. -/
  elementSize : Nat
  /-- Carved slabs with room. -/
  partialSlabs : Nat
  /-- Carved slabs without room. -/
  fullSlabs : Nat
  deriving DecidableEq, Repr

namespace Stats

/-- Elements handed out and not given back; none where elements have no size. -/
def liveElements (stats : Stats) : Nat :=
  if stats.elementSize = 0 then 0 else stats.currentUsage / stats.elementSize

/-- The share of slab bytes that are in live elements. -/
def utilization (stats : Stats) : Float :=
  if stats.slabBytes = 0 then 0 else ratio stats.currentUsage stats.slabBytes

/-- The counters as a record. -/
def describe (stats : Stats) : String :=
  Text.record "PoolStats" [
    Text.field "total_allocs" (toString stats.totalAllocs),
    Text.field "total_deallocs" (toString stats.totalDeallocs),
    Text.field "peak_usage" (toString stats.peakUsage),
    Text.field "current_usage" (toString stats.currentUsage),
    Text.field "slab_bytes" (toString stats.slabBytes),
    Text.field "element_size" (toString stats.elementSize),
    Text.field "partial_slabs" (toString stats.partialSlabs),
    Text.field "full_slabs" (toString stats.fullSlabs)]

end Stats

end SlabAllocator.ElementPool
