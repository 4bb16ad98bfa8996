import SlabAllocator.Assertion
import SlabAllocator.Ratio
import SlabAllocator.Text
import SlabAllocator.Word

/-! The counters of a block pool and the figures derived from them. -/
namespace SlabAllocator.BlockPool

/-- The counters of a block pool at one moment. -/
structure Stats where
  /-- Bytes in each block. -/
  blockSize : Nat
  /-- Blocks in the cache region. -/
  cacheBlocks : Nat
  /-- Cache blocks not handed out. -/
  freeBlocks : Nat
  /-- Requests answered from the cache. -/
  cacheHits : Nat
  /-- Requests answered by the system. -/
  fallbackAllocs : Nat
  /-- Blocks given back to the system. -/
  fallbackFrees : Nat
  deriving DecidableEq, Repr

namespace Stats

/-- Cache blocks handed out. -/
def cacheInUse (stats : Stats) : Nat :=
  stats.cacheBlocks - stats.freeBlocks

/-- System blocks handed out. -/
def fallbackOutstanding (stats : Stats) : Nat :=
  stats.fallbackAllocs - stats.fallbackFrees

/-- The share of requests the cache has answered, zero before the first. The
number of requests has to fit in a word. -/
def hitRate (stats : Stats) : Except Assertion Float :=
  let requests := stats.cacheHits + stats.fallbackAllocs
  if wordLimit ≤ requests then .error .sumInRange
  else if requests = 0 then .ok 0 else .ok (ratio stats.cacheHits requests)

/-- One line for a reader. -/
def summary (stats : Stats) : String :=
  "blocks: " ++ toString stats.freeBlocks ++ "/" ++ toString stats.cacheBlocks ++ " free (" ++
    toString stats.blockSize ++ " B each), hits: " ++ toString stats.cacheHits ++ ", fallback: " ++
    toString stats.fallbackAllocs ++ " alloc / " ++ toString stats.fallbackFrees ++ " free"

/-- The counters as a record. -/
def describe (stats : Stats) : String :=
  Text.record "BlockPoolStats" [
    Text.field "block_size" (toString stats.blockSize),
    Text.field "cache_blocks" (toString stats.cacheBlocks),
    Text.field "free_blocks" (toString stats.freeBlocks),
    Text.field "cache_hits" (toString stats.cacheHits),
    Text.field "fallback_allocs" (toString stats.fallbackAllocs),
    Text.field "fallback_frees" (toString stats.fallbackFrees)]

end Stats

end SlabAllocator.BlockPool
