import SlabAllocator.BlockPool.Stats
import SlabAllocator.BlockSource

/-! Pools of page-aligned blocks of one size. A pool sets aside a cache region
once; when the cache has no block left, blocks come straight from the system and
go straight back to it. -/
namespace SlabAllocator

/-- A pool of blocks. -/
structure BlockPool where
  /-- Bytes in each block. -/
  blockSize : Nat
  /-- Whether the pool was set up. -/
  ready : Bool
  /-- The region of the cache, if it has any blocks. -/
  region : Option Region
  /-- Cache blocks not handed out, the next one first. -/
  free : List Nat
  /-- Blocks in the cache region. -/
  cacheBlocks : Nat
  cacheHits : Nat
  fallbackAllocs : Nat
  fallbackFrees : Nat
  deriving DecidableEq, Repr

namespace BlockPool

/-- A pool that is not set up yet. -/
def new (blockSize : Nat) : BlockPool :=
  ⟨blockSize, false, none, [], 0, 0, 0, 0⟩

/-- The name a pool goes by in faults. -/
def component : String := "block pool"

/-- The shape of one block; there is none if blocks are too large to be regions. -/
def blockLayout (pool : BlockPool) : Except Fault Layout :=
  match Layout.of? pool.blockSize pageSize with
  | some layout => .ok layout
  | none => .error (.invalidLayout "block size exceeds isize::MAX")

/-- Sets aside a region for `count` blocks. -/
def cacheLayout (pool : BlockPool) (count : Nat) : Except Fault Layout :=
  let size := pool.blockSize * count
  if wordLimit ≤ size then .error (.sizeOverflow "block cache size")
  else
    match Layout.of? size pageSize with
    | some layout => .ok layout
    | none => .error (.invalidLayout "block cache exceeds isize::MAX")

/-- The blocks of a cache region in the order of their addresses. -/
def cacheBlocksFrom (pool : BlockPool) (start count : Nat) : List Nat :=
  (List.range count).map fun position => start + position * pool.blockSize

/-- The pool once its cache region is there. -/
def withCache (pool : BlockPool) (count : Nat) (region : Option Region) : BlockPool :=
  { pool with
    ready := true
    region := region
    free := match region with
      | none => []
      | some region => pool.cacheBlocksFrom region.start count
    cacheBlocks := count }

/-- Sets a pool up with a cache of `count` blocks. Blocks have to be whole
pages, and a pool is set up only once. -/
def init (pool : BlockPool) (system : System) (count : Nat) : Except Fault (BlockPool × System) :=
  if pool.blockSize < pageSize ∨ pool.blockSize % pageSize ≠ 0 then
    .error (.invalidConfig ("block size " ++ toString pool.blockSize ++
      " is not a positive multiple of " ++ toString pageSize))
  else if pool.ready then .error (.alreadyInitialized component)
  else if count = 0 then .ok (pool.withCache count none, system)
  else do
    let layout ← pool.cacheLayout count
    let (start, system) ← system.request layout
    pure (pool.withCache count (some ⟨start, layout.size⟩), system)

/-- What setting a pool up adds to the journal. -/
def initEvents (pool : BlockPool) (count : Nat) : List Event :=
  [.blockPoolReady pool.blockSize count]

/-- Hands out a block: the next one of the cache, or one from the system when
the cache has none left. -/
def alloc (pool : BlockPool) (system : System) : Except Fault (Taken BlockPool) :=
  if ¬ pool.ready then .error (.notInitialized component)
  else
    match pool.free with
    | block :: rest =>
      .ok ⟨block, { pool with free := rest, cacheHits := pool.cacheHits + 1 }, system, []⟩
    | [] => do
      let layout ← pool.blockLayout
      let (block, system) ← system.request layout
      pure ⟨block, { pool with fallbackAllocs := pool.fallbackAllocs + 1 }, system,
        [.cacheDrained pool.blockSize]⟩

/-- Whether an address lies in the cache region. -/
def contains (pool : BlockPool) (address : Nat) : Bool :=
  match pool.region with
  | some region => region.contains address
  | none => false

/-- Whether an address is a block boundary of the cache region. -/
def isBoundary (pool : BlockPool) (address : Nat) : Bool :=
  match pool.region with
  | some region => (address - region.start) % pool.blockSize == 0
  | none => false

/-- Takes a block back. A cache block will be the next one handed out; any other
block goes to the system. -/
def release (pool : BlockPool) (system : System) (block : Nat) :
    Except Fault (BlockPool × System) :=
  if pool.contains block then
    if pool.isBoundary block then .ok ({ pool with free := block :: pool.free }, system)
    else .error (.foreignPointer block)
  else do
    let layout ← pool.blockLayout
    pure ({ pool with fallbackFrees := pool.fallbackFrees + 1 },
      system.release ⟨block, layout.size⟩)

/-- Gives the cache region of a pool that goes away back to the system. -/
def drop (pool : BlockPool) (system : System) : System :=
  match pool.region with
  | some region => system.release region
  | none => system

/-- The counters of a pool. -/
def stats (pool : BlockPool) : Stats :=
  ⟨pool.blockSize, pool.cacheBlocks, pool.free.length, pool.cacheHits, pool.fallbackAllocs,
    pool.fallbackFrees⟩

/-- A pool as a record. -/
def describe (pool : BlockPool) : String :=
  Text.record "BlockPool" [
    Text.field "block_size" (toString pool.blockSize),
    Text.field "cache_count" (toString pool.cacheBlocks),
    Text.field "free_count" (toString pool.free.length)]

instance : BlockSource BlockPool where
  blockSize := blockSize
  take := alloc
  give := release

end BlockPool

end SlabAllocator
