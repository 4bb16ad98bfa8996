import SlabAllocator.ElementPool.Config
import SlabAllocator.ElementPool.Stats
import SlabAllocator.ElementPool.Threading
import SlabAllocator.Peak
import SlabAllocator.Slab
import SlabAllocator.System

/-! Pools of elements of one size. Elements come from a resident slab, set aside
once, and from slabs carved out of blocks as they are needed. Carved slabs with
room are on one ring, those without on another, and an index of the addresses
where they end tells which one an element belongs to. The rings are threaded
through the headers of the slabs, so moving a slab writes memory, in its own
header and in those of its neighbours.

A pool does not call its source of blocks. It says when it needs a block
(`Attempt.drained`), takes one over (`adopt?`) and says when one can go back
(`Freed.retired`), so whatever happens between the request for a block and its
arrival finds the pool in order. -/
namespace SlabAllocator

/-- The slab a pool keeps from its set-up to its end. -/
structure Resident where
  /-- Where the slab begins. -/
  base : Nat
  /-- Bytes in the slab. -/
  size : Nat
  deriving DecidableEq, Repr

/-- The region of the resident slab. -/
def Resident.region (resident : Resident) : Region :=
  ⟨resident.base, resident.size⟩

/-- A pool of elements. -/
structure ElementPool where
  /-- Bytes in each block of the source the pool draws on. -/
  blockSize : Nat
  /-- Bytes in each element, a whole number of words. -/
  elementSize : Nat
  config : ElementPool.Config
  /-- Whether the pool was set up. -/
  ready : Bool
  resident : Option Resident
  /-- The anchors of the rings of carved slabs. -/
  sentinels : ElementPool.Sentinels
  /-- Where carved slabs end, ascending. -/
  index : List Nat
  /-- Bytes in carved slabs. -/
  carvedBytes : Nat
  /-- Elements handed out and not given back. -/
  live : Nat
  totalAllocs : Nat
  totalFrees : Nat
  /-- The most bytes that were ever in live elements. -/
  peakUsage : Nat

namespace ElementPool

/-- A pool that is not set up yet, with the element size rounded up to words. -/
def new (blockSize elementSize : Nat) (config : Config) : ElementPool :=
  ⟨blockSize, roundUpToWord elementSize, config, false, none,
    .empty, [], 0, 0, 0, 0, 0⟩

/-- The name a pool goes by in faults. -/
def component : String := "slab pool"

/-- The alignment of resident slabs, a cache line. -/
def residentAlign : Nat := 64

/-- Bytes of a block that are left for elements. -/
def room (pool : ElementPool) : Nat :=
  pool.blockSize - Slab.headerBytes

/-- The shape of a resident slab of exactly `count` elements. -/
def residentLayout (pool : ElementPool) (count : Nat) : Except Fault Layout :=
  let size := count * pool.elementSize + Slab.headerBytes
  if wordLimit ≤ size then .error (.sizeOverflow "resident slab size")
  else
    match Layout.of? size residentAlign with
    | some layout => .ok layout
    | none => .error (.invalidLayout "resident slab exceeds isize::MAX")

/-- A pool that was set up, with what that has changed. -/
structure Setup where
  pool : ElementPool
  memory : Memory
  system : System

/-- Sets a pool up with a resident slab of `count` elements. An element has to
fit in a block behind a header, and a pool is set up only once. -/
def init (pool : ElementPool) (memory : Memory) (system : System) (count : Nat) :
    Except Fault Setup :=
  if pool.ready then .error (.alreadyInitialized component)
  else if pool.elementSize = 0 then .error (.invalidConfig "element size must be non-zero")
  else if pool.room < pool.elementSize then
    .error (.invalidConfig ("element size " ++ toString pool.elementSize ++ " exceeds the " ++
      toString pool.room ++ " usable bytes of a " ++ toString pool.blockSize ++ "-byte block"))
  else if count = 0 then .ok ⟨{ pool with ready := true }, memory, system⟩
  else do
    let layout ← pool.residentLayout count
    let (base, system) ← system.request layout
    match Slab.format? memory base layout.size pool.elementSize with
    | none => .error (.invalidConfig "resident slab cannot hold an element")
    | some memory =>
      pure ⟨{ pool with ready := true, resident := some ⟨base, layout.size⟩ }, memory, system⟩

/-- Sets a pool up, refusing a resident slab that has not just as many slots as are asked for. -/
def init? (pool : ElementPool) (memory : Memory) (system : System) (count : Nat) :
    Except Assertion (Except Fault Setup) :=
  match pool.init memory system count with
  | .error fault => .ok (.error fault)
  | .ok setup =>
    match setup.pool.resident with
    | none => .ok (.ok setup)
    | some resident =>
      let slots := (Slab.Header.load setup.memory resident.base).maxCount
      if slots = count then .ok (.ok setup) else .error (.equal slots count)

/-- What setting a pool up adds to the journal. -/
def initEvents (pool : ElementPool) (count : Nat) : List Event :=
  [.elementPoolReady pool.elementSize count pool.blockSize]

/-- Counts an element that is handed out. -/
def countAlloc (pool : ElementPool) : ElementPool :=
  let live := pool.live + 1
  if pool.config.trackStats then
    { pool with
      live := live
      totalAllocs := pool.totalAllocs + 1
      peakUsage := raisePeak pool.peakUsage (live * pool.elementSize) }
  else { pool with live := live }

/-- Counts an element that came back. -/
def countFree (pool : ElementPool) : ElementPool :=
  if pool.config.trackStats then
    { pool with live := pool.live - 1, totalFrees := pool.totalFrees + 1 }
  else { pool with live := pool.live - 1 }

/-- Fills a fresh element. -/
def fillFresh (pool : ElementPool) (memory : Memory) (address : Nat) : Memory :=
  match pool.config.allocPattern with
  | some pattern => memory.fill address pool.elementSize pattern
  | none => memory

/-- Fills an element that came back, behind the word that links it. -/
def scrub (pool : ElementPool) (memory : Memory) (address : Nat) : Memory :=
  match pool.config.deallocPattern with
  | some pattern => memory.fill (address + wordBytes) (pool.elementSize - wordBytes) pattern
  | none => memory

/-- A pool with the memory its slabs are in. -/
structure InMemory extends ElementPool where
  memory : Memory

/-- The rings of carved slabs, as the anchors of the pool and memory have them. -/
def rings (pool : ElementPool) (memory : Memory) : Rings Threading :=
  ⟨⟨pool.sentinels, memory⟩, pool.index.length⟩

/-- The pool and its memory after links have changed. -/
def relinked (pool : ElementPool) (rings : Rings Threading) : InMemory :=
  ⟨{ pool with sentinels := rings.store.sentinels }, rings.store.memory⟩

/-- Moves a slab from the ring it is on to the back of a ring. -/
def moveBack (pool : ElementPool) (memory : Memory) (ring base : Nat) : InMemory :=
  pool.relinked (((pool.rings memory).unlink base).pushBack ring base)

/-- Moves a slab to the back of the ring of slabs without room. -/
def park (pool : ElementPool) (memory : Memory) (base : Nat) : InMemory :=
  pool.moveBack memory fullRing base

/-- Moves a slab to the back of the ring of slabs with room. -/
def reopen (pool : ElementPool) (memory : Memory) (base : Nat) : InMemory :=
  pool.moveBack memory partialRing base

/-- Puts a new slab at the front of a ring. -/
def enlist (pool : ElementPool) (memory : Memory) (ring base : Nat) : InMemory :=
  pool.relinked ((pool.rings memory).pushFront ring base)

/-- Moves a slab to the back of a ring, refusing one that is on no ring. -/
def moveBack? (pool : ElementPool) (memory : Memory) (ring base : Nat) :
    Except Assertion InMemory := do
  let unlinked ← (pool.rings memory).unlink? base
  let rings ← unlinked.pushBack? ring base
  pure (pool.relinked rings)

/-- Parks a slab, refusing one that is on no ring. -/
def park? (pool : ElementPool) (memory : Memory) (base : Nat) : Except Assertion InMemory :=
  pool.moveBack? memory fullRing base

/-- Reopens a slab, refusing one that is on no ring. -/
def reopen? (pool : ElementPool) (memory : Memory) (base : Nat) : Except Assertion InMemory :=
  pool.moveBack? memory partialRing base

/-- Puts a new slab at the front of a ring, refusing one that is on a ring already. -/
def enlist? (pool : ElementPool) (memory : Memory) (ring base : Nat) :
    Except Assertion InMemory := do
  let rings ← (pool.rings memory).pushFront? ring base
  pure (pool.relinked rings)

/-- What a pool can do about a request by itself. -/
inductive Attempt
  /-- An element was handed out. -/
  | served (address : Nat) (pool : ElementPool) (memory : Memory)
  /-- No slab has room, so a block is needed. -/
  | drained (pool : ElementPool) (memory : Memory)

/-- Hands out an element that was taken from a slab. -/
def handOut (placed : InMemory) (address : Nat) : Attempt :=
  .served address placed.countAlloc (placed.fillFresh placed.memory address)

/-- Takes an element from the first carved slab that has room. A slab that turns
out to have none is moved out of the way. -/
def attemptCarved (pool : ElementPool) (memory : Memory) : Attempt :=
  match (pool.rings memory).front partialRing with
  | none => .drained pool memory
  | some base =>
    match Slab.alloc? memory base with
    | none =>
      let parked := pool.park memory base
      .drained parked.toElementPool parked.memory
    | some (address, memory) =>
      handOut (if (Slab.Header.load memory base).isFull then pool.park memory base
        else ⟨pool, memory⟩) address

/-- Takes an element from the resident slab, else from a carved one. -/
def attempt (pool : ElementPool) (memory : Memory) : Attempt :=
  match pool.resident.bind fun resident => Slab.alloc? memory resident.base with
  | some (address, memory) => handOut ⟨pool, memory⟩ address
  | none => pool.attemptCarved memory

/-- Adds an address to an ascending list. -/
def insertEnd (finish : Nat) : List Nat → List Nat
  | [] => [finish]
  | head :: rest =>
    if finish < head then finish :: head :: rest
    else if finish = head then head :: rest
    else head :: insertEnd finish rest

theorem mem_insertEnd (finish other : Nat) (index : List Nat) :
    other ∈ insertEnd finish index ↔ other = finish ∨ other ∈ index := by
  induction index with
  | nil => simp [insertEnd]
  | cons head rest ih => grind [insertEnd]

/-- Adding an address keeps a list strictly ascending. -/
theorem insertEnd_pairwise (finish : Nat) {index : List Nat} (ascending : index.Pairwise (· < ·)) :
    (insertEnd finish index).Pairwise (· < ·) := by
  induction index with
  | nil => simp [insertEnd]
  | cons head rest ih =>
    obtain ⟨below, ascending⟩ := List.pairwise_cons.1 ascending
    simp only [insertEnd]
    split
    · refine List.pairwise_cons.2 ⟨fun other member => ?_, List.pairwise_cons.2 ⟨below, ascending⟩⟩
      rcases List.mem_cons.1 member with rfl | member
      · assumption
      · exact Nat.lt_trans ‹_› (below other member)
    · split
      · exact List.pairwise_cons.2 ⟨below, ascending⟩
      · refine List.pairwise_cons.2 ⟨fun other member => ?_, ih ascending⟩
        rcases (mem_insertEnd _ _ _).1 member with rfl | member
        · omega
        · exact below other member

/-- A slab made of a block, with its first element handed out. -/
structure Adopted where
  address : Nat
  pool : ElementPool
  memory : Memory
  /-- Where the new slab ends. -/
  finish : Nat
  /-- Slots in the new slab. -/
  capacity : Nat

/-- Makes a block a slab of the pool and hands out its first element. The slab
goes to the front of its ring. A block that cannot hold an element is left alone. -/
def adopt? (pool : ElementPool) (memory : Memory) (block : Nat) : Option Adopted := do
  let memory ← Slab.format? memory block pool.blockSize pool.elementSize
  let (address, memory) ← Slab.alloc? memory block
  let header := Slab.Header.load memory block
  let finish := Slab.endAddress memory block
  let listed := pool.enlist memory (if header.isFull then fullRing else partialRing) block
  let carved := { listed.toElementPool with
    index := insertEnd finish pool.index
    carvedBytes := pool.carvedBytes + pool.blockSize }
  pure ⟨address, carved.countAlloc, carved.fillFresh listed.memory address, finish,
    header.maxCount⟩

/-- Why a block cannot become a slab. -/
def unfitBlock (pool : ElementPool) : Fault :=
  .invalidConfig ("block of " ++ toString pool.blockSize ++ " bytes cannot hold a " ++
    toString pool.elementSize ++ "-byte element")

/-- Whether an address lies in the resident slab. -/
def containsResident (pool : ElementPool) (address : Nat) : Bool :=
  match pool.resident with
  | some resident => resident.region.contains address
  | none => false

/-- The carved slab whose range holds an address: the one whose end is the first
above it, provided the address does not lie below that slab. -/
def owner? (pool : ElementPool) (address : Nat) : Option Nat :=
  match pool.index.find? fun finish => address < finish with
  | none => none
  | some finish =>
    let base := finish - pool.blockSize
    if address < base ∨ base = 0 then none else some base

/-- An element that came back, with what that has changed. -/
structure Freed where
  pool : ElementPool
  memory : Memory
  /-- A slab that lost its last element. The pool has forgotten it, and its
  block can go back to the source. -/
  retired : Option Nat

/-- Forgets a carved slab. -/
def retire (pool : ElementPool) (memory : Memory) (base : Nat) : InMemory :=
  let unlinked := pool.relinked ((pool.rings memory).unlink base)
  { unlinked with
    index := pool.index.erase (base + pool.blockSize)
    carvedBytes := pool.carvedBytes - pool.blockSize }

/-- Forgets a carved slab, refusing one that is on no ring. -/
def retire? (pool : ElementPool) (memory : Memory) (base : Nat) : Except Assertion InMemory := do
  let _ ← (pool.rings memory).unlink? base
  pure (pool.retire memory base)

/-- Gives an element back to the resident slab. -/
def freeResident (pool : ElementPool) (memory : Memory) (base address : Nat) : Except Fault Freed :=
  match Slab.free memory base address with
  | .error fault => .error fault
  | .ok (_, memory) => .ok ⟨pool.countFree, pool.scrub memory address, none⟩

/-- Gives an element back to the carved slab at `base`. -/
def freeCarved (pool : ElementPool) (memory : Memory) (base address : Nat) : Except Fault Freed :=
  match Slab.free memory base address with
  | .error fault => .error fault
  | .ok (.emptied, memory) =>
    let rest := pool.countFree.retire memory base
    .ok ⟨rest.toElementPool, rest.memory, some base⟩
  | .ok (.reopened, memory) =>
    let moved := pool.countFree.reopen (pool.scrub memory address) base
    .ok ⟨moved.toElementPool, moved.memory, none⟩
  | .ok (.unchanged, memory) => .ok ⟨pool.countFree, pool.scrub memory address, none⟩

/-- Takes an element back. An address in no slab of the pool is foreign. -/
def free (pool : ElementPool) (memory : Memory) (address : Nat) : Except Fault Freed :=
  match pool.resident.filter fun resident => resident.region.contains address with
  | some resident => pool.freeResident memory resident.base address
  | none =>
    match pool.owner? address with
    | some base => pool.freeCarved memory base address
    | none => .error (.foreignPointer address)

/-- Carved slabs with room, in the order they are used. -/
def partialSlabs (pool : ElementPool) (memory : Memory) : List Nat :=
  (pool.rings memory).toList partialRing

/-- Carved slabs without room. -/
def fullSlabs (pool : ElementPool) (memory : Memory) : List Nat :=
  (pool.rings memory).toList fullRing

/-- Carved slabs in the order in which their blocks go back when the pool goes away. -/
def slabs (pool : ElementPool) (memory : Memory) : List Nat :=
  pool.partialSlabs memory ++ pool.fullSlabs memory

/-- The number of carved slabs. -/
def slabCount (pool : ElementPool) : Nat :=
  pool.index.length

/-- Bytes in live elements. -/
def allocatedBytes (pool : ElementPool) : Nat :=
  pool.live * pool.elementSize

/-- Bytes in slabs, the resident slab included. -/
def allocatedBlockBytes (pool : ElementPool) : Nat :=
  (match pool.resident with
    | some resident => resident.size
    | none => 0) + pool.carvedBytes

/-- The counters of a pool, if it keeps them. -/
def stats? (pool : ElementPool) (memory : Memory) : Option Stats :=
  if pool.config.trackStats then
    some ⟨pool.totalAllocs, pool.totalFrees, pool.peakUsage, pool.allocatedBytes,
      pool.allocatedBlockBytes, pool.elementSize, (pool.partialSlabs memory).length,
      (pool.fullSlabs memory).length⟩
  else none

/-- The counters of a pool in its memory. -/
def InMemory.stats? (placed : InMemory) : Option Stats :=
  placed.toElementPool.stats? placed.memory

/-- A pool as a record, which does not show everything. -/
def describe (pool : ElementPool) : String :=
  Text.record "MemoryPool" [
    Text.field "element_size" (toString pool.elementSize),
    Text.field "initialized" (Text.flag pool.ready),
    Text.field "allocated_bytes" (toString pool.allocatedBytes),
    Text.field "allocated_block_bytes" (toString pool.allocatedBlockBytes),
    ".."]

end ElementPool

end SlabAllocator
