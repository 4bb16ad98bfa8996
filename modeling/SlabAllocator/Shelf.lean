import SlabAllocator.BlockSource

/-! A source of blocks with a fixed number of slots, handed out in turn. It can
be made to refuse blocks that come back, which tells how pools cope. -/
namespace SlabAllocator

/-- A row of slots of one size in a region. -/
structure Shelf where
  region : Region
  /-- Bytes in each block. -/
  blockSize : Nat
  /-- Slots not handed out, the next one first. -/
  queue : List Nat
  /-- Slots handed out. -/
  out : Nat
  /-- Whether blocks that come back are refused. -/
  refusing : Bool
  deriving DecidableEq, Repr

namespace Shelf

/-- The distance between slots: whole pages, and at least one. -/
def strideOf (blockSize : Nat) : Nat :=
  max pageSize ((blockSize + (pageSize - 1)) / pageSize * pageSize)

/-- A shelf of `slots` slots at `start`, handed out in the order given. -/
def new (start blockSize slots : Nat) (order : List Nat) : Shelf :=
  ⟨⟨start, slots * strideOf blockSize⟩, blockSize, order, 0, false⟩

/-- Where a slot begins. -/
def slotStart (shelf : Shelf) (slot : Nat) : Nat :=
  shelf.region.start + slot * strideOf shelf.blockSize

/-- The slot that begins at an address. -/
def slotAt (shelf : Shelf) (address : Nat) : Nat :=
  (address - shelf.region.start) / strideOf shelf.blockSize

/-- Hands out the slot whose turn it is. -/
def take (shelf : Shelf) (system : System) : Except Fault (Taken Shelf) :=
  match shelf.queue with
  | [] => .error (.allocationFailed shelf.blockSize pageSize)
  | slot :: rest =>
    .ok ⟨shelf.slotStart slot, { shelf with queue := rest, out := shelf.out + 1 }, system, []⟩

/-- Takes a slot back to the end of the queue, unless the shelf refuses. -/
def give (shelf : Shelf) (system : System) (block : Nat) : Except Fault (Shelf × System) :=
  if shelf.refusing then .error (.foreignPointer block)
  else
    .ok ({ shelf with queue := shelf.queue ++ [shelf.slotAt block], out := shelf.out - 1 }, system)

instance : BlockSource Shelf where
  blockSize := blockSize
  take := take
  give := give

end Shelf

end SlabAllocator
