import SlabAllocator.Event
import SlabAllocator.System

/-! Sources of blocks: what an element pool needs to know of wherever its blocks
come from. -/
namespace SlabAllocator

/-- A block taken from a source, with what taking it has changed. -/
structure Taken (σ : Type) where
  block : Nat
  source : σ
  system : System
  events : List Event

/-- A source hands out blocks of one size and takes them back. A request it
refuses changes neither the source nor the system. -/
class BlockSource (σ : Type) where
  /-- Bytes in each block. -/
  blockSize : σ → Nat
  /-- Hands out a block. -/
  take : σ → System → Except Fault (Taken σ)
  /-- Takes a block back. -/
  give : σ → System → Nat → Except Fault (σ × System)

end SlabAllocator
