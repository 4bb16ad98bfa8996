import SlabAllocator.BlockPool
import SlabAllocator.Shelf

/-! The two kinds of source a session works with. -/
namespace SlabAllocator

/-- A source of blocks. -/
inductive Supplier
  | ofPool (pool : BlockPool)
  | ofShelf (shelf : Shelf)
  deriving DecidableEq, Repr

namespace Supplier

/-- Bytes in each block. -/
def blockSize : Supplier → Nat
  | .ofPool pool => pool.blockSize
  | .ofShelf shelf => shelf.blockSize

/-- A block taken from one kind of source is one taken from a supplier. -/
def taken {σ : Type} (wrap : σ → Supplier) (taken : Taken σ) : Taken Supplier :=
  ⟨taken.block, wrap taken.source, taken.system, taken.events⟩

/-- Hands out a block. -/
def take (supplier : Supplier) (system : System) : Except Fault (Taken Supplier) :=
  match supplier with
  | .ofPool pool => (pool.alloc system).map (taken .ofPool)
  | .ofShelf shelf => (shelf.take system).map (taken .ofShelf)

/-- Takes a block back. -/
def give (supplier : Supplier) (system : System) (block : Nat) : Except Fault (Supplier × System) :=
  match supplier with
  | .ofPool pool => (pool.release system block).map fun (pool, system) => (.ofPool pool, system)
  | .ofShelf shelf => (shelf.give system block).map fun (shelf, system) => (.ofShelf shelf, system)

/-- What a supplier holds of the system, given back when it goes away. -/
def drop (supplier : Supplier) (system : System) : System :=
  match supplier with
  | .ofPool pool => pool.drop system
  | .ofShelf _ => system

instance : BlockSource Supplier where
  blockSize := blockSize
  take := take
  give := give

end Supplier

end SlabAllocator
