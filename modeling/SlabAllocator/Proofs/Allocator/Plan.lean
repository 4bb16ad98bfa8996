import SlabAllocator.Proofs.Allocator.Interlude
import SlabAllocator.Proofs.Allocator.Twins

/-! Pools by policy alone. A plan has the same sources and the same system as an allocator,
but no memory: of each pool it knows the resident slab and the two rows of carved slabs, each
slab a stack of slots. `Plan.perform` says what every act is answered and what it moves. -/
namespace SlabAllocator

open ElementPool

namespace ElementPool.View

/-- A block as a new slab, first in the row of those with room, or of those without if it has
but one slot. Slot 0 is handed out. -/
def carve (view : View) (block : Nat) : Nat × View :=
  let shape : Slab.Shape := ⟨block, view.blockSize, view.elementSize⟩
  let piece : Piece := ⟨shape, ⟨{0}, [], shape.capacity - 1⟩⟩
  (shape.slot 0, if shape.capacity = 1 then { view with full := piece :: view.full }
    else { view with roomy := piece :: view.roomy })

/-- A block that can be a slab is adopted by carving it. -/
theorem adopt_eq_carve {view : View} {block : Nat} (usable : (view.blank block).shape.Usable) :
    view.adopt block = some (view.carve block) := by
  have slots : ¬ (view.blank block).shape.capacity = 0 := Nat.ne_of_gt usable.capacity_pos
  let fresh : Piece :=
    ⟨(view.blank block).shape, ⟨{0}, [], (view.blank block).shape.capacity - 1⟩⟩
  have first : (view.blank block).alloc? = some (fresh.shape.slot 0, fresh) := by
    show Option.map _ ((Slab.Stack.fresh fresh.shape.capacity).alloc? fresh.shape.capacity) = _
    unfold Slab.Stack.alloc? Slab.Stack.fresh Slab.Stack.used
    simp only [fresh, slots, ↓reduceIte, Nat.sub_self, insert_empty_eq, Option.map_some]
  have spent : fresh.count = fresh.capacity ↔ fresh.shape.capacity = 1 := eq_comm
  unfold adopt
  rw [first, Option.map_some]
  simp only [spent]
  rfl

end ElementPool.View

/-- What a plan knows of a pool. -/
structure Plot where
  view : View
  /-- Whether the pool was set up. -/
  ready : Bool
  source : String

/-- Pools by policy alone, with the sources and the system they ask. -/
structure Plan (σ : Type) where
  sources : Table σ
  system : System
  plots : Table Plot

namespace Plot

/-- A pool that is not set up yet. -/
def new (source : String) (blockSize elementSize : Nat) : Plot :=
  ⟨⟨blockSize, roundUpToWord elementSize, none, [], []⟩, false, source⟩

/-- What is asked of the system for a resident slab of `count` elements. -/
def residentLayout (plot : Plot) (count : Nat) : Except Fault Layout :=
  let size := count * plot.view.elementSize + Slab.headerBytes
  if wordLimit ≤ size then .error (.sizeOverflow "resident slab size")
  else
    match Layout.of? size residentAlign with
    | some layout => .ok layout
    | none => .error (.invalidLayout "resident slab exceeds isize::MAX")

/-- Sets a pool up, once, if its elements fit in its blocks. A resident slab is as the system
grants it, and none is asked for if it is to have no elements. -/
def setUp (plot : Plot) (system : System) (count : Nat) : Except Fault (Plot × System) :=
  let room := plot.view.blockSize - Slab.headerBytes
  if plot.ready then .error (.alreadyInitialized component)
  else if plot.view.elementSize = 0 then .error (.invalidConfig "element size must be non-zero")
  else if room < plot.view.elementSize then
    .error (.invalidConfig ("element size " ++ toString plot.view.elementSize ++ " exceeds the " ++
      toString room ++ " usable bytes of a " ++ toString plot.view.blockSize ++ "-byte block"))
  else if count = 0 then .ok ({ plot with ready := true }, system)
  else
    match plot.residentLayout count with
    | .error fault => .error fault
    | .ok layout =>
      match system.request layout with
      | .error fault => .error fault
      | .ok (base, system) =>
        .ok ({ plot with ready := true, view := plot.view.withResident base layout.size }, system)

end Plot

namespace Plan

variable {σ : Type}

/-- A plan without pools, for the sources and the system of an allocator. -/
def start (allocator : Allocator σ) : Plan σ :=
  ⟨allocator.sources, allocator.system, .empty⟩

/-- Replaces what the plan knows of a pool. -/
def put (plan : Plan σ) (name : String) (plot : Plot) : Plan σ :=
  { plan with plots := plan.plots.insert name plot }

variable [BlockSource σ]

/-- Takes a block from a source. -/
def take (plan : Plan σ) (source : String) : Except Fault Nat × Plan σ :=
  match plan.sources.find? source with
  | none => (.error Allocator.absent, plan)
  | some supply =>
    match BlockSource.take supply plan.system with
    | .error fault => (.error fault, plan)
    | .ok taken => (.ok taken.block, { plan with
        sources := plan.sources.insert source taken.source
        system := taken.system })

/-- Gives a block back to a source. -/
def give (plan : Plan σ) (source : String) (block : Nat) : Except Fault Unit × Plan σ :=
  match plan.sources.find? source with
  | none => (.error Allocator.absent, plan)
  | some supply =>
    match BlockSource.give supply plan.system block with
    | .error fault => (.error fault, plan)
    | .ok (supply, system) => (.ok (), { plan with
        sources := plan.sources.insert source supply
        system := system })

/-- Gives blocks back one after the other, whatever the source says. -/
def giveAll (plan : Plan σ) (source : String) : List Nat → Plan σ
  | [] => plan
  | block :: rest => (plan.give source block).2.giveAll source rest

omit [BlockSource σ] in
/-- Sets a pool up. -/
def setUp (plan : Plan σ) (name : String) (count : Nat) : Except Fault Unit × Plan σ :=
  match plan.plots.find? name with
  | none => (.error Allocator.absent, plan)
  | some plot =>
    match plot.setUp plan.system count with
    | .error fault => (.error fault, plan)
    | .ok (plot, system) => (.ok (), { plan.put name plot with system := system })

/-- An element from the slabs the pool has, else from a new one. -/
def alloc (plan : Plan σ) (name : String) : Except Fault Nat × Plan σ :=
  match plan.plots.find? name with
  | none => (.error Allocator.absent, plan)
  | some plot =>
    if ¬ plot.ready then (.error (.notInitialized component), plan)
    else
      match plot.view.attempt with
      | some (address, view) => (.ok address, plan.put name { plot with view := view })
      | none =>
        match plan.take plot.source with
        | (.error fault, after) => (.error fault, after)
        | (.ok block, after) =>
          let (address, view) := plot.view.carve block
          (.ok address, after.put name { plot with view := view })

/-- Takes an element back, and lets the source have the block of a slab that became empty. -/
def release (plan : Plan σ) (name : String) (address : Nat) : Except Fault Unit × Plan σ :=
  match plan.plots.find? name with
  | none => (.error Allocator.absent, plan)
  | some plot =>
    match plot.view.free address with
    | .error fault => (.error fault, plan)
    | .ok (none, view) => (.ok (), plan.put name { plot with view := view })
    | .ok (some base, view) => (plan.put name { plot with view := view }).give plot.source base

/-- Ends a pool: its blocks go back, those with room first, and then its resident slab. -/
def drop (plan : Plan σ) (name : String) : Plan σ :=
  match plan.plots.find? name with
  | none => plan
  | some plot =>
    let returned := plan.giveAll plot.source (plot.view.carved.map Piece.base)
    { returned with
      system := match plot.view.resident with
        | some piece => returned.system.release piece.shape.region
        | none => returned.system
      plots := returned.plots.erase name }

/-- What an act is answered, and what it leaves. A request is one act, whether or not it
needs a block. -/
def perform (plan : Plan σ) : Act σ → Answer × Plan σ
  | .create name source blockSize elementSize _ =>
    (.silence, plan.put name (.new source blockSize elementSize))
  | .setUp name count =>
    let (outcome, after) := plan.setUp name count
    (.done outcome, after)
  | .request name =>
    let (outcome, after) := plan.alloc name
    (.handed outcome, after)
  | .release name address =>
    let (outcome, after) := plan.release name address
    (.done outcome, after)
  | .take source =>
    let (outcome, after) := plan.take source
    (.handed outcome, after)
  | .give loan =>
    let (outcome, after) := plan.give loan.source loan.region.start
    (.done outcome, after)
  | .drop name => (.silence, plan.drop name)
  | .outside other => (.silence, { plan with sources := other.sources, system := other.system })
  | .write .. | .publish _ => (.silence, plan)

end Plan

end SlabAllocator
