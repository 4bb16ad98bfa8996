import SlabAllocator.Memory
import SlabAllocator.Ring

/-! The links of the two rings of a pool. The slabs on a ring are linked through
memory: each begins with two words that lead to the slab after and the slab before it.
The anchors of the rings are apart from the memory slabs are made of and belong
to the pool. -/
namespace SlabAllocator

/-- How a link is stored. A slab is named by where it begins, and no link is
zero; the anchors stand at the top of the address range, where nothing begins. -/
def Spot.word : Spot → Nat
  | nowhere => 0
  | anchor ring => wordLimit - 1 - ring
  | node name => name

namespace ElementPool

/-- The ring of carved slabs with room. -/
def partialRing : Nat := 0

/-- The ring of carved slabs without room. -/
def fullRing : Nat := 1

/-- Where a stored link leads. -/
@[irreducible] def spotOfWord (word : Nat) : Spot :=
  if word = 0 then .nowhere
  else if word = (Spot.anchor partialRing).word then .anchor partialRing
  else if word = (Spot.anchor fullRing).word then .anchor fullRing
  else .node word

/-- The links of an anchor. -/
structure Sentinel where
  next : Spot
  prev : Spot
  deriving DecidableEq, Repr

/-- The anchors of both rings of a pool. -/
structure Sentinels where
  roomy : Sentinel
  full : Sentinel
  deriving DecidableEq, Repr

namespace Sentinels

/-- The anchors of two rings without slabs. -/
def empty : Sentinels :=
  ⟨⟨.anchor partialRing, .anchor partialRing⟩, ⟨.anchor fullRing, .anchor fullRing⟩⟩

/-- The anchor of a ring. -/
def ofRing (sentinels : Sentinels) (ring : Nat) : Sentinel :=
  if ring = partialRing then sentinels.roomy else sentinels.full

/-- Changes the anchor of a ring. -/
def change (sentinels : Sentinels) (ring : Nat) (edit : Sentinel → Sentinel) : Sentinels :=
  if ring = partialRing then { sentinels with roomy := edit sentinels.roomy }
  else { sentinels with full := edit sentinels.full }

end Sentinels

/-- The links of anchors and slabs. -/
structure Threading where
  sentinels : Sentinels
  memory : Memory

namespace Threading

instance : LinkStore Threading where
  next threading
    | .nowhere => .nowhere
    | .anchor ring => (threading.sentinels.ofRing ring).next
    | .node base => spotOfWord (threading.memory.word base)
  prev threading
    | .nowhere => .nowhere
    | .anchor ring => (threading.sentinels.ofRing ring).prev
    | .node base => spotOfWord (threading.memory.word (base + 8))
  setNext threading here there :=
    match here with
    | .nowhere => threading
    | .anchor ring =>
      let sentinels := threading.sentinels.change ring fun sentinel => { sentinel with next := there }
      { threading with sentinels := sentinels }
    | .node base => { threading with memory := threading.memory.setWord base there.word }
  setPrev threading here there :=
    match here with
    | .nowhere => threading
    | .anchor ring =>
      let sentinels := threading.sentinels.change ring fun sentinel => { sentinel with prev := there }
      { threading with sentinels := sentinels }
    | .node base => { threading with memory := threading.memory.setWord (base + 8) there.word }

variable (rings : Rings Threading) (ring base : Nat) (there : Spot)

@[simp] theorem next_anchor :
    rings.next (.anchor ring) = (rings.store.sentinels.ofRing ring).next := rfl

@[simp] theorem prev_anchor :
    rings.prev (.anchor ring) = (rings.store.sentinels.ofRing ring).prev := rfl

@[simp] theorem next_node :
    rings.next (.node base) = spotOfWord (rings.store.memory.word base) := rfl

@[simp] theorem prev_node :
    rings.prev (.node base) = spotOfWord (rings.store.memory.word (base + 8)) := rfl

@[simp] theorem setNext_anchor : (rings.setNext (.anchor ring) there).store =
    ⟨rings.store.sentinels.change ring fun sentinel => { sentinel with next := there },
      rings.store.memory⟩ := rfl

@[simp] theorem setPrev_anchor : (rings.setPrev (.anchor ring) there).store =
    ⟨rings.store.sentinels.change ring fun sentinel => { sentinel with prev := there },
      rings.store.memory⟩ := rfl

@[simp] theorem setNext_node : (rings.setNext (.node base) there).store =
    ⟨rings.store.sentinels, rings.store.memory.setWord base there.word⟩ := rfl

@[simp] theorem setPrev_node : (rings.setPrev (.node base) there).store =
    ⟨rings.store.sentinels, rings.store.memory.setWord (base + 8) there.word⟩ := rfl

end Threading

end ElementPool

end SlabAllocator
