import SlabAllocator.Assertion
import SlabAllocator.Chart
import SlabAllocator.Text

/-! Circular doubly-linked lists threaded through their own nodes. A ring is
named by its anchor, the one spot that stays on it when it is empty; a node is
on at most one ring and can be taken off without knowing which. Where the links
are kept is left to a store, so that the nodes can be numbers with links of their
own or ranges of memory that begin with theirs. -/
namespace SlabAllocator

/-- Where a link can lead: nowhere, to the anchor of a ring, or to a node. -/
inductive Spot
  | nowhere
  | anchor (ring : Nat)
  | node (name : Nat)
  deriving DecidableEq, Repr

/-- The number under which the links of a spot are kept. -/
def Spot.key : Spot → Nat
  | nowhere => 0
  | anchor ring => 2 * ring + 1
  | node name => 2 * name + 2

theorem Spot.key_inj {first second : Spot} : first.key = second.key ↔ first = second := by
  cases first <;> cases second <;> simp [key] <;> omega

/-- What keeps the links of rings: for every spot the one after it and the one before it. -/
class LinkStore (σ : Type) where
  next : σ → Spot → Spot
  prev : σ → Spot → Spot
  setNext : σ → Spot → Spot → σ
  setPrev : σ → Spot → Spot → σ

/-- A family of rings. A node off every ring leads nowhere in both directions; the
anchor of an empty ring leads to itself. -/
structure Rings (σ : Type) where
  /-- Where the links are kept. -/
  store : σ
  /-- Nodes on rings, which bounds the length of every walk. -/
  linked : Nat

/-- Links by the key of the spot they start from. -/
structure Links where
  forward : Chart Spot
  backward : Chart Spot

instance : LinkStore Links where
  next links spot := links.forward.look spot.key
  prev links spot := links.backward.look spot.key
  setNext links here there := { links with forward := links.forward.set here.key there }
  setPrev links here there := { links with backward := links.backward.set here.key there }

namespace Rings

/-- No rings, and every node detached. -/
def empty : Rings Links :=
  ⟨⟨.whole fun _ => .nowhere, .whole fun _ => .nowhere⟩, 0⟩

variable {σ : Type} [LinkStore σ]

/-- The spot after this one. -/
def next (rings : Rings σ) (spot : Spot) : Spot :=
  LinkStore.next rings.store spot

/-- The spot before this one. -/
def prev (rings : Rings σ) (spot : Spot) : Spot :=
  LinkStore.prev rings.store spot

/-- Makes `there` the spot after `here`. -/
def setNext (rings : Rings σ) (here there : Spot) : Rings σ :=
  { rings with store := LinkStore.setNext rings.store here there }

/-- Makes `there` the spot before `here`. -/
def setPrev (rings : Rings σ) (here there : Spot) : Rings σ :=
  { rings with store := LinkStore.setPrev rings.store here there }

/-- Puts down how many nodes are on rings. -/
def setLinked (rings : Rings σ) (linked : Nat) : Rings σ :=
  { rings with linked := linked }

theorem next_setNext (rings : Rings Links) (here there spot : Spot) :
    (rings.setNext here there).next spot = if spot = here then there else rings.next spot := by
  simp only [next, setNext, LinkStore.next, LinkStore.setNext, Chart.look_set, Spot.key_inj]

theorem prev_setPrev (rings : Rings Links) (here there spot : Spot) :
    (rings.setPrev here there).prev spot = if spot = here then there else rings.prev spot := by
  simp only [prev, setPrev, LinkStore.prev, LinkStore.setPrev, Chart.look_set, Spot.key_inj]

theorem next_setPrev (rings : Rings Links) (here there spot : Spot) :
    (rings.setPrev here there).next spot = rings.next spot := rfl

theorem prev_setNext (rings : Rings Links) (here there spot : Spot) :
    (rings.setNext here there).prev spot = rings.prev spot := rfl

theorem next_setLinked (rings : Rings σ) (linked : Nat) (spot : Spot) :
    (rings.setLinked linked).next spot = rings.next spot := rfl

theorem prev_setLinked (rings : Rings σ) (linked : Nat) (spot : Spot) :
    (rings.setLinked linked).prev spot = rings.prev spot := rfl

/-- Starts an empty ring. -/
def openRing (rings : Rings σ) (ring : Nat) : Rings σ :=
  (rings.setNext (.anchor ring) (.anchor ring)).setPrev (.anchor ring) (.anchor ring)

/-- Whether a node is on some ring. -/
def isLinked (rings : Rings σ) (name : Nat) : Bool :=
  rings.next (.node name) != .nowhere

/-- The node at a spot. The anchor marks the end of a ring and is no node. -/
def nodeAt : Spot → Option Nat
  | .node name => some name
  | _ => none

/-- Whether a ring has no nodes. -/
def isEmpty (rings : Rings σ) (ring : Nat) : Bool :=
  rings.next (.anchor ring) == .anchor ring

/-- The first node of a ring. -/
def front (rings : Rings σ) (ring : Nat) : Option Nat :=
  nodeAt (rings.next (.anchor ring))

/-- The last node of a ring. -/
def back (rings : Rings σ) (ring : Nat) : Option Nat :=
  nodeAt (rings.prev (.anchor ring))

/-- The nodes met in at most `count` steps forward from a spot, up to the anchor. -/
def walk (rings : Rings σ) : Nat → Spot → List Nat
  | 0, _ => []
  | count + 1, spot =>
    match nodeAt spot with
    | none => []
    | some name => name :: walk rings count (rings.next spot)

/-- The first `count` nodes of a ring, or all if there are fewer. -/
def take (rings : Rings σ) (ring count : Nat) : List Nat :=
  rings.walk count (rings.next (.anchor ring))

/-- The nodes of a ring, front to back. -/
def toList (rings : Rings σ) (ring : Nat) : List Nat :=
  rings.take ring rings.linked

/-- The number of nodes on a ring, found by walking it. -/
def length (rings : Rings σ) (ring : Nat) : Nat :=
  (rings.toList ring).length

/-- Threads a node between two neighbouring spots. -/
def insertBetween (rings : Rings σ) (name : Nat) (before after : Spot) : Rings σ :=
  ((((rings.setPrev after (.node name)).setNext (.node name) after).setPrev
    (.node name) before).setNext before (.node name)).setLinked (rings.linked + 1)

/-- Threads a detached node at the front of a ring. -/
def pushFront (rings : Rings σ) (ring name : Nat) : Rings σ :=
  rings.insertBetween name (.anchor ring) (rings.next (.anchor ring))

/-- Threads a detached node at the back of a ring. -/
def pushBack (rings : Rings σ) (ring name : Nat) : Rings σ :=
  rings.insertBetween name (rings.prev (.anchor ring)) (.anchor ring)

/-- Takes a node off whichever ring it is on. -/
def unlink (rings : Rings σ) (name : Nat) : Rings σ :=
  let before := rings.prev (.node name)
  let after := rings.next (.node name)
  ((((rings.setPrev after before).setNext before after).setNext
    (.node name) .nowhere).setPrev (.node name) .nowhere).setLinked (rings.linked - 1)

/-- Threads a node at the front, refusing one that is on a ring already. -/
def pushFront? (rings : Rings σ) (ring name : Nat) : Except Assertion (Rings σ) :=
  if rings.isLinked name then .error .detached else .ok (rings.pushFront ring name)

/-- Threads a node at the back, refusing one that is on a ring already. -/
def pushBack? (rings : Rings σ) (ring name : Nat) : Except Assertion (Rings σ) :=
  if rings.isLinked name then .error .detached else .ok (rings.pushBack ring name)

/-- Takes a node off its ring, refusing one that is on none. -/
def unlink? (rings : Rings σ) (name : Nat) : Except Assertion (Rings σ) :=
  if rings.prev (.node name) = .nowhere ∨ rings.next (.node name) = .nowhere then .error .linked
  else .ok (rings.unlink name)

/-- Takes nodes off the front of a ring until it is empty, at most `count` of them. -/
def drain (rings : Rings σ) (ring : Nat) : Nat → Rings σ
  | 0 => rings
  | count + 1 =>
    match rings.front ring with
    | none => rings
    | some name => (rings.unlink name).drain ring count

/-- Ends a ring: its nodes are detached and its anchor leads nowhere. -/
def closeRing (rings : Rings σ) (ring : Nat) : Rings σ :=
  ((rings.drain ring rings.linked).setNext (.anchor ring) .nowhere).setPrev (.anchor ring) .nowhere

/-- A ring as a record, which shows its length. -/
def describe (rings : Rings σ) (ring : Nat) : String :=
  Text.record "List" [Text.field "len" (toString (rings.length ring))]

end Rings

end SlabAllocator
