import SlabAllocator.ElementPool
import SlabAllocator.Proofs.Frame
import SlabAllocator.Proofs.Slab.Representation

/-! Where a pool places its elements, said without memory, rings or index: a
resident slab and two rows of carved slabs, each slab a stack of slots. A request
changes at most one slab; the lemmas say which and how. -/
namespace SlabAllocator.ElementPool

/-- A slab of a pool with its slots. -/
structure Piece where
  shape : Slab.Shape
  stack : Slab.Stack
  deriving DecidableEq

namespace Piece

/-- Where a slab begins. -/
def base (piece : Piece) : Nat :=
  piece.shape.base

/-- Slots of a slab. -/
def capacity (piece : Piece) : Nat :=
  piece.shape.capacity

/-- Elements of a slab that are handed out. -/
def count (piece : Piece) : Nat :=
  piece.stack.live.card

/-- A live element of the slab begins at this address. -/
def Live (piece : Piece) (address : Nat) : Prop :=
  ∃ slot ∈ piece.stack.live, address = piece.shape.slot slot

/-- An address that was given back and waits behind another one. -/
def Hidden (piece : Piece) (address : Nat) : Prop :=
  address ∈ (piece.stack.freed.map piece.shape.slot).tail

/-- The memory holds the slab. -/
def Held (memory : Memory) (piece : Piece) : Prop :=
  Slab.Holds memory piece.shape piece.stack

/-- Hands out a slot of the slab. -/
def alloc? (piece : Piece) : Option (Nat × Piece) :=
  (piece.stack.alloc? piece.capacity).map fun (slot, stack) =>
    (piece.shape.slot slot, { piece with stack := stack })

/-- Takes a slot of the slab back. -/
def free (piece : Piece) (address : Nat) : Except Fault (Slab.Transition × Piece) :=
  (piece.stack.free piece.shape address).map fun (transition, stack) =>
    (transition, { piece with stack := stack })

variable {piece after : Piece} {address other : Nat}

theorem alloc?_cases (handed : piece.alloc? = some (address, after)) :
    ∃ slot stack, piece.stack.alloc? piece.shape.capacity = some (slot, stack) ∧
      address = piece.shape.slot slot ∧ after = ⟨piece.shape, stack⟩ := by
  unfold alloc? at handed
  cases taken : piece.stack.alloc? piece.capacity with
  | none =>
    rw [taken] at handed
    cases handed
  | some result =>
    obtain ⟨slot, stack⟩ := result
    rw [taken] at handed
    cases handed
    exact ⟨slot, stack, taken, rfl, rfl⟩

theorem free_cases {transition : Slab.Transition}
    (taken : piece.free address = .ok (transition, after)) :
    ∃ slot ∈ piece.stack.live, address = piece.shape.slot slot ∧
      after = ⟨piece.shape, piece.stack.release slot⟩ ∧
      transition = piece.stack.transition piece.shape.capacity ∧
      piece.stack.free piece.shape address = .ok (transition, piece.stack.release slot) := by
  unfold free at taken
  cases freed : piece.stack.free piece.shape address with
  | error fault =>
    rw [freed] at taken
    cases taken
  | ok result =>
    obtain ⟨found, stack⟩ := result
    rw [freed] at taken
    cases taken
    obtain ⟨slot, live, begins, rfl, same⟩ := Slab.Stack.free_cases freed
    exact ⟨slot, live, begins, rfl, same, rfl⟩

theorem shape_of_alloc (handed : piece.alloc? = some (address, after)) :
    after.shape = piece.shape := by
  obtain ⟨slot, stack, -, -, rfl⟩ := alloc?_cases handed
  rfl

theorem shape_of_free {transition : Slab.Transition}
    (taken : piece.free address = .ok (transition, after)) : after.shape = piece.shape := by
  obtain ⟨slot, -, -, rfl, -⟩ := free_cases taken
  rfl

/-- Nothing is left of a slab that lost its last element. -/
theorem not_live_of_emptied (taken : piece.free address = .ok (.emptied, after)) (other : Nat) :
    ¬ after.Live other := by
  obtain ⟨slot, live, -, rfl, emptied, -⟩ := free_cases taken
  have single : piece.stack.live.card = 1 := Slab.Stack.transition_eq_emptied_iff.1 emptied.symm
  have none : (piece.stack.release slot).live.card = 0 := by
    rw [Slab.Stack.card_release live, single]
  rintro ⟨number, member, -⟩
  exact Finset.card_ne_zero_of_mem member none

namespace Held

variable {memory : Memory}

theorem alloc?_eq_none_iff (held : piece.Held memory) :
    piece.alloc? = none ↔ piece.count = piece.capacity := by
  unfold alloc?
  rw [Option.map_eq_none_iff]
  exact held.partition.alloc?_eq_none_iff

/-- A slab hands out an address that was not live, and exactly it becomes live. -/
theorem alloc?_live (held : piece.Held memory) (handed : piece.alloc? = some (address, after)) :
    ¬ piece.Live address ∧ (∀ other, after.Live other ↔ other = address ∨ piece.Live other) ∧
      after.count = piece.count + 1 := by
  obtain ⟨slot, stack, taken, rfl, rfl⟩ := alloc?_cases handed
  obtain ⟨vacant, inside, live⟩ := held.partition.alloc?_live taken
  refine ⟨?_, fun other => ?_, ?_⟩
  · rintro ⟨same, member, equal⟩
    rw [held.usable.slot_inj] at equal
    subst equal
    exact vacant member
  · unfold Live
    simp only [live, Finset.mem_insert]
    constructor
    · rintro ⟨number, rfl | member, rfl⟩
      · exact .inl rfl
      · exact .inr ⟨number, member, rfl⟩
    · rintro (rfl | ⟨number, member, rfl⟩)
      · exact ⟨slot, .inl rfl, rfl⟩
      · exact ⟨number, .inr member, rfl⟩
  · unfold count
    simp only [live]
    exact Finset.card_insert_of_notMem vacant

/-- A slab takes back an address that was live, and exactly it stops being live. -/
theorem free_live {transition : Slab.Transition} (held : piece.Held memory)
    (taken : piece.free address = .ok (transition, after)) :
    piece.Live address ∧ (∀ other, after.Live other ↔ other ≠ address ∧ piece.Live other) ∧
      after.count + 1 = piece.count := by
  obtain ⟨slot, live, rfl, rfl, -, -⟩ := free_cases taken
  refine ⟨⟨slot, live, rfl⟩, fun other => ?_, ?_⟩
  · unfold Live Slab.Stack.release
    simp only [Finset.mem_erase]
    constructor
    · rintro ⟨number, ⟨different, member⟩, rfl⟩
      exact ⟨fun same => different (held.usable.slot_inj.1 same), number, member, rfl⟩
    · rintro ⟨different, number, member, rfl⟩
      exact ⟨number, ⟨fun same => different (congrArg _ same), member⟩, rfl⟩
  · have some : piece.stack.live.card ≠ 0 := Finset.card_ne_zero_of_mem live
    unfold count
    rw [Slab.Stack.card_release live]
    omega

theorem load (held : piece.Held memory) :
    Slab.Header.load memory piece.base = piece.shape.header piece.stack :=
  held.header

theorem freeList_eq (held : piece.Held memory) :
    Slab.freeList memory piece.base = piece.stack.freed.map piece.shape.slot :=
  Slab.Holds.freeList_eq held

theorem isSlot_iff (held : piece.Held memory) (address : Nat) :
    Slab.IsSlot memory piece.base address ↔
      ∃ slot < piece.stack.used piece.shape.capacity, address = piece.shape.slot slot :=
  Slab.Holds.isSlot_iff held address

theorem count_le (held : piece.Held memory) : piece.count ≤ piece.capacity :=
  held.partition.card_le

theorem count_of_alloc (held : piece.Held memory) (handed : piece.alloc? = some (address, after)) :
    0 < after.count ∧ after.count ≤ after.capacity := by
  have grown := (held.alloc?_live handed).2.2
  obtain ⟨slot, stack, taken, rfl, rfl⟩ := alloc?_cases handed
  exact ⟨by omega, (held.partition.alloc? taken).card_le⟩

theorem count_of_reopened (held : piece.Held memory)
    (taken : piece.free address = .ok (.reopened, after)) :
    0 < after.count ∧ after.count < after.capacity := by
  have shrunk := (held.free_live taken).2.2
  obtain ⟨slot, live, -, rfl, reopened, -⟩ := free_cases taken
  obtain ⟨full, several⟩ := Slab.Stack.transition_eq_reopened_iff.1 reopened.symm
  unfold count at shrunk ⊢
  unfold capacity
  simp only at shrunk ⊢
  omega

theorem count_of_unchanged (held : piece.Held memory)
    (taken : piece.free address = .ok (.unchanged, after)) :
    0 < after.count ∧ after.count < after.capacity := by
  have shrunk := (held.free_live taken).2.2
  have bounded := held.count_le
  obtain ⟨slot, live, -, rfl, unchanged, -⟩ := free_cases taken
  have several : piece.stack.live.card ≠ 1 := by
    intro single
    have emptied : piece.stack.transition piece.shape.capacity = .emptied :=
      Slab.Stack.transition_eq_emptied_iff.2 single
    rw [← unchanged] at emptied
    cases emptied
  unfold count at shrunk bounded ⊢
  unfold capacity at bounded ⊢
  simp only at shrunk ⊢
  omega

/-- A slot lies in its slab. -/
theorem contains_slot (held : piece.Held memory) {slot : Nat} (inside : slot < piece.capacity) :
    piece.shape.region.contains (piece.shape.slot slot) = true := by
  have behind := held.usable.header_le_slot slot
  have fits := held.usable.slot_end_le inside
  have positive := held.usable.elementSize_pos
  rw [Region.contains_iff]
  unfold Slab.Shape.region Region.finish
  simp only
  omega

/-- What a slab hands out lies in it. -/
theorem contains_of_alloc (held : piece.Held memory)
    (handed : piece.alloc? = some (address, after)) :
    piece.shape.region.contains address = true := by
  obtain ⟨slot, stack, taken, rfl, rfl⟩ := alloc?_cases handed
  exact held.contains_slot (held.partition.alloc?_live taken).2.1

theorem contains_of_live (held : piece.Held memory) (live : piece.Live address) :
    piece.shape.region.contains address = true := by
  obtain ⟨slot, member, rfl⟩ := live
  exact held.contains_slot (held.lt_capacity (held.partition.lt_used_of_live member))

end Held

end Piece

/-- A pool as an arrangement of slabs. -/
structure View where
  blockSize : Nat
  elementSize : Nat
  resident : Option Piece
  /-- Carved slabs with room, the next one to be used first. -/
  roomy : List Piece
  /-- Carved slabs without room. -/
  full : List Piece

namespace View

/-- The carved slabs, in the order in which they go back. -/
def carved (view : View) : List Piece :=
  view.roomy ++ view.full

/-- All slabs. -/
def pieces (view : View) : List Piece :=
  view.resident.toList ++ view.carved

/-- The ranges of all slabs. -/
def regions (view : View) : List Region :=
  view.pieces.map fun piece => piece.shape.region

/-- The links of the carved slabs. -/
def links (view : View) : List Region :=
  view.carved.map fun piece => Slab.linkRegion piece.base

/-- Where the carved slabs end. -/
def ends (view : View) : List Nat :=
  view.carved.map fun piece => piece.base + view.blockSize

/-- A live element of the pool begins at this address. -/
def Live (view : View) (address : Nat) : Prop :=
  ∃ piece ∈ view.pieces, piece.Live address

/-- A slot of the pool that waits behind the head of its chain begins at this address. -/
def Hidden (view : View) (address : Nat) : Prop :=
  ∃ piece ∈ view.pieces, piece.Hidden address

/-- The slab without the one that begins at `base`. -/
def without (base : Nat) (pieces : List Piece) : List Piece :=
  pieces.filter fun piece => piece.base ≠ base

/-- Puts a slab in the place of the one that begins where it does. -/
def replace (piece : Piece) (pieces : List Piece) : List Piece :=
  pieces.map fun other => if other.base = piece.base then piece else other

/-- An element from the resident slab, else from the first slab with room; a slab
that fills up goes to the back of the others. -/
def attempt (view : View) : Option (Nat × View) :=
  match view.resident.bind Piece.alloc? with
  | some (address, piece) => some (address, { view with resident := some piece })
  | none =>
    match view.roomy with
    | [] => none
    | first :: rest =>
      match first.alloc? with
      | none => none
      | some (address, piece) =>
        if piece.count = piece.capacity then
          some (address, { view with roomy := rest, full := view.full ++ [piece] })
        else some (address, { view with roomy := piece :: rest })

/-- A block as a slab of which nothing was handed out. -/
def blank (view : View) (block : Nat) : Piece :=
  let shape : Slab.Shape := ⟨block, view.blockSize, view.elementSize⟩
  ⟨shape, .fresh shape.capacity⟩

/-- The arrangement with a resident slab of which nothing was handed out. -/
def withResident (view : View) (base size : Nat) : View :=
  let shape : Slab.Shape := ⟨base, size, view.elementSize⟩
  { view with resident := some ⟨shape, .fresh shape.capacity⟩ }

/-- The arrangement with the resident slab a pool was set up with, if it was given one. -/
def equipped (view : View) : Option Resident → View
  | none => view
  | some resident => view.withResident resident.base resident.size

/-- The first element of a new slab, which goes to the front of its row. -/
def adopt (view : View) (block : Nat) : Option (Nat × View) :=
  (view.blank block).alloc?.map fun (address, piece) =>
    (address, if piece.count = piece.capacity then { view with full := piece :: view.full }
      else { view with roomy := piece :: view.roomy })

/-- What becomes of a carved slab that took an element back: the slab whose block
goes back, if it is the one, and the pool. -/
def settle (view : View) (piece : Piece) : Slab.Transition → Option Nat × View
  | .emptied => (some piece.base, { view with
      roomy := without piece.base view.roomy, full := without piece.base view.full })
  | .reopened => (none, { view with
      roomy := without piece.base view.roomy ++ [piece], full := without piece.base view.full })
  | .unchanged => (none, { view with
      roomy := replace piece view.roomy, full := replace piece view.full })

/-- Takes an element back. It belongs to the slab whose range its address lies in. -/
def free (view : View) (address : Nat) : Except Fault (Option Nat × View) :=
  match view.resident.filter fun piece => piece.shape.region.contains address with
  | some piece =>
    (piece.free address).map fun (_, piece) => (none, { view with resident := some piece })
  | none =>
    match view.carved.find? fun piece => piece.shape.region.contains address with
    | none => .error (.foreignPointer address)
    | some piece => (piece.free address).map fun (transition, piece) => view.settle piece transition

/-- Every slab has slots of the right size and is in the row it belongs in. -/
structure Sorted (view : View) : Prop where
  elements : ∀ piece ∈ view.pieces, piece.shape.elementSize = view.elementSize
  blocks : ∀ piece ∈ view.carved, piece.shape.size = view.blockSize
  roomy : ∀ piece ∈ view.roomy, 0 < piece.count ∧ piece.count < piece.capacity
  full : ∀ piece ∈ view.full, piece.count = piece.capacity

/-- The slabs are in memory where they say, apart from each other and sorted. -/
structure Sound (view : View) (memory : Memory) : Prop where
  held : ∀ piece ∈ view.pieces, piece.Held memory
  apart : view.regions.Pairwise Region.Apart
  sorted : view.Sorted

/-- The links of the two rows together. -/
theorem links_eq (view : View) :
    (view.roomy.map Piece.base ++ view.full.map Piece.base).map Slab.linkRegion = view.links := by
  rw [← List.map_append, List.map_map]
  rfl

theorem length_ends (view : View) : view.ends.length = view.carved.length :=
  List.length_map _

theorem mem_of_resident {view : View} {piece : Piece} (found : view.resident = some piece) :
    piece ∈ view.pieces :=
  List.mem_append_left _ (Option.mem_toList.2 found)

theorem mem_of_carved {view : View} {piece : Piece} (carved : piece ∈ view.carved) :
    piece ∈ view.pieces :=
  List.mem_append_right _ carved

theorem carved_of_roomy {view : View} {piece : Piece} (roomy : piece ∈ view.roomy) :
    piece ∈ view.carved :=
  List.mem_append_left _ roomy

theorem carved_of_full {view : View} {piece : Piece} (full : piece ∈ view.full) :
    piece ∈ view.carved :=
  List.mem_append_right _ full

namespace Sound

variable {view : View} {memory changed : Memory} {piece other : Piece} {address : Nat}

/-- Links are no part of what slabs say about their slots. -/
theorem relinked {links : List Region} (sound : view.Sound memory)
    (written : memory.ChangedAmong changed links)
    (apart : ∀ link ∈ links, ∀ piece ∈ view.pieces, link.Apart piece.shape.body) :
    view.Sound changed := by
  refine ⟨fun piece member => ?_, sound.apart, sound.sorted⟩
  exact Slab.Holds.of_body (sound.held piece member)
    (written.agree fun link known => apart link known piece member)

/-- The links of a slab meet what slabs say about their slots nowhere. -/
theorem link_apart (sound : view.Sound memory) (mine : piece ∈ view.pieces)
    (also : other ∈ view.pieces) : (Slab.linkRegion piece.base).Apart other.shape.body := by
  by_cases same : piece = other
  · subst same
    exact Slab.Holds.linkRegion_apart piece.shape
  · exact (Region.apart_of_mem sound.apart mine also same).within
      (Slab.Holds.linkRegion_within (sound.held piece mine).usable)
      (Slab.Holds.body_within (sound.held other also).usable)

/-- What a slab keeps behind its links is no link of a carved slab. -/
theorem body_apart (sound : view.Sound memory) (member : piece ∈ view.pieces) {link : Region}
    (known : link ∈ view.links) : link.Apart piece.shape.body := by
  obtain ⟨other, carved, rfl⟩ := List.mem_map.1 known
  exact sound.link_apart (mem_of_carved carved) member

theorem links_within (sound : view.Sound memory) {link : Region} (known : link ∈ view.links) :
    ∃ region ∈ view.regions, link.Within region := by
  obtain ⟨piece, carved, rfl⟩ := List.mem_map.1 known
  have member := mem_of_carved carved
  exact ⟨_, List.mem_map_of_mem member,
    Slab.Holds.linkRegion_within (sound.held piece member).usable⟩

theorem of_agree (sound : view.Sound memory)
    (agree : ∀ region ∈ view.regions, memory.Agree changed region) : view.Sound changed :=
  ⟨fun piece member => Slab.Holds.of_agree (sound.held piece member)
      (agree _ (List.mem_map_of_mem member)), sound.apart, sound.sorted⟩

/-- An address lies in one slab at most. -/
theorem unique (sound : view.Sound memory) (here : piece ∈ view.pieces)
    (there : other ∈ view.pieces) (inside : piece.shape.region.contains address = true)
    (also : other.shape.region.contains address = true) : piece = other := by
  apply Classical.byContradiction
  intro different
  have apart := Region.apart_of_mem sound.apart here there different
  have outside := apart.not_contains inside
  rw [also] at outside
  cases outside

/-- The resident slab is none of the carved ones. -/
theorem resident_apart (sound : view.Sound memory) (resident : view.resident = some piece)
    (carved : other ∈ view.carved) : piece.shape.region.Apart other.shape.region := by
  have apart := sound.apart
  unfold regions pieces at apart
  rw [List.map_append, List.pairwise_append] at apart
  refine apart.2.2 _ (List.mem_map_of_mem ?_) _ (List.mem_map_of_mem carved)
  rw [resident]
  exact List.mem_singleton_self _

/-- A carved slab has an element in use, whichever row it stands in. -/
theorem count_pos (sound : view.Sound memory) (carved : piece ∈ view.carved) : 0 < piece.count := by
  rcases List.mem_append.1 carved with roomy | full
  · exact (sound.sorted.roomy piece roomy).1
  · rw [sound.sorted.full piece full]
    exact (sound.held piece (mem_of_carved carved)).usable.capacity_pos

theorem exists_live (sound : view.Sound memory) (carved : piece ∈ view.carved) :
    ∃ address, piece.Live address := by
  obtain ⟨slot, alive⟩ := Finset.card_pos.1 (sound.count_pos carved)
  exact ⟨piece.shape.slot slot, slot, alive, rfl⟩

end Sound

end View

end SlabAllocator.ElementPool
