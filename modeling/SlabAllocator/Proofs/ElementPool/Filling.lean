import Mathlib.Algebra.Order.Floor.Div
import SlabAllocator.Proofs.ElementPool.Counters

/-! How a pool without room fills new slabs, one after the other. Each new slab takes as
many elements as a block has slots before the next block is needed, so after any number of
requests it is known how many blocks were used and which slab is in use. -/
namespace SlabAllocator.ElementPool

/-- Elements that fit in a block. -/
def slots (pool : ElementPool) : Nat :=
  pool.room / pool.elementSize

namespace View

/-- Elements that fit in a block. -/
def slots (view : View) : Nat :=
  Slab.Shape.capacity ⟨0, view.blockSize, view.elementSize⟩

/-- So many elements were handed out of new slabs since `first`, which had no room. All new
slabs are full, except for the last one if its block has slots left. -/
structure Filled (first : View) (count : Nat) (view : View) : Prop where
  blockSize : view.blockSize = first.blockSize
  elementSize : view.elementSize = first.elementSize
  busy : view.resident.bind Piece.alloc? = none
  row : first.slots ∣ count ∧ view.roomy = [] ∨
    ∃ piece, view.roomy = [piece] ∧ piece.count = count % first.slots
  carved : view.carved.length = first.carved.length + count ⌈/⌉ first.slots

/-- One element more needs one slab more exactly when all slabs are full. -/
theorem ceilDiv_succ {slots : Nat} (positive : 0 < slots) (count : Nat) :
    (count + 1) ⌈/⌉ slots = count ⌈/⌉ slots + if slots ∣ count then 1 else 0 := by
  rw [Nat.ceilDiv_eq_add_pred_div, Nat.ceilDiv_eq_add_pred_div]
  have next : count + 1 + slots - 1 = count + slots - 1 + 1 := by omega
  have last : count + slots - 1 + 1 = count + slots := by omega
  rw [next, Nat.succ_div, last]
  simp only [Nat.dvd_add_left (Nat.dvd_refl slots)]

variable {first view arranged : View} {memory changed : Memory} {piece fresh : Piece}
  {address count block : Nat}

/-- A new slab has one element and goes before the others: with those without room if its
block has no other slot. -/
theorem adopt_first (usable : (view.blank block).shape.Usable)
    (placed : view.adopt block = some (address, arranged)) :
    ∃ fresh : Piece, fresh.base = block ∧ fresh.count = 1 ∧
      (⟨block, view.blockSize⟩ : Region).contains address = true ∧
      (view.slots = 1 ∧ arranged = { view with full := fresh :: view.full } ∨
        view.slots ≠ 1 ∧ arranged = { view with roomy := fresh :: view.roomy }) := by
  obtain ⟨made, -, held, -⟩ := Slab.Holds.format? usable Memory.zeroed
  obtain ⟨fresh, handed, new⟩ := adopt_cases placed
  have shape := Piece.shape_of_alloc handed
  have single : fresh.count = 1 := (Piece.Held.alloc?_live held handed).2.2
  have capacity : fresh.capacity = view.slots := by
    have same : fresh.capacity = (view.blank block).capacity := congrArg Slab.Shape.capacity shape
    exact same
  rw [single, capacity] at new
  exact ⟨fresh, congrArg Slab.Shape.base shape, single, Piece.Held.contains_of_alloc held handed,
    new.imp (And.imp_left Eq.symm) (And.imp_left Ne.symm)⟩

namespace Filled

theorem start (busy : view.resident.bind Piece.alloc? = none) (row : view.roomy = []) :
    view.Filled 0 view :=
  ⟨rfl, rfl, busy, .inl ⟨Nat.dvd_zero _, row⟩, by rw [zero_ceilDiv, Nat.add_zero]⟩

/-- All slabs are full when the arrangement has no room. -/
theorem dvd_of_row (filled : first.Filled count view) (row : view.roomy = []) : first.slots ∣ count := by
  rcases filled.row with ⟨whole, -⟩ | ⟨piece, used, -⟩
  · exact whole
  · rw [row] at used
    cases used

/-- A slab of the pool has as many slots as every block. -/
theorem capacity_eq (filled : first.Filled count view) (sound : view.Sound memory)
    (carved : piece ∈ view.carved) : piece.capacity = first.slots := by
  have size := sound.sorted.blocks piece carved
  have width := sound.sorted.elements piece (mem_of_carved carved)
  unfold Piece.capacity slots Slab.Shape.capacity
  rw [size, width, filled.blockSize, filled.elementSize]

/-- An element more from the slab in use. -/
theorem served (filled : first.Filled count view) (sound : view.Sound memory)
    (positive : 0 < first.slots) (placed : view.Placed piece fresh address arranged) :
    first.Filled (count + 1) arranged := by
  have length := placed.length_carved
  -- The rounded quotient only grows when a new slab is begun.
  have step (part : count % first.slots ≠ 0) :
      arranged.carved.length = first.carved.length + (count + 1) ⌈/⌉ first.slots := by
    rw [length, filled.carved, ceilDiv_succ positive,
      if_neg fun whole => part (Nat.mod_eq_zero_of_dvd whole), Nat.add_zero]
  have busy := filled.busy
  -- The slab in use is the only one with room, and it is that one which is asked.
  have asked {rest : List Piece} (row : view.roomy = piece :: rest)
      (handed : piece.alloc? = some (address, fresh)) :
      rest = [] ∧ count % first.slots ≠ 0 ∧ fresh.count = count % first.slots + 1 ∧
        fresh.capacity = first.slots := by
    have member : piece ∈ view.roomy := by simp [row]
    have carved := carved_of_roomy member
    have grown := ((sound.held piece (mem_of_carved carved)).alloc?_live handed).2.2
    have some := (sound.sorted.roomy piece member).1
    have capacity : fresh.capacity = piece.capacity :=
      congrArg Slab.Shape.capacity (Piece.shape_of_alloc handed)
    rcases filled.row with ⟨-, none⟩ | ⟨used, only, counted⟩
    · rw [none] at row
      cases row
    · rw [only] at row
      cases row
      exact ⟨rfl, by omega, by omega, capacity.trans (filled.capacity_eq sound carved)⟩
  cases id placed with
  | resident found handed =>
    rw [found, Option.bind_some, handed] at busy
    cases busy
  | filled _ row handed spent =>
    obtain ⟨rfl, part, counted, capacity⟩ := asked row handed
    refine ⟨filled.blockSize, filled.elementSize, busy, .inl ⟨?_, rfl⟩, step part⟩
    rw [counted, capacity] at spent
    have split := Nat.div_add_mod count first.slots
    exact ⟨count / first.slots + 1, by rw [Nat.mul_succ]; omega⟩
  | stayed _ row handed left =>
    obtain ⟨rfl, part, counted, capacity⟩ := asked row handed
    refine ⟨filled.blockSize, filled.elementSize, busy, .inr ⟨fresh, rfl, ?_⟩, step part⟩
    rw [counted, capacity] at left
    have below := Nat.mod_lt count positive
    rw [counted, Nat.add_mod, Nat.mod_eq_of_lt (show 1 < first.slots by omega),
      Nat.mod_eq_of_lt (show count % first.slots + 1 < first.slots by omega)]

/-- An element more from a new slab, which goes before the others. -/
theorem adopted (filled : first.Filled count view) (positive : 0 < first.slots)
    (row : view.roomy = []) (usable : (view.blank block).shape.Usable)
    (placed : view.adopt block = some (address, arranged)) :
    first.Filled (count + 1) arranged := by
  have whole := filled.dvd_of_row row
  have slots : view.slots = first.slots := by
    unfold View.slots
    rw [filled.blockSize, filled.elementSize]
  have length := length_carved_of_adopt placed
  have carved : arranged.carved.length =
      first.carved.length + (count + 1) ⌈/⌉ first.slots := by
    rw [length, filled.carved, ceilDiv_succ positive, if_pos whole, Nat.add_assoc]
  -- A slab of one slot is full with its first element, any other is the one with room now.
  obtain ⟨fresh, -, single, -, ⟨one, rfl⟩ | ⟨several, rfl⟩⟩ := adopt_first usable placed
  · refine ⟨filled.blockSize, filled.elementSize, filled.busy, .inl ⟨?_, row⟩, carved⟩
    rw [← slots, one]
    exact Nat.one_dvd _
  · refine ⟨filled.blockSize, filled.elementSize, filled.busy, .inr ⟨fresh, ?_, ?_⟩, carved⟩
    · simp only [row]
    · rw [slots] at several
      rw [single, Nat.add_mod, Nat.mod_eq_zero_of_dvd whole, Nat.zero_add, Nat.mod_mod,
        Nat.mod_eq_of_lt (by omega)]

end Filled

end View

variable {pool next : ElementPool} {memory changed : Memory} {view arranged : View}
  {address block : Nat}

theorem Same.slots (same : pool.Same next) : next.slots = pool.slots := by
  unfold ElementPool.slots room
  rw [same.blockSize, same.elementSize]

theorem Shows.slots_eq (shows : pool.Shows memory view) : pool.slots = view.slots := by
  unfold ElementPool.slots View.slots room Slab.Shape.capacity
  rw [shows.blockSize, shows.elementSize]

/-- Where a new slab goes: in front of the others it is listed with. -/
theorem Shows.adopt_first (shows : pool.Shows memory view)
    (usable : (view.blank block).shape.Usable)
    (placed : view.adopt block = some (address, arranged)) (shown : next.Shows changed arranged) :
    (⟨block, pool.blockSize⟩ : Region).contains address = true ∧
      next.partialSlabs changed =
        (if pool.slots = 1 then pool.partialSlabs memory else block :: pool.partialSlabs memory) ∧
      next.fullSlabs changed =
        (if pool.slots = 1 then block :: pool.fullSlabs memory else pool.fullSlabs memory) ∧
      next.slabCount = pool.slabCount + 1 := by
  obtain ⟨fresh, rfl, -, home, new⟩ := View.adopt_first usable placed
  have more := View.length_carved_of_adopt placed
  rw [shown.partialSlabs_eq, shown.fullSlabs_eq, shown.slabCount_eq, shows.partialSlabs_eq,
    shows.fullSlabs_eq, shows.slabCount_eq, shows.slots_eq, shows.blockSize]
  refine ⟨home, ?_, ?_, more⟩
  · rcases new with ⟨one, rfl⟩ | ⟨several, rfl⟩
    · rw [if_pos one]
    · rw [if_neg several, List.map_cons]
  · rcases new with ⟨one, rfl⟩ | ⟨several, rfl⟩
    · rw [if_pos one, List.map_cons]
    · rw [if_neg several]

theorem Measured.slots_pos (measured : pool.Measured) (ready : pool.ready = true) :
    0 < pool.slots := by
  obtain ⟨positive, fits⟩ := measured.fits ready
  refine Nat.div_pos ?_ positive
  unfold room
  omega

end SlabAllocator.ElementPool
