import SlabAllocator.Proofs.ElementPool.Refinement

/-! What a pool makes of an arbitrary address that is given back. The address is
looked for among the slots that were handed out at some time; nothing is asked of
whoever gives it back, so a slot that waits behind the head of its chain is covered
as well and is accepted. -/
namespace SlabAllocator.ElementPool

/-- A slot of the pool that was handed out at some time begins at this address. -/
def IsSlot (pool : ElementPool) (memory : Memory) (address : Nat) : Prop :=
  ∃ base ∈ pool.bases, Slab.IsSlot memory base address

/-- The address is seen to have been given back before: it is the head of the chain of
a slab, or a slot of the resident slab while nothing of that slab is handed out. -/
def Repeats (pool : ElementPool) (memory : Memory) (address : Nat) : Prop :=
  (∃ base ∈ pool.bases, (Slab.Header.load memory base).freeHead = address) ∨
    ∃ resident ∈ pool.resident, Slab.IsSlot memory resident.base address ∧
      (Slab.Header.load memory resident.base).allocated = 0

/-- How an address can fail to be a slot of the pool. -/
inductive Stray (pool : ElementPool) (memory : Memory) (address : Nat) : Prop
  /-- It lies in no slab of the pool. -/
  | outside (missed : ∀ slab ∈ pool.regions, slab.contains address = false)
  /-- It lies in the header of a slab or in the slack before its first slot. -/
  | early {base : Nat} (held : base ∈ pool.bases) (low : base ≤ address)
    (below : address < base + (Slab.Header.load memory base).firstOffset)
  /-- It lies inside a slot. -/
  | between {base : Nat} (held : base ∈ pool.bases)
    (low : base + (Slab.Header.load memory base).firstOffset ≤ address)
    (high : address < base + (Slab.Header.load memory base).slabSize)
    (uneven : (address - (base + (Slab.Header.load memory base).firstOffset)) %
      (Slab.Header.load memory base).elementSize ≠ 0)
  /-- It lies past the slots that were handed out, where the slab ends at most. -/
  | late {base : Nat} (held : base ∈ pool.bases)
    (low : base + (Slab.Header.load memory base).nextOffset ≤ address)
    (high : address ≤ base + (Slab.Header.load memory base).slabSize)

/-- Two states of a pool differ in the slab at `base` at most: every other slab is on
the ring it was on. -/
structure DiffersAt (before after : InMemory) (base : Nat) : Prop where
  resident : after.resident = before.resident
  roomy : ∀ other, other ≠ base →
    (other ∈ after.partialSlabs after.memory ↔ other ∈ before.partialSlabs before.memory)
  full : ∀ other, other ≠ base →
    (other ∈ after.fullSlabs after.memory ↔ other ∈ before.fullSlabs before.memory)

namespace Piece.Held

variable {memory : Memory} {piece : Piece} {address : Nat}

theorem contains_of_slot (held : piece.Held memory)
    (slot : Slab.IsSlot memory piece.base address) :
    piece.shape.region.contains address = true := by
  obtain ⟨number, used, rfl⟩ := (held.isSlot_iff address).1 slot
  exact held.contains_slot (held.lt_capacity used)

/-- The head of a chain is a slot that was handed out. -/
theorem slot_of_head (held : piece.Held memory) (present : address ≠ 0)
    (head : (Slab.Header.load memory piece.base).freeHead = address) :
    Slab.IsSlot memory piece.base address := by
  rw [held.load] at head
  rw [held.isSlot_iff]
  -- Only an empty free list has a zero head, and zero is no address.
  cases freed : piece.stack.freed with
  | nil =>
    have none : (piece.shape.header piece.stack).freeHead = 0 := by
      unfold Slab.Shape.header
      rw [freed]
      rfl
    exact absurd (head.symm.trans none) present
  | cons number rest =>
    have first : (piece.shape.header piece.stack).freeHead = piece.shape.slot number := by
      unfold Slab.Shape.header
      rw [freed]
      rfl
    exact ⟨number, held.partition.lt_used_of_freed (by simp [freed]), head.symm.trans first⟩

end Piece.Held

namespace Shows

variable {pool : ElementPool} {memory : Memory} {view : View} {piece : Piece} {address : Nat}

/-- A slot of the pool is a slot of the slab its address lies in. -/
theorem isSlot_iff (shows : pool.Shows memory view) (member : piece ∈ view.pieces)
    (inside : piece.shape.region.contains address = true) :
    pool.IsSlot memory address ↔ Slab.IsSlot memory piece.base address := by
  unfold IsSlot
  constructor
  · rintro ⟨base, known, slot⟩
    obtain ⟨other, beside, rfl⟩ := shows.piece_of_base known
    have also := (shows.sound.held other beside).contains_of_slot slot
    rwa [shows.sound.unique member beside inside also]
  · exact fun slot => ⟨piece.base, shows.base_of_piece member, slot⟩

theorem slot_owner (shows : pool.Shows memory view) (slot : pool.IsSlot memory address) :
    ∃ piece ∈ view.pieces, piece.shape.region.contains address = true ∧
      Slab.IsSlot memory piece.base address := by
  obtain ⟨base, known, slot⟩ := slot
  obtain ⟨piece, member, rfl⟩ := shows.piece_of_base known
  exact ⟨piece, member, (shows.sound.held piece member).contains_of_slot slot, slot⟩

/-- Where one slab ends no slot begins, even when the next slab begins there. -/
theorem end_not_slot (shows : pool.Shows memory view) (member : piece ∈ view.pieces) :
    ¬ pool.IsSlot memory piece.shape.region.finish := by
  intro slot
  obtain ⟨other, beside, -, slot⟩ := shows.slot_owner slot
  have heldOther := shows.sound.held other beside
  obtain ⟨number, used, same⟩ := (Slab.Holds.isSlot_iff heldOther _).1 slot
  have behind := heldOther.usable.header_le_slot number
  have fits := heldOther.usable.slot_end_le (heldOther.lt_capacity used)
  have positive := heldOther.usable.elementSize_pos
  -- A slot ends inside its slab: its own slab cannot have one at its end, and another slab with one
  -- there would have its header in this one.
  by_cases equal : piece = other
  · subst equal
    unfold Slab.Shape.region Region.finish at same
    simp only at same
    omega
  · have apart := Region.apart_of_mem shows.sound.apart member beside equal
    have room : Slab.headerBytes = 64 := rfl
    unfold Region.Apart Slab.Shape.region Region.finish at apart
    unfold Slab.Shape.region Region.finish at same
    simp only at apart same
    omega

/-- A slot that lies in a slab of the pool is a slot of that slab. -/
theorem slot_within {base : Nat} (shows : pool.Shows memory view) (known : base ∈ pool.bases)
    (low : base ≤ address) (high : address < base + (Slab.Header.load memory base).slabSize)
    (slot : pool.IsSlot memory address) : Slab.IsSlot memory base address := by
  obtain ⟨piece, member, rfl⟩ := shows.piece_of_base known
  have held := shows.sound.held piece member
  refine (shows.isSlot_iff member ?_).1 slot
  rw [held.load] at high
  exact (Region.contains_iff _ _).2 ⟨low, high⟩

theorem not_slot_of_stray (shows : pool.Shows memory view) (stray : pool.Stray memory address) :
    ¬ pool.IsSlot memory address := by
  intro slot
  cases stray with
  | outside missed =>
    obtain ⟨piece, member, inside, -⟩ := shows.slot_owner slot
    rw [missed _ (shows.region_of_piece member)] at inside
    cases inside
  | @early base known low below =>
    have ends : (Slab.Header.load memory base).firstOffset ≤
        (Slab.Header.load memory base).slabSize := Nat.sub_le _ _
    have high := Nat.lt_of_lt_of_le below (Nat.add_le_add_left ends base)
    have here := shows.slot_within known low high slot
    exact Nat.not_le.2 below here.1
  | between known low high uneven =>
    have here := shows.slot_within known (Nat.le_trans (Nat.le_add_right _ _) low) high slot
    exact uneven here.2.2
  | late known low high =>
    -- The end of a slab is outside it, and the next slab may begin there with its header.
    rcases Nat.lt_or_eq_of_le high with inside | same
    · have here := shows.slot_within known (Nat.le_trans (Nat.le_add_right _ _) low) inside slot
      exact Nat.not_lt.2 low here.2.1
    · obtain ⟨piece, member, rfl⟩ := shows.piece_of_base known
      rw [(shows.sound.held piece member).load] at same
      rw [same] at slot
      exact shows.end_not_slot member slot

theorem stray_of_not_slot (shows : pool.Shows memory view)
    (unknown : ¬ pool.IsSlot memory address) : pool.Stray memory address := by
  by_cases missed : ∀ slab ∈ pool.regions, slab.contains address = false
  · exact .outside missed
  · simp only [not_forall, Bool.not_eq_false] at missed
    obtain ⟨slab, mine, inside⟩ := missed
    obtain ⟨piece, member, rfl⟩ := shows.piece_of_region mine
    have known := shows.base_of_piece member
    have here := fun slot => unknown ((shows.isSlot_iff member inside).2 slot)
    obtain ⟨low, high⟩ := (Region.contains_iff _ _).1 inside
    have high : address < piece.base + (Slab.Header.load memory piece.base).slabSize := by
      rw [(shows.sound.held piece member).load]
      exact high
    -- Inside a slab an address is before the first slot, past the last one used, or between two.
    by_cases below : address < piece.base + (Slab.Header.load memory piece.base).firstOffset
    · exact .early known low below
    · by_cases unused : piece.base + (Slab.Header.load memory piece.base).nextOffset ≤ address
      · exact .late known unused (Nat.le_of_lt high)
      · refine .between known (Nat.not_lt.1 below) high fun even => here ?_
        exact ⟨Nat.not_lt.1 below, Nat.not_le.1 unused, even⟩

/-- The addresses that stray are those that are no slot. -/
theorem stray_iff (shows : pool.Shows memory view) :
    pool.Stray memory address ↔ ¬ pool.IsSlot memory address :=
  ⟨shows.not_slot_of_stray, shows.stray_of_not_slot⟩

/-- What was seen to be given back before was handed out before. -/
theorem slot_of_repeats (shows : pool.Shows memory view) (present : address ≠ 0)
    (repeats : pool.Repeats memory address) : pool.IsSlot memory address := by
  rcases repeats with ⟨base, known, head⟩ | ⟨resident, found, slot, -⟩
  · refine ⟨base, known, ?_⟩
    obtain ⟨piece, member, rfl⟩ := shows.piece_of_base known
    exact (shows.sound.held piece member).slot_of_head present head
  · refine ⟨resident.base, ?_, slot⟩
    unfold bases
    rw [show pool.resident = some resident from found]
    exact List.mem_cons_self

/-- An address that repeats does so in the slab it lies in. -/
theorem repeats_iff (shows : pool.Shows memory view) (present : address ≠ 0)
    (member : piece ∈ view.pieces) (slot : Slab.IsSlot memory piece.base address) :
    pool.Repeats memory address ↔ (Slab.Header.load memory piece.base).freeHead = address ∨
      view.resident = some piece ∧ (Slab.Header.load memory piece.base).allocated = 0 := by
  have inside := (shows.sound.held piece member).contains_of_slot slot
  unfold Repeats
  constructor
  · rintro (⟨base, known, head⟩ | ⟨resident, found, also, none⟩)
    · obtain ⟨other, beside, rfl⟩ := shows.piece_of_base known
      have held := shows.sound.held other beside
      have same := shows.sound.unique member beside inside
        (held.contains_of_slot (held.slot_of_head present head))
      rw [same]
      exact .inl head
    · rw [shows.resident] at found
      obtain ⟨other, known, rfl⟩ := Option.map_eq_some_iff.1 found
      have beside : other ∈ view.pieces := View.mem_of_resident known
      have same := shows.sound.unique member beside inside
        ((shows.sound.held other beside).contains_of_slot also)
      rw [same]
      exact .inr ⟨known, none⟩
  · rintro (head | ⟨resident, none⟩)
    · exact .inl ⟨piece.base, shows.base_of_piece member, head⟩
    · refine .inr ⟨⟨piece.base, piece.shape.size⟩, ?_, slot, none⟩
      rw [shows.resident, resident]
      rfl

/-- An address that is no slot is foreign, wherever it lies. -/
theorem free_foreign (shows : pool.Shows memory view) (unknown : ¬ pool.IsSlot memory address) :
    pool.free memory address = .error (.foreignPointer address) := by
  have piecewise {piece : Piece} (member : piece ∈ view.pieces)
      (inside : piece.shape.region.contains address = true) :
      pool.free memory address = .error (.foreignPointer address) := by
    have held := shows.sound.held piece member
    refine shows.free_refused member inside (Slab.Holds.free_foreign held fun slot => unknown ?_)
    rw [shows.isSlot_iff member inside]
    exact (Slab.Holds.isSlot_iff held address).2 slot
  rcases view.free_located address with ⟨piece, resident, inside, -⟩ | ⟨piece, carved, inside, -⟩ |
    ⟨outside, -⟩
  · exact piecewise (View.mem_of_resident resident) inside
  · exact piecewise (View.mem_of_carved carved) inside
  · exact shows.free_outside outside

/-- An address that repeats is freed twice. -/
theorem free_doubleFree (shows : pool.Shows memory view) (present : address ≠ 0)
    (repeats : pool.Repeats memory address) :
    pool.free memory address = .error (.doubleFree address) := by
  obtain ⟨piece, member, inside, slot⟩ := shows.slot_owner (shows.slot_of_repeats present repeats)
  have held := shows.sound.held piece member
  refine shows.free_refused member inside
    (Slab.Holds.free_repeated held ((Slab.Holds.isSlot_iff held address).1 slot) ?_)
  rcases (shows.repeats_iff present member slot).1 repeats with head | ⟨-, none⟩
  · rw [held.load] at head
    exact .inr head.symm
  · rw [held.load] at none
    exact .inl (Finset.card_eq_zero.1 none)

variable {changed : Memory} {base : Nat}

/-- What changes of both rings when a slab takes an element back: only the place of the slab. -/
private theorem differsAt_of_rows {placed : InMemory} {roomy full : List Nat}
    (shows : pool.Shows memory view) (resident : placed.resident = pool.resident)
    (threads : Threads (placed.rings placed.memory) roomy full)
    (enough : roomy.length + full.length ≤ placed.index.length)
    (first : ∀ other, other ≠ base → (other ∈ roomy ↔ other ∈ view.roomy.map Piece.base))
    (second : ∀ other, other ≠ base → (other ∈ full ↔ other ∈ view.full.map Piece.base)) :
    DiffersAt ⟨pool, memory⟩ placed base := by
  obtain ⟨some, none⟩ := lists_of_threads placed threads enough
  refine ⟨resident, fun other different => ?_, fun other different => ?_⟩
  · show _ ↔ other ∈ pool.partialSlabs memory
    rw [some, shows.partialSlabs_eq]
    exact first other different
  · show _ ↔ other ∈ pool.fullSlabs memory
    rw [none, shows.fullSlabs_eq]
    exact second other different

/-- A slab that stays where it is leaves the others where they are. -/
theorem stayed_differsAt (shows : pool.Shows memory view) (member : piece ∈ view.pieces)
    (inside : memory.ChangedWithin changed piece.shape.body) :
    DiffersAt ⟨pool, memory⟩ ⟨pool.countFree, changed⟩ piece.base := by
  have counted := shows.countFree
  refine shows.differsAt_of_rows pool.recounted_countFree.resident
    (counted.threads_of_body member inside) ?_ (fun _ _ => .rfl) fun _ _ => .rfl
  show _ ≤ pool.countFree.index.length
  rw [List.length_map, List.length_map, counted.length_index]

/-- A slab that leaves its ring leaves the others where they are. -/
theorem retire_differsAt (shows : pool.Shows memory view) (carved : piece ∈ view.carved)
    (inside : memory.ChangedWithin changed piece.shape.body) :
    DiffersAt ⟨pool, memory⟩ (pool.countFree.retire changed piece.base) piece.base := by
  have counted := shows.countFree
  have threads := counted.threads_of_body (View.mem_of_carved carved) inside
  have member := mem_rows carved
  exact shows.differsAt_of_rows pool.recounted_countFree.resident
    ((threads.unlink member).threads.of_agree rfl fun _ _ => .of_eq rfl _)
    (counted.length_retire member changed)
    (fun other different => List.mem_erase_of_ne different)
    fun other different => List.mem_erase_of_ne different

/-- A slab that moves to the other ring leaves the others where they are. -/
theorem reopen_differsAt (shows : pool.Shows memory view) (carved : piece ∈ view.carved)
    (inside : memory.ChangedWithin changed piece.shape.body) :
    DiffersAt ⟨pool, memory⟩ (pool.countFree.reopen changed piece.base) piece.base := by
  have counted := shows.countFree
  have threads := counted.threads_of_body (View.mem_of_carved carved) inside
  have member := mem_rows carved
  refine shows.differsAt_of_rows pool.recounted_countFree.resident
    (threads_relinked _ (threads.reopen member).threads) ?_ (fun other different => ?_)
    fun other different => List.mem_erase_of_ne different
  · have fewer := Threads.length_erase_lt member
    rw [List.length_map, List.length_map] at fewer
    show _ ≤ pool.countFree.index.length
    rw [counted.length_index, List.length_append, List.length_singleton]
    omega
  · rw [List.mem_append, List.mem_singleton, or_iff_left different,
      List.mem_erase_of_ne different]

/-- Any other slot that was handed out is taken back, even one that waits in the chain,
and nothing but the slab it belongs to and links of carved slabs change. -/
theorem free_accepted (shows : pool.Shows memory view) (present : address ≠ 0)
    (member : piece ∈ view.pieces) (slot : Slab.IsSlot memory piece.base address)
    (first : ¬ pool.Repeats memory address) :
    ∃ freed, pool.free memory address = .ok freed ∧
      memory.ChangedAmong freed.memory (piece.shape.region :: view.links) ∧
      DiffersAt ⟨pool, memory⟩ ⟨freed.pool, freed.memory⟩ piece.base ∧
      ∀ base ∈ freed.retired, base = piece.base ∧ base ∈ pool.slabs memory := by
  have held := shows.sound.held piece member
  have inside := held.contains_of_slot slot
  rw [shows.repeats_iff present member slot, not_or, not_and] at first
  obtain ⟨behind, occupied⟩ := first
  obtain ⟨number, used, rfl⟩ := (Slab.Holds.isSlot_iff held address).1 slot
  have width : piece.shape.elementSize = pool.elementSize := by
    rw [shows.elementSize]
    exact shows.sound.sorted.elements piece member
  have plain := held.released_within used (.refl _ _)
  have scrubbed := held.released_within used (width ▸ changedWithin_scrub pool _ _)
  have stayed := shows.stayed_differsAt member scrubbed
  have within := shows.changed_relinked member scrubbed (.refl _ _)
  rw [held.load] at behind occupied
  have answered (some : piece.stack.live ≠ ∅) : Slab.free memory piece.base _ = _ :=
    Slab.Holds.free_accepted held ⟨number, used, rfl⟩ some fun same => behind same.symm
  -- Only the resident slab may be empty; a carved one that is listed has a live slot.
  rcases List.mem_append.1 member with resident | carved
  · rw [Option.mem_toList] at resident
    have answered := answered fun empty => occupied resident (Finset.card_eq_zero.2 empty)
    rw [shows.free_resident resident inside, freeResident_kept answered]
    exact ⟨_, rfl, within, stayed, by simp⟩
  · have answered := answered fun empty => by
      have none : piece.count = 0 := Finset.card_eq_zero.2 empty
      exact absurd none (Nat.ne_of_gt (shows.sound.count_pos carved))
    have known := shows.mem_slabs carved
    rw [shows.free_carved carved inside]
    cases kind : piece.stack.transition piece.shape.capacity with
    | emptied =>
      rw [kind] at answered
      rw [freeCarved_emptied answered]
      have threads := shows.countFree.threads_of_body member plain
      have relinked := (threads.unlink (mem_rows carved)).changed
      rw [View.links_eq] at relinked
      refine ⟨_, rfl, shows.changed_relinked member plain relinked,
        shows.retire_differsAt carved plain, ?_⟩
      rintro base ⟨⟩
      exact ⟨rfl, known⟩
    | reopened =>
      rw [kind] at answered
      rw [freeCarved_reopened answered]
      have threads := shows.countFree.threads_of_body member scrubbed
      have relinked := (threads.reopen (mem_rows carved)).changed
      rw [View.links_eq] at relinked
      exact ⟨_, rfl, shows.changed_relinked member scrubbed relinked,
        shows.reopen_differsAt carved scrubbed, by simp⟩
    | unchanged =>
      rw [kind] at answered
      rw [freeCarved_stayed answered]
      exact ⟨_, rfl, within, stayed, by simp⟩

end Shows

end SlabAllocator.ElementPool
