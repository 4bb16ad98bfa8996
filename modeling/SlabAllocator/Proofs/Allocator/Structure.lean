import SlabAllocator.Proofs.Allocator.Acts
import SlabAllocator.Proofs.ElementPool.Footprint

/-! The structure of a pool, read off memory, the anchors of its rings and its index: which
slabs are listed where, and what their headers say. It is in order in every world an honest
run leads to, while blocks are on their way as well. -/
namespace SlabAllocator

namespace ElementPool

/-- Whatever moves a pool makes next, no link is found that refuses one. -/
structure Unfailing (pool : ElementPool) (memory : Memory) : Prop where
  /-- The first slab with room can be parked when it has handed its last slot out. -/
  park : ∀ base address served, (pool.rings memory).front partialRing = some base →
    Slab.alloc? memory base = some (address, served) →
    pool.park? served base = .ok (pool.park served base)
  /-- A block that was made a slab can be listed. -/
  enlist : ∀ block made address served ring,
    Slab.format? memory block pool.blockSize pool.elementSize = some made →
    Slab.alloc? made block = some (address, served) →
    pool.enlist? served ring block = .ok (pool.enlist served ring block)
  /-- A slab that had no room can go to the back of the other ring. -/
  reopen : ∀ base address transition released, pool.owner? address = some base →
    Slab.free memory base address = .ok (transition, released) →
    pool.countFree.reopen? (pool.scrub released address) base =
      .ok (pool.countFree.reopen (pool.scrub released address) base)
  /-- A slab that lost its last element can be taken off its ring. -/
  retire : ∀ base address transition released, pool.owner? address = some base →
    Slab.free memory base address = .ok (transition, released) →
    pool.countFree.retire? released base = .ok (pool.countFree.retire released base)
  /-- When the pool ends all slabs can be taken off, one after the other. -/
  drop : (pool.slabs memory).foldlM Rings.unlink? (pool.rings memory) =
    .ok ((pool.slabs memory).foldl Rings.unlink (pool.rings memory))

/-- Rings, index and headers agree with each other. -/
structure Orderly (pool : ElementPool) (memory : Memory) : Prop where
  /-- The links in memory and those of the anchor lead round the ring of slabs with room,
  forwards and backwards. -/
  roomyRing : (pool.rings memory).Joined (Rings.circuit partialRing (pool.partialSlabs memory))
  /-- So they do round the ring of slabs without room. -/
  fullRing : (pool.rings memory).Joined (Rings.circuit fullRing (pool.fullSlabs memory))
  /-- No slab is on both rings or twice on one. -/
  once : (pool.partialSlabs memory ++ pool.fullSlabs memory).Nodup
  ascending : pool.index.Pairwise (· < ·)
  /-- The index holds where the slabs on the rings end and nothing else. -/
  indexed : ∀ finish, finish ∈ pool.index ↔
    ∃ base ∈ pool.partialSlabs memory ++ pool.fullSlabs memory,
      finish = Slab.endAddress memory base
  sized : ∀ base ∈ pool.partialSlabs memory ++ pool.fullSlabs memory,
    (Slab.Header.load memory base).slabSize = pool.blockSize
  roomy : ∀ base ∈ pool.partialSlabs memory, 1 ≤ (Slab.Header.load memory base).allocated ∧
    (Slab.Header.load memory base).allocated < (Slab.Header.load memory base).maxCount
  full : ∀ base ∈ pool.fullSlabs memory,
    (Slab.Header.load memory base).allocated = (Slab.Header.load memory base).maxCount
  resident : ∀ resident ∈ pool.resident,
    resident.base ∉ pool.partialSlabs memory ++ pool.fullSlabs memory ∧
      Slab.endAddress memory resident.base ∉ pool.index
  counted : pool.slabCount = (pool.partialSlabs memory).length + (pool.fullSlabs memory).length
  /-- No carved slab is kept of which nothing is live. -/
  busy : ∀ base ∈ pool.partialSlabs memory ++ pool.fullSlabs memory,
    (Slab.Header.load memory base).allocated ≠ 0
  /-- A slab that is listed as having room hands a slot out when it is asked. -/
  served : ∀ base ∈ pool.partialSlabs memory, Slab.alloc? memory base ≠ none
  /-- A request that is not served finds no slab listed as having room, and moves none. -/
  drained : ∀ next changed, pool.attempt memory = .drained next changed →
    pool.partialSlabs memory = [] ∧ next = pool ∧ changed = memory
  unfailing : pool.Unfailing memory

namespace Shows

variable {pool : ElementPool} {memory : Memory} {view : View} {piece : Piece} {base : Nat}

/-! ## Moves -/

section moves

variable {changed : Memory} {roomy full : List Nat}

/-- A slab on a ring can be taken off, and then it can go on any. -/
private theorem moveBack?_eq (threads : Threads (pool.rings changed) roomy full)
    (member : base ∈ roomy ++ full) (ring : Nat) :
    pool.moveBack? changed ring base = .ok (pool.moveBack changed ring base) := by
  obtain ⟨off, detached⟩ := threads.unlink?_eq member
  obtain ⟨-, on⟩ := Threads.push?_eq ring detached
  unfold moveBack?
  rw [off]
  show ((pool.rings changed).unlink base).pushBack? ring base >>= _ = _
  rw [on]
  rfl

private theorem retire?_eq (threads : Threads (pool.rings changed) roomy full)
    (member : base ∈ roomy ++ full) :
    pool.retire? changed base = .ok (pool.retire changed base) := by
  unfold retire?
  rw [(threads.unlink?_eq member).1]
  rfl

/-- A header that was just written refuses no ring. -/
private theorem enlist?_eq {made served : Memory} {block address : Nat}
    (formatted : Slab.format? memory block pool.blockSize pool.elementSize = some made)
    (handed : Slab.alloc? made block = some (address, served)) (ring : Nat) :
    pool.enlist? served ring block = .ok (pool.enlist served ring block) := by
  have links : made.Agree served (Slab.linkRegion block) :=
    (Slab.alloc?_writes handed).agree (.inr (Nat.le_refl _))
  obtain ⟨on, -⟩ := Threads.push?_eq ring (detached_made formatted links)
  unfold enlist?
  rw [on]
  rfl

end moves

theorem unfailing (shows : pool.Shows memory view) : pool.Unfailing memory where
  park base address served front handed := by
    rw [shows.threads.front_partial] at front
    obtain ⟨piece, row, rfl⟩ := List.mem_map.1 (List.mem_of_head? front)
    have carved := View.carved_of_roomy row
    have member := View.mem_of_carved carved
    have inside := (Slab.alloc?_writes handed).mono
      (Slab.Holds.words_within (shows.sound.held piece member).usable)
    exact moveBack?_eq (shows.threads_of_body member inside) (mem_rows carved) fullRing
  enlist block made address served ring formatted handed := enlist?_eq formatted handed ring
  reopen base address transition released owned taken := by
    obtain ⟨listed, -, threads⟩ := shows.threads_of_free owned taken
    exact moveBack?_eq threads listed partialRing
  retire base address transition released owned taken := by
    obtain ⟨listed, threads, -⟩ := shows.threads_of_free owned taken
    exact retire?_eq threads listed
  drop := by
    have listed : pool.slabs memory = view.roomy.map Piece.base ++ view.full.map Piece.base := by
      rw [shows.slabs_eq]
      exact List.map_append
    rw [listed]
    exact shows.threads.unlinkAll?_eq shows.threads.nodup (List.Subset.refl _)

/-! ## Lists -/

theorem listed (shows : pool.Shows memory view) :
    pool.partialSlabs memory ++ pool.fullSlabs memory = view.carved.map Piece.base := by
  rw [← shows.slabs_eq]
  rfl

theorem held_of_carved (shows : pool.Shows memory view) (carved : piece ∈ view.carved) :
    piece.Held memory :=
  shows.sound.held piece (View.mem_of_carved carved)

theorem slabSize_eq (shows : pool.Shows memory view) (carved : piece ∈ view.carved) :
    (Slab.Header.load memory piece.base).slabSize = pool.blockSize := by
  rw [(shows.held_of_carved carved).load, shows.blockSize]
  exact shows.sound.sorted.blocks piece carved

theorem allocated_eq (held : piece.Held memory) :
    (Slab.Header.load memory piece.base).allocated = piece.count := by
  rw [held.load]
  rfl

theorem maxCount_eq (held : piece.Held memory) :
    (Slab.Header.load memory piece.base).maxCount = piece.capacity := by
  rw [held.load]
  rfl

theorem roomy_counts (shows : pool.Shows memory view) (known : base ∈ pool.partialSlabs memory) :
    1 ≤ (Slab.Header.load memory base).allocated ∧
      (Slab.Header.load memory base).allocated < (Slab.Header.load memory base).maxCount := by
  rw [shows.partialSlabs_eq] at known
  obtain ⟨piece, member, rfl⟩ := List.mem_map.1 known
  have held := shows.held_of_carved (View.carved_of_roomy member)
  rw [allocated_eq held, maxCount_eq held]
  exact shows.sound.sorted.roomy piece member

theorem full_counts (shows : pool.Shows memory view) (known : base ∈ pool.fullSlabs memory) :
    (Slab.Header.load memory base).allocated = (Slab.Header.load memory base).maxCount := by
  rw [shows.fullSlabs_eq] at known
  obtain ⟨piece, member, rfl⟩ := List.mem_map.1 known
  have held := shows.held_of_carved (View.carved_of_full member)
  rw [allocated_eq held, maxCount_eq held]
  exact shows.sound.sorted.full piece member

theorem mem_index (shows : pool.Shows memory view) (finish : Nat) : finish ∈ pool.index ↔
    ∃ base ∈ pool.partialSlabs memory ++ pool.fullSlabs memory,
      finish = Slab.endAddress memory base := by
  rw [shows.indexed.mem_iff, shows.listed]
  unfold View.ends Slab.endAddress
  constructor
  · intro known
    obtain ⟨piece, carved, rfl⟩ := List.mem_map.1 known
    refine ⟨piece.base, List.mem_map_of_mem carved, ?_⟩
    rw [shows.slabSize_eq carved, shows.blockSize]
  · rintro ⟨base, known, same⟩
    obtain ⟨piece, carved, rfl⟩ := List.mem_map.1 known
    rw [same, shows.slabSize_eq carved, shows.blockSize]
    exact List.mem_map_of_mem carved

/-- The resident slab neither begins nor ends where a carved one does. -/
theorem resident_unlisted (shows : pool.Shows memory view) {resident : Resident}
    (found : resident ∈ pool.resident) :
    resident.base ∉ pool.partialSlabs memory ++ pool.fullSlabs memory ∧
      Slab.endAddress memory resident.base ∉ pool.index := by
  rw [shows.resident] at found
  obtain ⟨mine, known, rfl⟩ := Option.map_eq_some_iff.1 found
  have held := shows.sound.held mine (View.mem_of_resident known)
  have size : Slab.endAddress memory mine.base = mine.shape.base + mine.shape.size := by
    unfold Slab.endAddress
    rw [held.load]
    rfl
  have different : ∀ piece ∈ view.carved, mine.base ≠ piece.base ∧
      mine.shape.base + mine.shape.size ≠ piece.shape.base + piece.shape.size := by
    intro piece carved
    have apart := shows.sound.resident_apart known carved
    exact held.usable.different_of_apart (shows.held_of_carved carved).usable apart
  constructor
  · rw [shows.listed]
    intro member
    obtain ⟨piece, carved, same⟩ := List.mem_map.1 member
    exact (different piece carved).1 same.symm
  · rw [size, shows.indexed.mem_iff]
    intro member
    obtain ⟨piece, carved, same⟩ := List.mem_map.1 member
    rw [← shows.sound.sorted.blocks piece carved] at same
    exact (different piece carved).2 same.symm

/-- A slab with room hands a slot out. -/
theorem alloc?_of_roomy (shows : pool.Shows memory view) (known : base ∈ pool.partialSlabs memory) :
    Slab.alloc? memory base ≠ none := by
  rw [shows.partialSlabs_eq] at known
  obtain ⟨piece, member, rfl⟩ := List.mem_map.1 known
  have held := shows.held_of_carved (View.carved_of_roomy member)
  cases handed : piece.alloc? with
  | none =>
    have count := held.alloc?_eq_none_iff.1 handed
    exact absurd count (Nat.ne_of_lt (shows.sound.sorted.roomy piece member).2)
  | some result =>
    obtain ⟨served, answered, -⟩ := held.alloc?_some handed
    rw [answered]
    simp

theorem drained (shows : pool.Shows memory view) {next : ElementPool} {changed : Memory}
    (nothing : pool.attempt memory = .drained next changed) :
    pool.partialSlabs memory = [] ∧ next = pool ∧ changed = memory := by
  cases served : view.attempt with
  | none =>
    rw [shows.attempt_none served] at nothing
    cases nothing
    rw [shows.partialSlabs_eq, (shows.roomy_of_attempt_none served).2]
    exact ⟨rfl, rfl, rfl⟩
  | some result =>
    obtain ⟨_, _, _, _, -, answered, -⟩ := shows.attempt_some served
    rw [answered] at nothing
    cases nothing

theorem orderly (shows : pool.Shows memory view) : pool.Orderly memory where
  roomyRing := by
    rw [shows.partialSlabs_eq]
    exact shows.threads.joined.1
  fullRing := by
    rw [shows.fullSlabs_eq]
    exact shows.threads.joined.2
  once := by
    rw [shows.partialSlabs_eq, shows.fullSlabs_eq]
    exact shows.threads.nodup
  ascending := shows.ascending
  indexed := shows.mem_index
  sized := by
    rw [shows.listed]
    intro base known
    obtain ⟨piece, carved, rfl⟩ := List.mem_map.1 known
    exact shows.slabSize_eq carved
  roomy := fun base known => shows.roomy_counts known
  full := fun base known => shows.full_counts known
  resident := fun resident found => shows.resident_unlisted found
  counted := by
    unfold slabCount
    rw [shows.indexed.length_eq, ← List.length_append, shows.listed, List.length_map]
    exact List.length_map _
  busy := by
    rw [shows.listed]
    intro base known
    obtain ⟨piece, carved, rfl⟩ := List.mem_map.1 known
    rw [allocated_eq (shows.held_of_carved carved)]
    exact Nat.ne_of_gt (shows.sound.count_pos carved)
  served := fun base known => shows.alloc?_of_roomy known
  drained := fun next changed nothing => shows.drained nothing
  unfailing := shows.unfailing

end Shows

end ElementPool

namespace World

variable {σ : Type} [BlockSource σ] {world : World σ}

/-- After every honest run, and in the middle of every request, every pool is orderly. -/
theorem pools_orderly (reachable : world.Reachable) :
    ∀ entry ∈ world.allocator.pools.entries, entry.2.pool.Orderly world.allocator.memory := by
  intro entry member
  have sound := Sound.of_reachable reachable
  obtain ⟨view, shows, -⟩ := sound.shown entry.1 entry.2 (Table.find?_of_mem sound.names member)
  exact shows.orderly

theorem pools_orderly_workday : (workshop.run workday).allocator.pools.names = ["wide", "narrow"] ∧
    ∀ entry ∈ (workshop.run workday).allocator.pools.entries,
      entry.2.pool.Orderly (workshop.run workday).allocator.memory :=
  ⟨by decide +kernel, pools_orderly workday_reachable⟩

end World

end SlabAllocator
