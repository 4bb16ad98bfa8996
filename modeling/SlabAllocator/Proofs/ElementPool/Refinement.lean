import SlabAllocator.Proofs.ElementPool.Calls
import SlabAllocator.Proofs.ElementPool.Moves
import SlabAllocator.Proofs.ElementPool.Threads

/-! A pool behaves as its arrangement of slabs. `Shows` ties the two together:
the rings hold the two rows, the index the ends of the carved slabs, and memory
the slabs themselves. There is one lemma for each thing a pool does. -/
namespace SlabAllocator.ElementPool

namespace Piece.Held

variable {memory changed : Memory} {piece fresh : Piece} {address : Nat}

theorem alloc?_none (held : piece.Held memory) (nothing : piece.alloc? = none) :
    Slab.alloc? memory piece.base = none := by
  unfold Piece.alloc? at nothing
  rw [Option.map_eq_none_iff] at nothing
  exact Slab.Holds.alloc?_none held nothing

/-- What a slab hands out in memory, and what it writes: nothing of its links. -/
theorem alloc?_some (held : piece.Held memory) (handed : piece.alloc? = some (address, fresh)) :
    ∃ served, Slab.alloc? memory piece.base = some (address, served) ∧ fresh.Held served ∧
      memory.ChangedWithin served piece.shape.body := by
  obtain ⟨slot, stack, taken, rfl, rfl⟩ := alloc?_cases handed
  obtain ⟨served, kept⟩ := Slab.Holds.alloc?_some held taken
  exact ⟨_, served, kept, ((piece.shape.header stack).changedWithin_words _ _).mono
    (Slab.Holds.words_within held.usable)⟩

theorem header_isFull (held : piece.Held memory) :
    (Slab.Header.load memory piece.base).isFull = true ↔ piece.count = piece.capacity := by
  rw [held.load]
  exact beq_iff_eq

/-- What becomes of an address that is given back, unless it waits in the chain. -/
theorem free_eq (held : piece.Held memory) (visible : ¬ piece.Hidden address) :
    Slab.free memory piece.base address = (piece.free address).map fun (transition, _) =>
      (transition, Slab.Holds.released memory piece.shape piece.stack address) := by
  unfold Piece.free Piece.base
  rw [Slab.Holds.free_eq held visible]
  cases piece.stack.free piece.shape address <;> rfl

/-- Taking a slot back, and filling it behind its link, writes nothing but the slab behind
its links. -/
theorem released_within {number : Nat} (held : piece.Held memory)
    (used : number < piece.stack.used piece.shape.capacity) {scrubbed : Memory}
    (written : (Slab.Holds.released memory piece.shape piece.stack
      (piece.shape.slot number)).ChangedWithin scrubbed
      ⟨piece.shape.slot number + wordBytes, piece.shape.elementSize - wordBytes⟩) :
    memory.ChangedWithin scrubbed piece.shape.body := by
  have fits := held.usable.slot_end_le (held.lt_capacity used)
  have behind := held.usable.header_le_slot number
  have wide := held.usable.wide
  have room := held.usable.room
  intro other outside
  unfold Region.finish Slab.Shape.body at outside
  unfold Slab.headerBytes at behind room
  simp only at outside
  refine (written other ?_).trans (Slab.Holds.released_byte memory _ _ ?_ ?_)
  · unfold Region.finish
    simp only
    omega
  · omega
  · omega

/-- A slab that took an element back. The element can be filled behind its link. -/
theorem released {transition : Slab.Transition} (held : piece.Held memory)
    (taken : piece.free address = .ok (transition, fresh)) {scrubbed : Memory}
    (written : (Slab.Holds.released memory piece.shape piece.stack address).ChangedWithin scrubbed
      ⟨address + wordBytes, piece.shape.elementSize - wordBytes⟩) :
    fresh.Held scrubbed ∧ memory.ChangedWithin scrubbed piece.shape.body := by
  obtain ⟨slot, live, rfl, rfl, -, -⟩ := free_cases taken
  refine ⟨?_, held.released_within (held.partition.lt_used_of_live live) written⟩
  exact (Slab.Holds.release held live).write_behind_link ⟨Nat.le_refl _, Nat.le_refl _⟩ written

end Piece.Held

/-- Slabs that are apart have links that can be told apart. -/
theorem View.Sound.spaced {view : View} {memory : Memory} (sound : view.Sound memory) :
    Spaced (view.roomy.map Piece.base ++ view.full.map Piece.base) := by
  rw [← List.map_append]
  constructor
  · intro base known
    obtain ⟨piece, carved, rfl⟩ := List.mem_map.1 known
    obtain ⟨placed, bounded, wide, -, -, room⟩ := (sound.held piece (View.mem_of_carved carved)).usable
    unfold Slab.headerBytes at room
    unfold Piece.base
    omega
  · intro base known other also different
    obtain ⟨piece, carved, rfl⟩ := List.mem_map.1 known
    obtain ⟨beside, carvedToo, rfl⟩ := List.mem_map.1 also
    have apart := Region.apart_of_mem sound.apart (View.mem_of_carved carved)
      (View.mem_of_carved carvedToo) fun same => different (by rw [same])
    exact apart.within
      (Slab.Holds.linkRegion_within (sound.held piece (View.mem_of_carved carved)).usable)
      (Slab.Holds.linkRegion_within (sound.held beside (View.mem_of_carved carvedToo)).usable)

/-- The rings a move has led to are the rings of the pool it leads to. -/
theorem threads_relinked (pool : ElementPool) {rings : Rings Threading} {roomy full : List Nat}
    (threads : Threads rings roomy full) :
    Threads ((pool.relinked rings).rings (pool.relinked rings).memory) roomy full :=
  threads.of_agree rfl fun _ _ => .of_eq rfl _

/-- What a pool reads from rings that hold these slabs, if the index counts them all. -/
theorem lists_of_threads (placed : InMemory) {roomy full : List Nat}
    (threads : Threads (placed.rings placed.memory) roomy full)
    (enough : roomy.length + full.length ≤ placed.index.length) :
    placed.partialSlabs placed.memory = roomy ∧ placed.fullSlabs placed.memory = full :=
  ⟨threads.toList_partial (Nat.le_trans (Nat.le_add_right _ _) enough),
    threads.toList_full (Nat.le_trans (Nat.le_add_left _ _) enough)⟩

/-- The pool, in this memory, is arranged as `view` says. -/
structure Shows (pool : ElementPool) (memory : Memory) (view : View) : Prop where
  blockSize : pool.blockSize = view.blockSize
  elementSize : pool.elementSize = view.elementSize
  resident : pool.resident = view.resident.map fun piece => ⟨piece.base, piece.shape.size⟩
  idle : pool.ready = false → view.resident = none
  threads : Threads (pool.rings memory) (view.roomy.map Piece.base) (view.full.map Piece.base)
  ascending : pool.index.Pairwise (· < ·)
  indexed : pool.index.Perm view.ends
  sound : view.Sound memory

/-- Where the carved slabs begin, by the index. -/
def blocks (pool : ElementPool) : List Nat :=
  pool.index.map fun finish => finish - pool.blockSize

/-- Where the slabs of a pool begin, the resident slab first. -/
def bases (pool : ElementPool) : List Nat :=
  (pool.resident.map Resident.base).toList ++ pool.blocks

/-- The ranges of all slabs of a pool. -/
def regions (pool : ElementPool) : List Region :=
  (pool.resident.map Resident.region).toList ++ pool.blocks.map fun base => ⟨base, pool.blockSize⟩

/-- The links of the slabs on the rings of a pool. -/
def links (pool : ElementPool) (memory : Memory) : List Region :=
  (pool.slabs memory).map Slab.linkRegion

theorem shows_new (blockSize elementSize : Nat) (config : Config) (memory : Memory) :
    (ElementPool.new blockSize elementSize config).Shows memory
      ⟨blockSize, roundUpToWord elementSize, none, [], []⟩ where
  blockSize := rfl
  elementSize := rfl
  resident := rfl
  idle := fun _ => rfl
  threads := .empty memory 0
  ascending := List.Pairwise.nil
  indexed := .refl _
  sound := ⟨by simp [View.pieces, View.carved], List.Pairwise.nil,
    by simp [View.pieces, View.carved], by simp [View.carved], by simp, by simp⟩

namespace Shows

variable {pool : ElementPool} {memory changed : Memory} {view after : View} {piece : Piece}
  {address block : Nat}

theorem threads_of_agree (shows : pool.Shows memory view)
    (agree : ∀ piece ∈ view.carved, memory.Agree changed (Slab.linkRegion piece.base)) :
    Threads (pool.rings changed) (view.roomy.map Piece.base) (view.full.map Piece.base) := by
  refine shows.threads.of_agree rfl fun base known => ?_
  rw [← List.map_append] at known
  obtain ⟨piece, carved, rfl⟩ := List.mem_map.1 known
  exact agree piece carved

theorem of_agree (shows : pool.Shows memory view)
    (agree : ∀ region ∈ view.regions, memory.Agree changed region) : pool.Shows changed view :=
  { shows with
    threads := shows.threads_of_agree fun piece carved =>
      (agree _ (List.mem_map_of_mem (View.mem_of_carved carved))).mono
        (Slab.Holds.linkRegion_within (shows.sound.held piece (View.mem_of_carved carved)).usable)
    sound := shows.sound.of_agree agree }

/-- Links stand at the front of headers, which are nobody's element. -/
theorem link_of_reserved (shows : pool.Shows memory view) (member : piece ∈ view.pieces)
    (agree : ∀ region ∈ Slab.reserved memory piece.base, memory.Agree changed region) :
    memory.Agree changed (Slab.linkRegion piece.base) := by
  have header := ((shows.sound.held piece member).mem_reserved _).2 (.inl rfl)
  exact (agree _ header).mono (Slab.links_within_header piece.base)

/-- A pool is arranged as it was as long as what is nobody's element is. -/
theorem of_reserved (shows : pool.Shows memory view)
    (agree : ∀ piece ∈ view.pieces, ∀ region ∈ Slab.reserved memory piece.base,
      memory.Agree changed region) : pool.Shows changed view := by
  refine { shows with
    threads := shows.threads_of_agree fun piece carved => ?_
    sound := ⟨fun piece member => (shows.sound.held piece member).of_reserved (agree piece member),
      shows.sound.apart, shows.sound.sorted⟩ }
  have member := View.mem_of_carved carved
  exact shows.link_of_reserved member (agree piece member)

/-- Links are as they were when a slab was written behind its own. -/
theorem threads_of_body (shows : pool.Shows memory view) (member : piece ∈ view.pieces)
    (written : memory.ChangedWithin changed piece.shape.body) :
    Threads (pool.rings changed) (view.roomy.map Piece.base) (view.full.map Piece.base) :=
  shows.threads_of_agree fun _ carved =>
    written.agree (shows.sound.link_apart (View.mem_of_carved carved) member).symm

theorem length_index (shows : pool.Shows memory view) :
    pool.index.length = view.roomy.length + view.full.length := by
  rw [shows.indexed.length_eq, View.length_ends]
  exact List.length_append

/-- When a slab goes the index still counts all the others. -/
theorem length_retire {base : Nat} (shows : pool.Shows memory view)
    (known : base ∈ view.roomy.map Piece.base ++ view.full.map Piece.base) (changed : Memory) :
    ((view.roomy.map Piece.base).erase base).length +
      ((view.full.map Piece.base).erase base).length ≤
        (pool.retire changed base).index.length := by
  have fewer := Threads.length_erase_lt known
  rw [List.length_map, List.length_map, ← shows.length_index] at fewer
  have erased : pool.index.length ≤ (pool.index.erase (base + pool.blockSize)).length + 1 := by
    rw [List.length_erase]
    split <;> omega
  show _ ≤ (pool.index.erase (base + pool.blockSize)).length
  omega

private theorem lists_eq (shows : pool.Shows memory view) :
    pool.partialSlabs memory = view.roomy.map Piece.base ∧
      pool.fullSlabs memory = view.full.map Piece.base := by
  refine lists_of_threads ⟨pool, memory⟩ shows.threads ?_
  show _ ≤ pool.index.length
  rw [List.length_map, List.length_map, shows.length_index]

theorem partialSlabs_eq (shows : pool.Shows memory view) :
    pool.partialSlabs memory = view.roomy.map Piece.base :=
  shows.lists_eq.1

theorem fullSlabs_eq (shows : pool.Shows memory view) :
    pool.fullSlabs memory = view.full.map Piece.base :=
  shows.lists_eq.2

theorem slabs_eq (shows : pool.Shows memory view) :
    pool.slabs memory = view.carved.map Piece.base := by
  unfold slabs View.carved
  rw [shows.partialSlabs_eq, shows.fullSlabs_eq, List.map_append]

theorem links_eq (shows : pool.Shows memory view) : pool.links memory = view.links := by
  unfold links View.links
  rw [shows.slabs_eq, List.map_map]
  rfl

/-- The index tells where the slabs on the rings begin. -/
theorem blocks_perm (shows : pool.Shows memory view) :
    pool.blocks.Perm (view.carved.map Piece.base) := by
  unfold blocks
  refine (shows.indexed.map _).trans (.of_eq ?_)
  unfold View.ends
  rw [List.map_map, shows.blockSize]
  exact List.map_congr_left fun piece _ => Nat.add_sub_cancel piece.base view.blockSize

theorem bases_perm (shows : pool.Shows memory view) :
    pool.bases.Perm (view.pieces.map Piece.base) := by
  unfold bases View.pieces
  rw [shows.resident, List.map_append]
  have same : (Option.map Resident.base (view.resident.map fun piece =>
      ⟨piece.base, piece.shape.size⟩)).toList = view.resident.toList.map Piece.base := by
    cases view.resident <;> rfl
  rw [same]
  exact shows.blocks_perm.append_left _

theorem regions_perm (shows : pool.Shows memory view) : pool.regions.Perm view.regions := by
  unfold regions View.regions View.pieces
  rw [shows.resident, shows.blockSize, List.map_append]
  have same : (Option.map Resident.region (view.resident.map fun piece =>
      ⟨piece.base, piece.shape.size⟩)).toList =
        view.resident.toList.map fun piece => piece.shape.region := by
    cases view.resident <;> rfl
  rw [same]
  refine List.Perm.append_left _ ((shows.blocks_perm.map _).trans (.of_eq ?_))
  rw [List.map_map]
  refine List.map_congr_left fun piece member => ?_
  rw [← shows.sound.sorted.blocks piece member]
  rfl

theorem mem_rows (carved : piece ∈ view.carved) :
    piece.base ∈ view.roomy.map Piece.base ++ view.full.map Piece.base := by
  rw [← List.map_append]
  exact List.mem_map_of_mem carved

theorem mem_slabs (shows : pool.Shows memory view) (carved : piece ∈ view.carved) :
    piece.base ∈ pool.slabs memory := by
  rw [shows.slabs_eq]
  exact List.mem_map_of_mem carved

theorem base_of_piece (shows : pool.Shows memory view) (member : piece ∈ view.pieces) :
    piece.base ∈ pool.bases := by
  rw [shows.bases_perm.mem_iff]
  exact List.mem_map_of_mem member

theorem piece_of_base (shows : pool.Shows memory view) {base : Nat} (known : base ∈ pool.bases) :
    ∃ piece ∈ view.pieces, piece.base = base := by
  rw [shows.bases_perm.mem_iff] at known
  exact List.mem_map.1 known

theorem region_of_piece (shows : pool.Shows memory view) (member : piece ∈ view.pieces) :
    piece.shape.region ∈ pool.regions := by
  rw [shows.regions_perm.mem_iff]
  exact List.mem_map_of_mem member

theorem piece_of_region (shows : pool.Shows memory view) {slab : Region}
    (mine : slab ∈ pool.regions) : ∃ piece ∈ view.pieces, piece.shape.region = slab := by
  rw [shows.regions_perm.mem_iff] at mine
  exact List.mem_map.1 mine

/-- An owner writes into an element and into nothing else. -/
theorem write_live {region : Region} (shows : pool.Shows memory view) (live : view.Live address)
    (within : region.Within ⟨address, view.elementSize⟩)
    (written : memory.ChangedWithin changed region) : pool.Shows changed view := by
  obtain ⟨sound, piece, member, inside⟩ := shows.sound.write_live live within written
  exact { shows with threads := shows.threads_of_body member inside, sound := sound }

/-- Counters are no part of an arrangement. -/
theorem recounted {next : ElementPool} (shows : pool.Shows memory view)
    (counted : pool.Recounted next) : next.Shows memory view where
  blockSize := counted.blockSize.trans shows.blockSize
  elementSize := counted.elementSize.trans shows.elementSize
  resident := counted.resident.trans shows.resident
  idle := fun unready => shows.idle (counted.ready.symm.trans unready)
  threads := by
    unfold rings
    rw [counted.sentinels, counted.index]
    exact shows.threads
  ascending := by
    rw [counted.index]
    exact shows.ascending
  indexed := by
    rw [counted.index]
    exact shows.indexed
  sound := shows.sound

theorem countAlloc (shows : pool.Shows memory view) : pool.countAlloc.Shows memory view :=
  shows.recounted pool.recounted_countAlloc

theorem countFree (shows : pool.Shows memory view) : pool.countFree.Shows memory view :=
  shows.recounted pool.recounted_countFree

theorem changedWithin_fillFresh (pool : ElementPool) (memory : Memory) (address : Nat) :
    memory.ChangedWithin (pool.fillFresh memory address) ⟨address, pool.elementSize⟩ := by
  unfold fillFresh
  cases pool.config.allocPattern with
  | none => exact .refl _ _
  | some pattern => exact Memory.changedWithin_paint _ _ _ _

theorem changedWithin_scrub (pool : ElementPool) (memory : Memory) (address : Nat) :
    memory.ChangedWithin (pool.scrub memory address)
      ⟨address + wordBytes, pool.elementSize - wordBytes⟩ := by
  unfold scrub
  cases pool.config.deallocPattern with
  | none => exact .refl _ _
  | some pattern => exact Memory.changedWithin_paint _ _ _ _

/-! ## Handing out -/

theorem resident_busy (shows : pool.Shows memory view)
    (busy : view.resident.bind Piece.alloc? = none) : pool.Spent memory := by
  unfold Spent
  rw [shows.resident]
  cases found : view.resident with
  | none => rfl
  | some piece =>
    have held := shows.sound.held piece (View.mem_of_resident found)
    rw [found, Option.bind_some] at busy
    rw [Option.map_some, Option.bind_some]
    exact held.alloc?_none busy

/-- The arrangement hands out nothing only if no carved slab has room. -/
theorem roomy_of_attempt_none (shows : pool.Shows memory view) (nothing : view.attempt = none) :
    view.resident.bind Piece.alloc? = none ∧ view.roomy = [] := by
  unfold View.attempt at nothing
  cases busy : view.resident.bind Piece.alloc? with
  | some result =>
    rw [busy] at nothing
    cases nothing
  | none =>
    refine ⟨rfl, ?_⟩
    rw [busy] at nothing
    simp only at nothing
    cases row : view.roomy with
    | nil => rfl
    | cons first rest =>
      rw [row] at nothing
      simp only at nothing
      -- A slab in the row of those with room cannot refuse.
      have held := shows.sound.held first (by simp [View.pieces, View.carved, row])
      have room := shows.sound.sorted.roomy first (by simp [row])
      cases handed : first.alloc? with
      | none => exact absurd (held.alloc?_eq_none_iff.1 handed) (Nat.ne_of_lt room.2)
      | some result =>
        rw [handed] at nothing
        simp only at nothing
        split at nothing <;> cases nothing

/-- No slab with room is listed, and the resident slab is full or missing. -/
theorem attempt_eq_none (shows : pool.Shows memory view) (row : pool.partialSlabs memory = [])
    (busy : ∀ resident ∈ pool.resident,
      (Slab.Header.load memory resident.base).isFull = true) : view.attempt = none := by
  have roomy : view.roomy = [] := by
    rw [shows.partialSlabs_eq] at row
    exact List.map_eq_nil_iff.1 row
  have resident : view.resident.bind Piece.alloc? = none := by
    cases found : view.resident with
    | none => rfl
    | some piece =>
      have held := shows.sound.held piece (View.mem_of_resident found)
      have known : (⟨piece.base, piece.shape.size⟩ : Resident) ∈ pool.resident := by
        rw [shows.resident, found]
        rfl
      have full := busy _ known
      exact held.alloc?_eq_none_iff.2 (held.header_isFull.1 full)
  unfold View.attempt
  rw [resident, roomy]

/-- Nothing is handed out and nothing moves when the arrangement has no room. -/
theorem attempt_none (shows : pool.Shows memory view) (nothing : view.attempt = none) :
    pool.attempt memory = .drained pool memory := by
  obtain ⟨busy, row⟩ := shows.roomy_of_attempt_none nothing
  refine attempt_exhausted (shows.resident_busy busy) ?_
  rw [shows.threads.front_partial, row]
  rfl

theorem front_eq {rest : List Piece} (shows : pool.Shows memory view)
    (row : view.roomy = piece :: rest) :
    (pool.rings memory).front partialRing = some piece.base := by
  rw [shows.threads.front_partial, row]
  rfl

/-- The pool hands out the address the arrangement says, and writes nothing but the
slab it comes from and links of carved slabs. -/
theorem attempt_some (shows : pool.Shows memory view)
    (attempted : view.attempt = some (address, after)) :
    ∃ piece fresh next changed, View.Placed view piece fresh address after ∧
      pool.attempt memory = .served address next changed ∧ next.Shows changed after ∧
      memory.ChangedAmong changed (piece.shape.region :: view.links) := by
  obtain ⟨piece, fresh, placed⟩ := View.attempt_placed attempted
  have held := shows.sound.held piece placed.mem
  have shape := Piece.shape_of_alloc placed.handed
  have same : fresh.base = piece.base := congrArg Slab.Shape.base shape
  obtain ⟨served, answered, kept, inside⟩ := held.alloc?_some placed.handed
  have whole := inside.mono (Slab.Holds.body_within held.usable)
  have sound := placed.sound shows.sound kept whole
  have threads := shows.threads_of_body placed.mem inside
  have indexed := shows.indexed.trans placed.ends.symm
  have full : (Slab.Header.load served piece.base).isFull = true ↔ fresh.count = fresh.capacity :=
    same ▸ kept.header_isFull
  -- Once links are in order, the element is filled.
  have finish : ∀ {next : ElementPool} {linked : Memory}, next.Shows linked after →
      served.ChangedAmong linked view.links →
      next.countAlloc.Shows (pool.fillFresh linked address) after ∧
        memory.ChangedAmong (pool.fillFresh linked address) (piece.shape.region :: view.links) := by
    intro next linked arranged relinked
    have live : after.Live address := ((placed.live shows.sound).2 address).2 (.inl rfl)
    have fills := changedWithin_fillFresh pool linked address
    have element := placed.element_within shows.sound
    rw [← shows.elementSize] at element
    have size : pool.elementSize = after.elementSize := by
      rw [shows.elementSize, placed.elementSize]
    refine ⟨(arranged.write_live live (size ▸ .refl _) fills).countAlloc, ?_⟩
    exact (whole.among List.mem_cons_self).trans
      ((relinked.of_subset (List.subset_cons_self _ _)).trans
        ((fills.mono element).among List.mem_cons_self))
  -- One case for each place the element can come from; the rings follow the rows in each.
  cases id placed with
  | resident found handed =>
    have mine : pool.resident = some ⟨piece.base, piece.shape.size⟩ := by
      rw [shows.resident, found]
      rfl
    have arranged : pool.Shows served { view with resident := some fresh } := by
      refine ⟨shows.blockSize, shows.elementSize, ?_, ?_, threads, shows.ascending, indexed, sound⟩
      · rw [shows.resident, found, Option.map_some, Option.map_some, same, shape]
      · intro idle
        rw [shows.idle idle] at found
        cases found
    obtain ⟨shown, written⟩ := finish arranged (.refl _ _)
    exact ⟨piece, fresh, pool.countAlloc, _, placed, attempt_resident mine answered, shown, written⟩
  | @filled rest busy row handed spent =>
    have known : piece.base ∈ view.roomy.map Piece.base ++ view.full.map Piece.base := by
      simp [row]
    obtain ⟨moved, relinked⟩ := threads.park known
    rw [View.links_eq] at relinked
    rw [row, List.map_cons] at moved threads
    obtain ⟨first, second⟩ := threads.erase_head
    have arranged : (pool.park served piece.base).toElementPool.Shows
        (pool.park served piece.base).memory
        { view with roomy := rest, full := view.full ++ [fresh] } := by
      refine ⟨shows.blockSize, shows.elementSize, shows.resident, shows.idle, ?_,
        shows.ascending, indexed, sound.relinked relinked fun link mine other member => ?_⟩
      · rw [first, second] at moved
        rw [List.map_append, List.map_cons, List.map_nil, same]
        exact threads_relinked pool moved
      · obtain ⟨old, known, shape⟩ := placed.shape_of_mem member
        rw [shape]
        exact shows.sound.body_apart known mine
    obtain ⟨shown, written⟩ := finish arranged relinked
    exact ⟨piece, fresh, _, _, placed, attempt_parked (shows.resident_busy busy)
      (shows.front_eq row) answered (full.2 spent), shown, written⟩
  | @stayed rest busy row handed left =>
    have room := Bool.eq_false_iff.2 (mt full.1 left)
    have arranged : pool.Shows served { view with roomy := fresh :: rest } := by
      refine ⟨shows.blockSize, shows.elementSize, shows.resident, shows.idle, ?_,
        shows.ascending, indexed, sound⟩
      rw [row, List.map_cons] at threads
      rw [List.map_cons, same]
      exact threads
    obtain ⟨shown, written⟩ := finish arranged (.refl _ _)
    exact ⟨piece, fresh, pool.countAlloc, _, placed, attempt_carved (shows.resident_busy busy)
      (shows.front_eq row) answered room, shown, written⟩

/-! ## New slabs -/

/-- A block that cannot be a slab is left alone. -/
theorem adopt?_none (shows : pool.Shows memory view) (placed : 0 < block)
    (bounded : block + view.blockSize < wordLimit)
    (unfit : ¬ (view.blank block).shape.Usable) : pool.adopt? memory block = none := by
  refine adopt?_unfit ?_
  rw [shows.blockSize, shows.elementSize]
  cases formatted : Slab.format? memory block view.blockSize view.elementSize with
  | none => rfl
  | some made =>
    have usable : (view.blank block).shape.Usable :=
      Slab.Holds.usable_of_format? placed bounded formatted
    exact absurd usable unfit

theorem end_not_mem (shows : pool.Shows memory view) (usable : (view.blank block).shape.Usable)
    (apart : ∀ region ∈ view.regions, (view.blank block).shape.region.Apart region) :
    block + view.blockSize ∉ pool.index := by
  rw [shows.indexed.mem_iff]
  unfold View.ends
  rw [List.mem_map]
  rintro ⟨piece, member, same⟩
  have inside := View.mem_of_carved member
  have size := shows.sound.sorted.blocks piece member
  have beside := apart _ (List.mem_map_of_mem inside)
  have different := usable.different_of_apart (shows.sound.held piece inside).usable beside
  rw [size] at different
  exact different.2 same.symm

theorem base_not_mem (shows : pool.Shows memory view) (usable : (view.blank block).shape.Usable)
    (apart : ∀ region ∈ view.regions, (view.blank block).shape.region.Apart region) :
    block ∉ view.roomy.map Piece.base ++ view.full.map Piece.base := by
  have fresh := shows.end_not_mem usable apart
  rw [shows.indexed.mem_iff] at fresh
  rw [← List.map_append]
  intro member
  obtain ⟨piece, carved, rfl⟩ := List.mem_map.1 member
  exact fresh (List.mem_map.2 ⟨piece, carved, rfl⟩)

end Shows

/-- A new end is added to the index and nothing else. -/
theorem perm_insertEnd {finish : Nat} {index : List Nat} (absent : finish ∉ index) :
    (insertEnd finish index).Perm (finish :: index) := by
  induction index with
  | nil => exact .refl _
  | cons head rest ih =>
    rw [List.mem_cons, not_or] at absent
    unfold insertEnd
    rw [if_neg absent.1]
    split
    · exact .refl _
    · exact ((ih absent.2).cons head).trans (.swap _ _ _)

/-- A pool with a block more, which is listed at the front of a ring. -/
def withSlab (pool : ElementPool) (served : Memory) (block ring : Nat) : ElementPool :=
  { (pool.enlist served ring block).toElementPool with
    index := insertEnd (block + pool.blockSize) pool.index
    carvedBytes := pool.carvedBytes + pool.blockSize }

theorem adopt?_eq {pool : ElementPool} {memory made served : Memory} {address block : Nat}
    (formatted : Slab.format? memory block pool.blockSize pool.elementSize = some made)
    (answered : Slab.alloc? made block = some (address, served))
    (size : (Slab.Header.load served block).slabSize = pool.blockSize) :
    pool.adopt? memory block =
      let header := Slab.Header.load served block
      let ring := if header.isFull then fullRing else partialRing
      some ⟨address, (pool.withSlab served block ring).countAlloc,
        pool.fillFresh (pool.enlist served ring block).memory address, block + pool.blockSize,
        header.maxCount⟩ := by
  rw [adopt?_made formatted answered]
  simp only [Slab.endAddress, size, withSlab]

namespace Shows

variable {pool : ElementPool} {memory : Memory} {view : View} {block : Nat}

/-- The first element of a usable block. -/
theorem blank_alloc? (usable : (view.blank block).shape.Usable) :
    ∃ address fresh, (view.blank block).alloc? = some (address, fresh) := by
  have vacant : (view.blank block).stack.alloc? (view.blank block).capacity ≠ none := by
    have partition := Slab.Stack.partition_fresh (view.blank block).shape.capacity
    intro none
    exact Nat.ne_of_lt usable.capacity_pos (partition.alloc?_eq_none_iff.1 none)
  obtain ⟨⟨slot, stack⟩, taken⟩ := Option.ne_none_iff_exists'.1 vacant
  refine ⟨(view.blank block).shape.slot slot, ⟨(view.blank block).shape, stack⟩, ?_⟩
  unfold Piece.alloc?
  rw [taken]
  rfl

/-- A block that was just made a slab has been threaded nowhere yet. -/
theorem detached_made {made served : Memory}
    (formatted : Slab.format? memory block pool.blockSize pool.elementSize = some made)
    (links : made.Agree served (Slab.linkRegion block)) :
    Threads.Detached (pool.rings served) block := by
  obtain ⟨forward, backward⟩ := Slab.links_format? formatted
  obtain ⟨first, second⟩ := Slab.link_words links
  have nothing : spotOfWord 0 = .nowhere := by
    unfold spotOfWord
    rfl
  constructor
  · rw [Threading.next_node, show (pool.rings served).store.memory = served from rfl,
      first, forward, nothing]
  · rw [Threading.prev_node, show (pool.rings served).store.memory = served from rfl,
      second, backward, nothing]

/-- A new slab is listed, and links are all that is written for it. -/
private theorem enlisted {served : Memory} {after : View} {address ring : Nat}
    (shows : pool.Shows served view) (adopted : view.adopt block = some (address, after))
    (sound : after.Sound served) (absent : block + pool.blockSize ∉ pool.index)
    (move : Spaced (block :: (view.roomy.map Piece.base ++ view.full.map Piece.base)) →
      Moved (block :: (view.roomy.map Piece.base ++ view.full.map Piece.base))
        (pool.rings served) ((pool.rings served).pushFront ring block)
        (after.roomy.map Piece.base) (after.full.map Piece.base)) :
    (pool.withSlab served block ring).Shows (pool.enlist served ring block).memory after ∧
      served.ChangedAmong (pool.enlist served ring block).memory
        (Slab.linkRegion block :: view.links) := by
  have spaced : Spaced (block :: (view.roomy.map Piece.base ++ view.full.map Piece.base)) := by
    obtain ⟨piece, -, based, -, carved⟩ := View.adopt_carved adopted
    have bases := carved.map Piece.base
    rw [List.map_cons, show piece.base = block from congrArg Slab.Shape.base based] at bases
    refine sound.spaced.subset fun base known => ?_
    rw [← List.map_append] at known ⊢
    exact bases.mem_iff.2 known
  have links := View.adopt_links adopted
  obtain ⟨threads, relinked⟩ := move spaced
  rw [List.map_cons, View.links_eq] at relinked
  have indexed : (insertEnd (block + pool.blockSize) pool.index).Perm after.ends := by
    rw [shows.blockSize] at absent ⊢
    exact ((perm_insertEnd absent).trans (shows.indexed.cons _)).trans
      (View.adopt_ends adopted).symm
  have resident := View.adopt_resident adopted
  refine ⟨⟨shows.blockSize.trans (View.adopt_blockSize adopted).symm,
    shows.elementSize.trans (View.adopt_elementSize adopted).symm, resident ▸ shows.resident,
    resident ▸ shows.idle, ?_, insertEnd_pairwise _ shows.ascending, indexed, ?_⟩, relinked⟩
  · exact threads.of_agree rfl fun _ _ => .of_eq rfl _
  · exact sound.relinked relinked fun link mine piece member =>
      sound.body_apart member (links.mem_iff.2 mine)

/-- The first element of a new slab is filled when the slab is linked, whichever ring it is on. -/
private theorem first_filled {made served : Memory} {after : View} {fresh : Piece}
    {address ring : Nat} (shows : pool.Shows memory view)
    (usable : (view.blank block).shape.Usable) (held : (view.blank block).Held made)
    (apart : ∀ region ∈ view.regions, (view.blank block).shape.region.Apart region)
    (handed : (view.blank block).alloc? = some (address, fresh))
    (adopted : view.adopt block = some (address, after))
    (whole : memory.ChangedWithin served (view.blank block).shape.region)
    (linked : (pool.withSlab served block ring).Shows (pool.enlist served ring block).memory after)
    (relinked : served.ChangedAmong (pool.enlist served ring block).memory
      (Slab.linkRegion block :: view.links)) :
    (pool.withSlab served block ring).countAlloc.Shows
        (pool.fillFresh (pool.enlist served ring block).memory address) after ∧
      memory.ChangedAmong (pool.fillFresh (pool.enlist served ring block).memory address)
        ((view.blank block).shape.region :: view.links) := by
  have live := ((View.adopt_live adopted shows.sound held apart).2 address).2 (.inl rfl)
  have fills := changedWithin_fillFresh pool (pool.enlist served ring block).memory address
  have width : pool.elementSize = after.elementSize := by
    rw [shows.elementSize, View.adopt_elementSize adopted]
  have element : Region.Within ⟨address, pool.elementSize⟩ (view.blank block).shape.region := by
    rw [shows.elementSize]
    exact View.blank_within usable held handed
  have own : (Slab.linkRegion block).Within (view.blank block).shape.region :=
    Slab.Holds.linkRegion_within usable
  constructor
  · rw [width] at fills
    exact (linked.write_live live (.refl _) fills).countAlloc
  · have links : served.ChangedAmong (pool.enlist served ring block).memory
        ((view.blank block).shape.region :: view.links) := by
      refine relinked.mono fun link mine => ?_
      rcases List.mem_cons.1 mine with rfl | old
      · exact ⟨_, List.mem_cons_self, own⟩
      · exact ⟨link, List.mem_cons_of_mem _ old, .refl _⟩
    exact (whole.among List.mem_cons_self).trans
      (links.trans ((fills.mono element).among List.mem_cons_self))

/-- A usable block becomes a slab that hands out its first element, and memory changes in the
block and in links of carved slabs only. -/
theorem adopt?_some (shows : pool.Shows memory view) (usable : (view.blank block).shape.Usable)
    (apart : ∀ region ∈ view.regions, (view.blank block).shape.region.Apart region) :
    ∃ adopted after made, pool.adopt? memory block = some adopted ∧
      view.adopt block = some (adopted.address, after) ∧ adopted.pool.Shows adopted.memory after ∧
      memory.ChangedAmong adopted.memory ((view.blank block).shape.region :: view.links) ∧
      (view.blank block).Held made := by
  obtain ⟨made, formatted, held, first⟩ := Slab.Holds.format? usable memory
  obtain ⟨address, fresh, handed⟩ := blank_alloc? usable
  have shape := Piece.shape_of_alloc handed
  have same : fresh.base = block := congrArg Slab.Shape.base shape
  have absent := shows.base_not_mem usable apart
  have unindexed := shows.end_not_mem usable apart
  rw [← shows.blockSize] at unindexed
  obtain ⟨served, answered, kept, inside⟩ := Piece.Held.alloc?_some held handed
  have whole : memory.ChangedWithin served (view.blank block).shape.region :=
    (first.mono (Slab.Holds.header_within usable)).trans
      (inside.mono (Slab.Holds.body_within usable))
  have shown := shows.of_agree fun region mine => whole.agree (apart region mine)
  have full := kept.header_isFull
  rw [same] at full
  have size : (Slab.Header.load served block).slabSize = pool.blockSize := by
    have header := congrArg Slab.Header.slabSize kept.header
    rw [shape] at header
    exact header.trans shows.blockSize.symm
  have formats : Slab.format? memory block pool.blockSize pool.elementSize = some made := by
    rw [shows.blockSize, shows.elementSize]
    exact formatted
  have computed := adopt?_eq formats answered size
  simp only at computed
  have detached : Threads.Detached (pool.rings served) block :=
    detached_made formats (inside.agree (Slab.Holds.linkRegion_apart (view.blank block).shape).symm)
  have sound : ∀ {after : View}, view.adopt block = some (address, after) → after.Sound served :=
    fun adopted => View.adopt_sound adopted shows.sound held (fun other also => by
      rw [handed] at also
      cases also
      exact kept) whole apart
  by_cases spent : fresh.count = fresh.capacity
  · have adopted : view.adopt block = some (address, { view with full := fresh :: view.full }) := by
      unfold View.adopt
      simp only [handed, Option.map_some, spent, ↓reduceIte]
    rw [if_pos (full.2 spent)] at computed
    obtain ⟨linked, relinked⟩ := shown.enlisted adopted (sound adopted) unindexed fun spaced => by
      rw [List.map_cons, same]
      exact shown.threads.pushFront_full absent spaced detached
    obtain ⟨arranged, written⟩ :=
      shows.first_filled usable held apart handed adopted whole linked relinked
    exact ⟨_, _, made, computed, adopted, arranged, written, held⟩
  · have adopted :
        view.adopt block = some (address, { view with roomy := fresh :: view.roomy }) := by
      unfold View.adopt
      simp only [handed, Option.map_some, spent, ↓reduceIte]
    rw [if_neg fun isFull => spent (full.1 isFull)] at computed
    obtain ⟨linked, relinked⟩ := shown.enlisted adopted (sound adopted) unindexed fun spaced => by
      rw [List.map_cons, same]
      exact shown.threads.pushFront_roomy absent spaced detached
    obtain ⟨arranged, written⟩ :=
      shows.first_filled usable held apart handed adopted whole linked relinked
    exact ⟨_, _, made, computed, adopted, arranged, written, held⟩

/-! ## Whose element it is -/

variable {changed : Memory} {after : View} {piece : Piece} {address : Nat}

private theorem find_first {index : List Nat} {finish : Nat} (ascending : index.Pairwise (· < ·))
    (member : finish ∈ index) (above : address < finish)
    (first : ∀ other ∈ index, other < finish → other ≤ address) :
    index.find? (fun other => address < other) = some finish := by
  obtain ⟨front, back, rfl⟩ := List.append_of_mem member
  rw [List.find?_eq_some_iff_append]
  refine ⟨decide_eq_true above, front, back, rfl, fun other inFront => ?_⟩
  have less := (List.pairwise_append.1 ascending).2.2 other inFront finish (by simp)
  have below := first other (by simp [inFront]) less
  simpa using below

/-- The slab whose end is the first above an address in the slab is the slab itself:
an end in between would be the end of a slab that overlaps it. -/
theorem owner?_some (shows : pool.Shows memory view) (carved : piece ∈ view.carved)
    (inside : piece.shape.region.contains address = true) :
    pool.owner? address = some piece.base := by
  have member := View.mem_of_carved carved
  have size := shows.sound.sorted.blocks piece carved
  have placed := (shows.sound.held piece member).usable.placed
  have within := (Region.contains_iff _ _).1 inside
  unfold Slab.Shape.region Region.finish at within
  simp only [size] at within
  have own : piece.base + view.blockSize ∈ pool.index :=
    shows.indexed.mem_iff.2 (List.mem_map.2 ⟨piece, carved, rfl⟩)
  have found : pool.index.find? (fun finish => address < finish) =
      some (piece.base + view.blockSize) := by
    -- A block that ends before this one and past the address would overlap it.
    refine find_first shows.ascending own within.2 fun finish indexed less => ?_
    obtain ⟨other, otherCarved, rfl⟩ := List.mem_map.1 (shows.indexed.mem_iff.1 indexed)
    have different : piece ≠ other := by
      rintro rfl
      exact Nat.lt_irrefl _ less
    have apart := Region.apart_of_mem shows.sound.apart member
      (View.mem_of_carved otherCarved) different
    have otherSize := shows.sound.sorted.blocks other otherCarved
    unfold Region.Apart Region.finish Slab.Shape.region at apart
    simp only [size, otherSize] at apart
    unfold Piece.base at less ⊢
    omega
  unfold owner?
  rw [found, shows.blockSize]
  simp only [Nat.add_sub_cancel]
  unfold Piece.base
  rw [if_neg (by omega)]

theorem owner?_none (shows : pool.Shows memory view)
    (outside : ∀ piece ∈ view.carved, piece.shape.region.contains address = false) :
    pool.owner? address = none := by
  unfold owner?
  cases found : pool.index.find? fun finish => address < finish with
  | none => rfl
  | some finish =>
    -- The first block that ends past the address does not hold it, so it begins past it too.
    have above : address < finish := by simpa using List.find?_some found
    have indexed := shows.indexed.mem_iff.1 (List.mem_of_find?_eq_some found)
    obtain ⟨piece, carved, rfl⟩ := List.mem_map.1 indexed
    have size := shows.sound.sorted.blocks piece carved
    have missed := outside piece carved
    rw [Bool.eq_false_iff, ne_eq, Region.contains_iff] at missed
    unfold Slab.Shape.region Region.finish at missed
    simp only [size] at missed
    unfold Piece.base at above
    rw [shows.blockSize]
    simp only [Nat.add_sub_cancel]
    unfold Piece.base
    rw [if_pos (by omega)]

/-- A slab that is found for an address holds the address. -/
theorem owner?_inside {base : Nat} (shows : pool.Shows memory view)
    (owned : pool.owner? address = some base) :
    ∃ piece ∈ view.carved, piece.base = base ∧ piece.shape.region.contains address = true := by
  by_cases found : ∃ piece ∈ view.carved, piece.shape.region.contains address = true
  · obtain ⟨piece, carved, inside⟩ := found
    rw [shows.owner?_some carved inside] at owned
    exact ⟨piece, carved, Option.some.inj owned, inside⟩
  · rw [shows.owner?_none fun piece carved =>
      Bool.eq_false_iff.2 fun inside => found ⟨piece, carved, inside⟩] at owned
    cases owned

theorem beside (shows : pool.Shows memory view)
    (outside : ∀ piece ∈ view.resident, piece.shape.region.contains address = false) :
    pool.containsResident address = false := by
  unfold containsResident
  rw [shows.resident]
  cases found : view.resident with
  | none => rfl
  | some piece => exact outside piece found

theorem free_resident (shows : pool.Shows memory view) (found : view.resident = some piece)
    (inside : piece.shape.region.contains address = true) :
    pool.free memory address = pool.freeResident memory piece.base address := by
  have mine : pool.resident = some ⟨piece.base, piece.shape.size⟩ := by
    rw [shows.resident, found]
    rfl
  rw [ElementPool.free_resident mine inside]

theorem free_carved (shows : pool.Shows memory view) (carved : piece ∈ view.carved)
    (inside : piece.shape.region.contains address = true) :
    pool.free memory address = pool.freeCarved memory piece.base address := by
  refine ElementPool.free_carved (shows.beside fun other resident => ?_)
    (shows.owner?_some carved inside)
  exact (shows.sound.resident_apart resident carved).symm.not_contains inside

theorem free_outside (shows : pool.Shows memory view)
    (outside : ∀ piece ∈ view.pieces, piece.shape.region.contains address = false) :
    pool.free memory address = .error (.foreignPointer address) :=
  free_strange (shows.beside fun piece found => outside piece (View.mem_of_resident found))
    (shows.owner?_none fun piece carved => outside piece (View.mem_of_carved carved))

/-- What the slab refuses whose range an address lies in, the pool refuses. -/
theorem free_refused {fault : Fault} (shows : pool.Shows memory view)
    (member : piece ∈ view.pieces) (inside : piece.shape.region.contains address = true)
    (refused : Slab.free memory piece.base address = .error fault) :
    pool.free memory address = .error fault := by
  rcases List.mem_append.1 member with resident | carved
  · rw [shows.free_resident (Option.mem_toList.1 resident) inside]
    exact freeResident_refused refused
  · rw [shows.free_carved carved inside]
    exact freeCarved_refused refused

/-! ## Taking back -/

/-- A slot is hidden when it is behind the head of the chain of its slab. -/
theorem not_hidden (shows : pool.Shows memory view)
    (obeys : ∀ base ∈ pool.bases, address ∉ (Slab.freeList memory base).tail) :
    ¬ view.Hidden address := by
  rintro ⟨piece, member, hidden⟩
  refine obeys piece.base ?_ ?_
  · exact shows.base_of_piece member
  · rw [(shows.sound.held piece member).freeList_eq]
    exact hidden

/-- What the arrangement refuses, the pool refuses, with the same fault. -/
theorem free_error {fault : Fault} (shows : pool.Shows memory view)
    (visible : ¬ view.Hidden address) (refused : view.free address = .error fault) :
    pool.free memory address = .error fault := by
  -- A piece that holds the address decides: the pool refuses with the fault of that piece.
  have piecewise {piece : Piece} (member : piece ∈ view.pieces)
      (inside : piece.shape.region.contains address = true)
      (taken : piece.free address = .error fault) : pool.free memory address = .error fault := by
    refine shows.free_refused member inside ?_
    have answered := (shows.sound.held piece member).free_eq fun hidden =>
      visible ⟨piece, member, hidden⟩
    rwa [taken] at answered
  rcases view.free_located address with ⟨piece, resident, inside, answer⟩ |
    ⟨piece, carved, inside, answer⟩ | ⟨outside, answer⟩
  · rw [refused] at answer
    cases taken : piece.free address with
    | error other =>
      rw [taken] at answer
      cases answer
      exact piecewise (View.mem_of_resident resident) inside taken
    | ok result =>
      rw [taken] at answer
      cases answer
  · rw [refused] at answer
    cases taken : piece.free address with
    | error other =>
      rw [taken] at answer
      cases answer
      exact piecewise (View.mem_of_carved carved) inside taken
    | ok result =>
      rw [taken] at answer
      cases answer
  · rw [refused] at answer
    cases answer
    exact shows.free_outside outside

variable {fresh : Piece}

/-- Links that were written after an element came back are no part of what slabs say. -/
private theorem returned_relinked {gone : Option Nat} {linked : Memory}
    (shows : pool.Shows memory view) (returned : View.Returned view piece fresh address gone after)
    (sound : after.Sound changed) (relinked : changed.ChangedAmong linked view.links) :
    after.Sound linked := by
  refine sound.relinked relinked fun link mine other member => ?_
  obtain ⟨old, known, shape⟩ := returned.shape_of_mem member
  rw [shape]
  exact shows.sound.body_apart known mine

/-- A slab that lost its last element leaves its ring and the index. -/
theorem retire {base : Nat} (shows : pool.Shows memory view)
    (returned : View.Returned view piece fresh address (some base) after)
    (inside : memory.ChangedWithin changed piece.shape.body) (sound : after.Sound changed) :
    (pool.retire changed base).toElementPool.Shows (pool.retire changed base).memory after ∧
      changed.ChangedAmong (pool.retire changed base).memory view.links := by
  have indexed : (pool.index.erase (base + pool.blockSize)).Perm after.ends := by
    have split := (shows.indexed.trans returned.ends).erase (base + view.blockSize)
    simp only [Option.map_some, Option.toList_some, List.cons_append, List.nil_append,
      List.erase_cons_head] at split
    rwa [shows.blockSize]
  have ascending : (pool.index.erase (base + pool.blockSize)).Pairwise (· < ·) :=
    shows.ascending.sublist List.erase_sublist
  have threads := shows.threads_of_body returned.mem inside
  have known : base ∈ view.roomy.map Piece.base ++ view.full.map Piece.base := by
    obtain ⟨carved, rfl, -, -⟩ := returned.departure
    exact mem_rows carved
  obtain ⟨moved, relinked⟩ := threads.unlink known
  rw [View.links_eq] at relinked
  have settled := shows.returned_relinked returned sound relinked
  refine ⟨?_, relinked⟩
  -- The rows that are left are those of the arrangement, whichever the slab was in.
  cases returned with
  | emptiedRoomy row taken =>
    rw [row, List.map_append, List.map_cons] at moved threads
    obtain ⟨first, second⟩ := threads.erase_roomy
    rw [first, second, ← List.map_append] at moved
    exact ⟨shows.blockSize, shows.elementSize, shows.resident, shows.idle,
      moved.of_agree rfl fun _ _ => .of_eq rfl _, ascending, indexed, settled⟩
  | emptiedFull row taken =>
    rw [row, List.map_append, List.map_cons] at moved threads
    obtain ⟨first, second⟩ := threads.erase_full
    rw [first, second, ← List.map_append] at moved
    exact ⟨shows.blockSize, shows.elementSize, shows.resident, shows.idle,
      moved.of_agree rfl fun _ _ => .of_eq rfl _, ascending, indexed, settled⟩

/-- A slab that had no room and has room again goes to the back of the other ring. -/
theorem reopen {front back : List Piece} (shows : pool.Shows memory view)
    (row : view.full = front ++ piece :: back) (taken : piece.free address = .ok (.reopened, fresh))
    (inside : memory.ChangedWithin changed piece.shape.body)
    (sound : { view with roomy := view.roomy ++ [fresh], full := front ++ back : View }.Sound
      changed) :
    (pool.reopen changed piece.base).toElementPool.Shows (pool.reopen changed piece.base).memory
        { view with roomy := view.roomy ++ [fresh], full := front ++ back } ∧
      changed.ChangedAmong (pool.reopen changed piece.base).memory view.links := by
  have returned : View.Returned view piece fresh address none
      { view with roomy := view.roomy ++ [fresh], full := front ++ back } := .reopened row taken
  have same : fresh.base = piece.base := congrArg Slab.Shape.base (Piece.shape_of_free taken)
  have threads := shows.threads_of_body returned.mem inside
  have known : piece.base ∈ view.roomy.map Piece.base ++ view.full.map Piece.base := by
    simp [row]
  obtain ⟨moved, relinked⟩ := threads.reopen known
  rw [View.links_eq] at relinked
  refine ⟨⟨shows.blockSize, shows.elementSize, shows.resident, shows.idle, ?_, shows.ascending,
    shows.indexed.trans returned.ends, shows.returned_relinked returned sound relinked⟩, relinked⟩
  rw [row, List.map_append, List.map_cons] at moved threads
  obtain ⟨first, second⟩ := threads.erase_full
  rw [first, second, ← List.map_append] at moved
  rw [List.map_append, List.map_cons, List.map_nil, same]
  exact threads_relinked pool moved

/-- Links that are written after a slab was are all that is written outside the slab. -/
theorem changed_relinked (shows : pool.Shows memory view) (member : piece ∈ view.pieces)
    {linked : Memory} (inside : memory.ChangedWithin changed piece.shape.body)
    (relinked : changed.ChangedAmong linked view.links) :
    memory.ChangedAmong linked (piece.shape.region :: view.links) :=
  ((inside.mono (Slab.Holds.body_within (shows.sound.held piece member).usable)).among
    List.mem_cons_self).trans (relinked.of_subset (List.subset_cons_self _ _))

/-- What the arrangement takes back, the pool takes back, and it writes nothing but
the slab the element belongs to and links of carved slabs. -/
theorem free_ok {gone : Option Nat} (shows : pool.Shows memory view)
    (visible : ¬ view.Hidden address) (freed : view.free address = .ok (gone, after)) :
    ∃ piece fresh result, View.Returned view piece fresh address gone after ∧
      pool.free memory address = .ok result ∧ result.retired = gone ∧
      result.pool.Shows result.memory after ∧
      memory.ChangedAmong result.memory (piece.shape.region :: view.links) := by
  obtain ⟨piece, fresh, returned⟩ := View.free_returned shows.sound freed
  obtain ⟨kind, taken⟩ := returned.taken
  have held := shows.sound.held piece returned.mem
  have inside := held.contains_of_live (held.free_live taken).1
  have same : fresh.base = piece.base := congrArg Slab.Shape.base (Piece.shape_of_free taken)
  have answered := held.free_eq fun hidden => visible ⟨piece, returned.mem, hidden⟩
  have width : piece.shape.elementSize = pool.elementSize := by
    rw [shows.elementSize]
    exact shows.sound.sorted.elements piece returned.mem
  have whole := Slab.Holds.body_within held.usable
  -- Filling the element reaches no further than the element, behind its link.
  have scrubbed := held.released taken (width ▸ changedWithin_scrub pool _ address)
  have plain := held.released taken (.refl _ _)
  have filled := returned.sound shows.sound (fun _ => scrubbed.1) (scrubbed.2.mono whole)
  have carvedFree : piece ∈ view.carved →
      pool.free memory address = pool.freeCarved memory piece.base address :=
    fun carved => shows.free_carved carved inside
  -- One case for each way the slab can end up; the rings follow the rows in each.
  cases id returned with
  | resident found taken =>
    rw [taken] at answered
    refine ⟨piece, fresh, _, returned, (shows.free_resident found inside).trans
      (freeResident_kept answered), rfl, countFree ⟨shows.blockSize, shows.elementSize, ?_, ?_,
        shows.threads_of_body returned.mem scrubbed.2, shows.ascending,
        shows.indexed.trans returned.ends, filled⟩,
      shows.changed_relinked returned.mem scrubbed.2 (.refl _ _)⟩
    · rw [shows.resident, found, Option.map_some, Option.map_some, same,
        Piece.shape_of_free taken]
    · intro idle
      rw [shows.idle idle] at found
      cases found
  | emptiedRoomy row taken | emptiedFull row taken =>
    rw [taken] at answered
    rw [carvedFree (by simp [View.carved, row]), freeCarved_emptied answered]
    obtain ⟨arranged, relinked⟩ := retire shows.countFree returned plain.2
      (returned.sound shows.sound (fun absurd => by cases absurd) (plain.2.mono whole))
    exact ⟨piece, fresh, _, returned, rfl, rfl, arranged,
      shows.changed_relinked returned.mem plain.2 relinked⟩
  | reopened row taken =>
    rw [taken] at answered
    rw [carvedFree (by simp [View.carved, row]), freeCarved_reopened answered]
    obtain ⟨arranged, relinked⟩ := reopen shows.countFree row taken scrubbed.2 filled
    exact ⟨piece, fresh, _, returned, rfl, rfl, arranged,
      shows.changed_relinked returned.mem scrubbed.2 relinked⟩
  | stayed row taken =>
    rw [taken] at answered
    rw [carvedFree (by simp [View.carved, row]), freeCarved_stayed answered]
    refine ⟨piece, fresh, _, returned, rfl, rfl, countFree ⟨shows.blockSize, shows.elementSize,
      shows.resident, shows.idle, ?_, shows.ascending, shows.indexed.trans returned.ends, filled⟩,
      shows.changed_relinked returned.mem scrubbed.2 (.refl _ _)⟩
    have threads := shows.threads_of_body returned.mem scrubbed.2
    rw [row, List.map_append, List.map_cons] at threads
    rw [List.map_append, List.map_cons, same]
    exact threads

end Shows

/-! ## Setting up -/

variable {pool : ElementPool} {memory : Memory} {view : View}

theorem init_blockSize {system : System} {count : Nat} {setup : Setup}
    (made : pool.init memory system count = .ok setup) : setup.pool.blockSize = pool.blockSize := by
  obtain ⟨-, -, fitted⟩ := init_cases made
  cases fitted <;> rfl

/-- A pool that is set up has its resident slab more. -/
theorem init_regions {system : System} {count : Nat} {setup : Setup}
    (bare : pool.resident = none) (made : pool.init memory system count = .ok setup) :
    setup.pool.regions = (setup.pool.resident.map Resident.region).toList ++ pool.regions := by
  obtain ⟨-, -, fitted⟩ := init_cases made
  unfold regions
  rw [bare]
  cases fitted with
  | bare =>
    simp only [bare]
    rfl
  | resident => rfl

namespace Shows

/-- A pool that is set up has its resident slab, of which nothing is handed out, and
memory changes in that slab only. -/
theorem init {system : System} {count : Nat} {setup : Setup} (shows : pool.Shows memory view)
    (made : pool.init memory system count = .ok setup)
    (placed : ∀ resident ∈ setup.pool.resident,
      0 < resident.base ∧ resident.base + resident.size < wordLimit)
    (apart : ∀ resident ∈ setup.pool.resident, ∀ region ∈ view.regions,
      resident.region.Apart region) :
    setup.pool.Shows setup.memory (view.equipped setup.pool.resident) ∧
      (view.equipped setup.pool.resident).regions =
        (setup.pool.resident.map Resident.region).toList ++ view.regions ∧
      (∀ address, (view.equipped setup.pool.resident).Live address ↔ view.Live address) ∧
      ∀ region, (∀ resident ∈ setup.pool.resident, resident.region.Apart region) →
        memory.Agree setup.memory region := by
  obtain ⟨unready, -, fitted⟩ := init_cases made
  have none := shows.idle unready
  -- Without a resident slab nothing is written; with one, only its own bytes are.
  cases fitted with
  | bare =>
    have bare : pool.resident = .none := by
      rw [shows.resident, none]
      rfl
    have unchanged : view.equipped pool.resident = view := by
      rw [bare]
      rfl
    show ElementPool.Shows { pool with ready := true } memory (view.equipped pool.resident) ∧ _
    refine ⟨?_, ?_, ?_, fun _ _ => fun _ _ _ => rfl⟩
    · rw [unchanged]
      exact { shows with idle := fun absurd => by cases absurd }
    · simp only [bare]
      rfl
    · exact fun address => by rw [unchanged]
  | @resident _ base layout _ blank _ _ _ formatted =>
    obtain ⟨low, high⟩ := placed ⟨base, layout.size⟩ rfl
    have beside := apart ⟨base, layout.size⟩ rfl
    rw [shows.elementSize] at formatted
    have usable : (⟨base, layout.size, view.elementSize⟩ : Slab.Shape).Usable :=
      Slab.Holds.usable_of_format? low high formatted
    obtain ⟨changed, same, held, within⟩ := Slab.Holds.format? usable memory
    obtain rfl : changed = blank := Option.some.inj (same.symm.trans formatted)
    have confined : memory.ChangedWithin changed ⟨base, layout.size⟩ :=
      within.mono (Slab.Holds.header_within usable)
    have links : Threads (pool.rings changed) (view.roomy.map Piece.base)
        (view.full.map Piece.base) := by
      refine shows.threads_of_agree fun piece carved => ?_
      have member := View.mem_of_carved carved
      exact (confined.agree (beside _ (List.mem_map_of_mem member))).mono
        (Slab.Holds.linkRegion_within (shows.sound.held piece member).usable)
    refine ⟨?_, ?_, fun address => View.withResident_live none _ _, fun region outside => ?_⟩
    · exact ⟨shows.blockSize, shows.elementSize, rfl, (fun absurd => by cases absurd),
        links, shows.ascending, shows.indexed,
        View.withResident_sound none shows.sound held confined beside⟩
    · unfold View.regions View.equipped
      rw [View.pieces_of_none none]
      rfl
    · exact confined.agree (outside ⟨base, layout.size⟩ rfl)

end Shows

end SlabAllocator.ElementPool
