import SlabAllocator.Proofs.ElementPool.Refinement

/-! Which bytes a pool writes, byte by byte. Handing an element out writes the header of
its slab and, if the pool fills fresh elements, the element; taking one back writes the
header, the link word and, unless the slab goes away, the fill behind the link. A slab
that moves writes links as well, in headers of slabs on the rings. The bytes of a pool
in between are its cells: the places where its elements can lie. -/
namespace SlabAllocator

namespace Slab

variable {memory after : Memory} {base address : Nat}

theorem words_within_header (base : Nat) :
    Region.Within ⟨base + 16, 48⟩ (headerRegion base) :=
  ⟨Nat.le_add_right _ _, Nat.le_of_eq (Nat.add_assoc base 16 48)⟩

/-- A slab that hands a slot out leaves its links alone. -/
theorem alloc?_writes (handed : alloc? memory base = some (address, after)) :
    memory.ChangedWithin after ⟨base + 16, 48⟩ := by
  unfold alloc? at handed
  simp only at handed
  split at handed
  · cases handed
  · split at handed
    · obtain ⟨-, rfl⟩ := Prod.mk.inj (Option.some.inj handed)
      exact Header.changedWithin_words _ _ _
    · split at handed
      · obtain ⟨-, rfl⟩ := Prod.mk.inj (Option.some.inj handed)
        exact Header.changedWithin_words _ _ _
      · cases handed

theorem format?_writes {slabSize elementSize : Nat}
    (formatted : format? memory base slabSize elementSize = some after) :
    memory.ChangedWithin after (headerRegion base) := by
  unfold format? at formatted
  split at formatted
  · cases formatted
  · simp only at formatted
    split at formatted
    · cases formatted
    · obtain rfl := Option.some.inj formatted
      have front : memory.ChangedWithin (memory.setWord base 0) (headerRegion base) :=
        (memory.changedWithin_setWord base 0).mono
          ⟨Nat.le_refl _, Nat.add_le_add_left (show wordBytes ≤ headerBytes by decide) _⟩
      -- The two link words are cleared first, the rest of the header is stored over them.
      refine (front.trans ?_).trans (Header.changedWithin_store _ _ _)
      refine (Memory.changedWithin_setWord _ (base + 8) 0).mono ⟨Nat.le_add_right _ _, ?_⟩
      unfold Region.finish headerRegion headerBytes wordBytes
      simp only
      omega

/-- A slab that takes a slot back writes its header behind the links and the link word of
the slot. -/
theorem free_writes {transition : Transition}
    (taken : free memory base address = .ok (transition, after)) {byte : Nat}
    (behind : (⟨base + 16, 48⟩ : Region).contains byte = false)
    (beside : (⟨address, wordBytes⟩ : Region).contains byte = false) :
    after.byte byte = memory.byte byte := by
  unfold free at taken
  simp only at taken
  split at taken
  · cases taken
  · split at taken
    · cases taken
    · obtain ⟨-, rfl⟩ := Prod.mk.inj (Except.ok.inj taken)
      exact ((Header.changedWithin_words _ _ _).byte_eq behind).trans
        ((memory.changedWithin_setWord _ _).byte_eq beside)

end Slab

namespace ElementPool

variable {pool next : ElementPool} {memory changed : Memory} {view : View} {address : Nat}

/-! ## What never changes of a pool -/

/-- Two states of one pool agree on its sizes and on its configuration. -/
structure Same (before after : ElementPool) : Prop where
  blockSize : after.blockSize = before.blockSize
  elementSize : after.elementSize = before.elementSize
  config : after.config = before.config

theorem Same.refl (pool : ElementPool) : pool.Same pool :=
  ⟨rfl, rfl, rfl⟩

theorem Same.trans {last : ElementPool} (first : pool.Same next) (second : next.Same last) :
    pool.Same last :=
  ⟨second.blockSize.trans first.blockSize, second.elementSize.trans first.elementSize,
    second.config.trans first.config⟩

theorem Recounted.same (counted : pool.Recounted next) : pool.Same next :=
  ⟨counted.blockSize, counted.elementSize, counted.config⟩

theorem same_attempt (served : pool.attempt memory = .served address next changed) :
    pool.Same next := by
  cases served ▸ pool.attempt_cases memory with
  | resident | carved => exact pool.recounted_countAlloc.same
  | @parked base _ handed =>
    have moved : pool.Same (pool.park handed base).toElementPool := ⟨rfl, rfl, rfl⟩
    exact moved.trans (recounted_countAlloc _).same

theorem same_adopt? {block : Nat} {adopted : Adopted}
    (made : pool.adopt? memory block = some adopted) : pool.Same adopted.pool := by
  obtain ⟨_, _, _, -, -, counted, -⟩ := adopt?_cases made
  rw [counted]
  refine Same.trans ?_ (recounted_countAlloc _).same
  exact ⟨rfl, rfl, rfl⟩

theorem same_free {freed : Freed} (taken : pool.free memory address = .ok freed) :
    pool.Same freed.pool := by
  have counted := pool.recounted_countFree.same
  cases taken ▸ pool.free_cases memory address with
  | resident | stayed => exact counted
  | emptied | reopened => exact counted.trans ⟨rfl, rfl, rfl⟩

theorem same_init {system : System} {count : Nat} {setup : Setup}
    (made : pool.init memory system count = .ok setup) : pool.Same setup.pool := by
  obtain ⟨-, -, fitted⟩ := init_cases made
  cases fitted <;> exact ⟨rfl, rfl, rfl⟩

/-! ## What is written -/

theorem byte_fillFresh (pool : ElementPool) (memory : Memory) (address byte : Nat) :
    (pool.fillFresh memory address).byte byte =
      if (⟨address, pool.elementSize⟩ : Region).contains byte then
        pool.config.allocPattern.getD (memory.byte byte)
      else memory.byte byte := by
  unfold fillFresh
  cases pool.config.allocPattern with
  | none => exact (ite_self _).symm
  | some pattern => exact memory.byte_fill _ _ _ _

theorem byte_scrub (pool : ElementPool) (memory : Memory) (address byte : Nat) :
    (pool.scrub memory address).byte byte =
      if (⟨address + wordBytes, pool.elementSize - wordBytes⟩ : Region).contains byte then
        pool.config.deallocPattern.getD (memory.byte byte)
      else memory.byte byte := by
  unfold scrub
  cases pool.config.deallocPattern with
  | none => exact (ite_self _).symm
  | some pattern => exact memory.byte_fill _ _ _ _

/-- An element of the slab at `base` is handed out: outside the header of the slab, and
outside the links of slabs on the rings, nothing changes but the element, which is filled if
the pool fills fresh elements. -/
def Freshens (pool : ElementPool) (before after : Memory) (base address : Nat) : Prop :=
  ∀ byte, (Slab.headerRegion base).contains byte = false →
    (∀ link ∈ pool.links before, link.contains byte = false) → after.byte byte =
      if (⟨address, pool.elementSize⟩ : Region).contains byte then
        pool.config.allocPattern.getD (before.byte byte)
      else before.byte byte

/-- An element of the slab at `base` is taken back: outside the header of the slab, the links
of slabs on the rings and the link word nothing changes but the rest of the element, which is
scrubbed if the pool scrubs and keeps the slab. -/
def Scrubs (pool : ElementPool) (before : Memory) (freed : Freed) (base address : Nat) : Prop :=
  ∀ byte, (Slab.headerRegion base).contains byte = false →
    (∀ link ∈ pool.links before, link.contains byte = false) →
    (⟨address, wordBytes⟩ : Region).contains byte = false → freed.memory.byte byte =
      if freed.retired = none ∧
          (⟨address + wordBytes, pool.elementSize - wordBytes⟩ : Region).contains byte then
        pool.config.deallocPattern.getD (before.byte byte)
      else before.byte byte

/-- An element that is filled once header and links are written. -/
private theorem freshens_fillFresh {served linked : Memory} {base : Nat}
    (written : memory.ChangedWithin served (Slab.headerRegion base))
    (relinked : served.ChangedAmong linked (Slab.linkRegion base :: pool.links memory)) :
    pool.Freshens memory (pool.fillFresh linked address) base address := by
  intro byte behind beside
  have same : linked.byte byte = memory.byte byte := by
    refine (relinked byte fun link known => ?_).trans (written.byte_eq behind)
    rcases List.mem_cons.1 known with rfl | listed
    · exact (Slab.links_within_header base).not_contains behind
    · exact beside link listed
  rw [byte_fillFresh, same]

/-- A request that is served writes in one of the slabs of the pool, and links. -/
theorem Shows.attempt_writes (shows : pool.Shows memory view)
    (served : pool.attempt memory = .served address next changed) :
    ∃ base ∈ pool.bases, pool.Freshens memory changed base address := by
  -- The slab at the front of the partial ring is one of the pool’s own.
  have listed {base : Nat} (front : (pool.rings memory).front partialRing = some base) :
      ∃ piece ∈ view.carved, piece.base = base := by
    rw [shows.threads.front_partial] at front
    obtain ⟨piece, row, same⟩ := List.mem_map.1 (List.mem_of_head? front)
    exact ⟨piece, View.carved_of_roomy row, same⟩
  have header {base : Nat} {served : Memory}
      (handed : Slab.alloc? memory base = some (address, served)) :
      memory.ChangedWithin served (Slab.headerRegion base) :=
    (Slab.alloc?_writes handed).mono (Slab.words_within_header base)
  cases served ▸ pool.attempt_cases memory with
  | @resident resident _ _ found handed =>
    refine ⟨resident.base, ?_, freshens_fillFresh (header handed) (.refl _ _)⟩
    unfold bases
    rw [found]
    exact List.mem_cons_self
  | carved _ front handed =>
    obtain ⟨piece, carved, rfl⟩ := listed front
    exact ⟨piece.base, shows.base_of_piece (View.mem_of_carved carved),
      freshens_fillFresh (header handed) (.refl _ _)⟩
  | parked _ front handed =>
    obtain ⟨piece, carved, rfl⟩ := listed front
    have member := View.mem_of_carved carved
    have inside := (Slab.alloc?_writes handed).mono
      (Slab.Holds.words_within (shows.sound.held piece member).usable)
    have relinked := ((shows.threads_of_body member inside).park (mem_rows carved)).changed
    rw [View.links_eq, ← shows.links_eq] at relinked
    exact ⟨piece.base, shows.base_of_piece member,
      freshens_fillFresh (header handed) (relinked.of_subset (List.subset_cons_self _ _))⟩

/-- A block that becomes a slab is written in its header and its first element, and links are
written. -/
theorem Shows.adopt?_writes {block : Nat} {adopted : Adopted} (shows : pool.Shows memory view)
    (usable : (view.blank block).shape.Usable)
    (apart : ∀ region ∈ view.regions, (view.blank block).shape.region.Apart region)
    (made : pool.adopt? memory block = some adopted) :
    pool.Freshens memory adopted.memory block adopted.address := by
  obtain ⟨_, served, ring, formatted, handed, -, opened, filled⟩ := adopt?_cases made
  have header : memory.ChangedWithin served (Slab.headerRegion block) :=
    (Slab.format?_writes formatted).trans
      ((Slab.alloc?_writes handed).mono (Slab.words_within_header block))
  have shown := shows.of_agree fun region mine =>
    (header.mono (Slab.Holds.header_within usable)).agree (apart region mine)
  have relinked := shown.threads.changed_pushFront opened block
  rw [List.map_cons, View.links_eq, ← shows.links_eq] at relinked
  rw [filled]
  exact freshens_fillFresh header relinked

/-- A slab that is set up is written in its header only. -/
theorem init_writes {system : System} {count : Nat} {setup : Setup}
    (made : pool.init memory system count = .ok setup) {byte : Nat}
    (behind : ∀ resident ∈ setup.pool.resident,
      (Slab.headerRegion resident.base).contains byte = false) :
    setup.memory.byte byte = memory.byte byte := by
  obtain ⟨-, -, fitted⟩ := init_cases made
  cases fitted with
  | bare => rfl
  | resident _ _ _ blank => exact (Slab.format?_writes blank).byte_eq (behind _ rfl)

/-- A slab that takes a slot back, and a fill behind the link of the slot, leave links alone. -/
theorem Shows.body_of_free {released : Memory} {piece : Piece} {transition : Slab.Transition}
    (shows : pool.Shows memory view) (member : piece ∈ view.pieces)
    (taken : Slab.free memory piece.base address = .ok (transition, released)) :
    memory.ChangedWithin released piece.shape.body ∧
      memory.ChangedWithin (pool.scrub released address) piece.shape.body := by
  have held := shows.sound.held piece member
  have slot : ∃ slot < piece.stack.used piece.shape.capacity, address = piece.shape.slot slot := by
    apply Classical.byContradiction
    intro unknown
    have refused := Slab.Holds.free_foreign held unknown
    rw [show piece.shape.base = piece.base from rfl, taken] at refused
    cases refused
  obtain ⟨number, used, rfl⟩ := slot
  have element := Slab.Holds.slot_within held.usable (held.lt_capacity used)
  have size : pool.elementSize = piece.shape.elementSize := by
    rw [shows.elementSize, shows.sound.sorted.elements piece member]
  have wide := held.usable.wide
  have plain : memory.ChangedWithin released piece.shape.body := by
    intro byte outside
    have beyond := (piece.shape.body.not_contains_iff byte).2 outside
    have link : Region.Within ⟨piece.shape.slot number, wordBytes⟩
        ⟨piece.shape.slot number, piece.shape.elementSize⟩ :=
      ⟨Nat.le_refl _, Nat.add_le_add_left wide _⟩
    exact Slab.free_writes taken
      ((Slab.Holds.words_within held.usable).not_contains beyond)
      ((link.trans element).not_contains beyond)
  refine ⟨plain, plain.trans ((Shows.changedWithin_scrub pool _ _).mono (.trans ?_ element))⟩
  rw [size]
  refine ⟨Nat.le_add_right _ _, ?_⟩
  unfold Region.finish
  simp only
  omega

/-- A carved slab that took a slot back, and was filled perhaps, is on its ring still. -/
theorem Shows.threads_of_free {released : Memory} {base : Nat} {transition : Slab.Transition}
    (shows : pool.Shows memory view) (owned : pool.owner? address = some base)
    (taken : Slab.free memory base address = .ok (transition, released)) :
    base ∈ view.roomy.map Piece.base ++ view.full.map Piece.base ∧
      Threads (pool.countFree.rings released) (view.roomy.map Piece.base)
        (view.full.map Piece.base) ∧
      Threads (pool.countFree.rings (pool.scrub released address)) (view.roomy.map Piece.base)
        (view.full.map Piece.base) := by
  obtain ⟨piece, carved, rfl, -⟩ := shows.owner?_inside owned
  have member := View.mem_of_carved carved
  obtain ⟨plain, scrubbed⟩ := shows.body_of_free member taken
  exact ⟨mem_rows carved, shows.countFree.threads_of_body member plain,
    shows.countFree.threads_of_body member scrubbed⟩

/-- A slab that takes a slot back and stays with the pool. -/
private theorem scrubs_kept {released linked : Memory} {base : Nat} {transition : Slab.Transition}
    (taken : Slab.free memory base address = .ok (transition, released)) (after : ElementPool)
    (relinked : (pool.scrub released address).ChangedAmong linked (pool.links memory)) :
    pool.Scrubs memory ⟨after, linked, none⟩ base address := by
  intro byte behind beside outside
  have words := (Slab.words_within_header base).not_contains behind
  simp only [relinked byte beside, byte_scrub, Slab.free_writes taken words outside, true_and]

/-- What a pool takes back belongs to one of its slabs, and it writes in that slab, and links.
A carved slab that goes away with it is not scrubbed. -/
theorem Shows.free_writes {freed : Freed} (shows : pool.Shows memory view)
    (taken : pool.free memory address = .ok freed) :
    ∃ piece ∈ view.pieces, piece.shape.region.contains address = true ∧
      pool.Scrubs memory freed piece.base address ∧
      ∀ base ∈ freed.retired, base = piece.base ∧ base ∈ pool.slabs memory := by
  cases taken ▸ pool.free_cases memory address with
  | resident found inside released =>
    rw [shows.resident] at found
    obtain ⟨piece, mine, rfl⟩ := Option.map_eq_some_iff.1 found
    exact ⟨piece, View.mem_of_resident mine, inside, scrubs_kept released _ (.refl _ _), by simp⟩
  -- A slab that becomes empty leaves the pool unscrubbed, header and link apart.
  | emptied _ owned released =>
    obtain ⟨listed, threads, -⟩ := shows.threads_of_free owned released
    have relinked := (threads.unlink listed).changed
    rw [View.links_eq, ← shows.links_eq] at relinked
    obtain ⟨piece, carved, rfl, inside⟩ := shows.owner?_inside owned
    refine ⟨piece, View.mem_of_carved carved, inside, fun byte behind beside outside => ?_, ?_⟩
    · have words := (Slab.words_within_header piece.base).not_contains behind
      rw [if_neg (by simp)]
      exact (relinked byte beside).trans (Slab.free_writes released words outside)
    · rintro base ⟨⟩
      exact ⟨rfl, shows.mem_slabs carved⟩
  | reopened _ owned released =>
    obtain ⟨listed, -, threads⟩ := shows.threads_of_free owned released
    have relinked := (threads.reopen listed).changed
    rw [View.links_eq, ← shows.links_eq] at relinked
    obtain ⟨piece, carved, rfl, inside⟩ := shows.owner?_inside owned
    exact ⟨piece, View.mem_of_carved carved, inside, scrubs_kept released _ relinked, by simp⟩
  | stayed _ owned released =>
    obtain ⟨piece, carved, rfl, inside⟩ := shows.owner?_inside owned
    exact ⟨piece, View.mem_of_carved carved, inside, scrubs_kept released _ (.refl _ _), by simp⟩

/-! ## Cells -/

/-- An element of the pool can begin at this address, in this slab. -/
def IsCell (pool : ElementPool) (slab : Region) (address : Nat) : Prop :=
  slab ∈ pool.regions ∧ ∃ number < Slab.Shape.capacity ⟨slab.start, slab.size, pool.elementSize⟩,
    address = Slab.Shape.slot ⟨slab.start, slab.size, pool.elementSize⟩ number

namespace Shows

variable {slab : Region} {piece : Piece}

theorem shape_eq (shows : pool.Shows memory view) (member : piece ∈ view.pieces) :
    piece.shape = ⟨piece.shape.region.start, piece.shape.region.size, pool.elementSize⟩ := by
  rw [shows.elementSize, ← shows.sound.sorted.elements piece member]
  rfl

/-- Cells are the slots of the slabs, whether handed out or not. -/
theorem piece_of_cell (shows : pool.Shows memory view) (cell : pool.IsCell slab address) :
    ∃ piece ∈ view.pieces, piece.shape.region = slab ∧
      ∃ number < piece.shape.capacity, address = piece.shape.slot number := by
  obtain ⟨mine, number, inside, rfl⟩ := cell
  obtain ⟨piece, member, rfl⟩ := shows.piece_of_region mine
  have shape := shows.shape_eq member
  exact ⟨piece, member, rfl, number, by rwa [shape], by rw [shape]; rfl⟩

theorem cell_of_live (shows : pool.Shows memory view) (member : piece ∈ view.pieces)
    (live : piece.Live address) : pool.IsCell piece.shape.region address := by
  obtain ⟨number, inside, rfl⟩ := live
  have held := shows.sound.held piece member
  have below := held.lt_capacity (held.partition.lt_used_of_live inside)
  have shape := shows.shape_eq member
  refine ⟨shows.region_of_piece member, number, ?_, ?_⟩
  · rwa [← shape]
  · rw [← shape]

/-- A cell lies behind the header of its slab and within the slab. -/
theorem cell_within (shows : pool.Shows memory view) (cell : pool.IsCell slab address) :
    (Slab.headerRegion slab.start).Apart ⟨address, pool.elementSize⟩ ∧
      Region.Within ⟨address, pool.elementSize⟩ slab := by
  obtain ⟨piece, member, rfl, number, inside, rfl⟩ := shows.piece_of_cell cell
  have usable := (shows.sound.held piece member).usable
  have behind := usable.header_le_slot number
  have size : pool.elementSize = piece.shape.elementSize := by
    rw [shows.elementSize, shows.sound.sorted.elements piece member]
  rw [size]
  exact ⟨.inl behind, Nat.le_trans (Nat.le_add_right _ _) behind, usable.slot_end_le inside⟩

/-- Different cells of a pool do not overlap. -/
theorem cells_apart {other : Region} {also : Nat} (shows : pool.Shows memory view)
    (cell : pool.IsCell slab address) (beside : pool.IsCell other also)
    (different : address ≠ also) :
    Region.Apart ⟨address, pool.elementSize⟩ ⟨also, pool.elementSize⟩ := by
  obtain ⟨piece, member, here, number, -, same⟩ := shows.piece_of_cell cell
  obtain ⟨owner, memberToo, there, position, -, sameToo⟩ := shows.piece_of_cell beside
  by_cases equal : piece = owner
  · subst equal
    have size : pool.elementSize = piece.shape.elementSize := by
      rw [shows.elementSize, shows.sound.sorted.elements piece member]
    rw [size, same, sameToo]
    exact piece.shape.slot_apart fun equal => different (by rw [same, sameToo, equal])
  · have apart := Region.apart_of_mem shows.sound.apart member memberToo equal
    rw [here, there] at apart
    exact apart.within (shows.cell_within cell).2 (shows.cell_within beside).2

end Shows

end ElementPool

end SlabAllocator
