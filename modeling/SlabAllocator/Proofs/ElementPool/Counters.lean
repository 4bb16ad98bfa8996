import SlabAllocator.Proofs.ElementPool.Footprint

/-! The counters of a pool. Every element that is handed out or taken back is counted in
one place, so what an operation makes of the counters does not depend on which slab it
used; and carved bytes move by whole blocks. -/
namespace SlabAllocator.ElementPool

/-- The counters of elements. -/
structure Tally where
  live : Nat
  totalAllocs : Nat
  totalFrees : Nat
  peakUsage : Nat
  deriving DecidableEq, Repr

namespace Tally

/-- An element more. Totals and peak are kept if the pool keeps them. -/
def alloc (tally : Tally) (config : Config) (elementSize : Nat) : Tally :=
  let live := tally.live + 1
  if config.trackStats then
    ⟨live, tally.totalAllocs + 1, tally.totalFrees, raisePeak tally.peakUsage (live * elementSize)⟩
  else { tally with live := live }

/-- So many elements more. -/
def allocs (tally : Tally) (config : Config) (elementSize : Nat) : Nat → Tally
  | 0 => tally
  | count + 1 => (tally.alloc config elementSize).allocs config elementSize count

/-- An element less. -/
def free (tally : Tally) (config : Config) : Tally :=
  if config.trackStats then
    { tally with live := tally.live - 1, totalFrees := tally.totalFrees + 1 }
  else { tally with live := tally.live - 1 }

variable {tally : Tally} {config : Config}

theorem alloc_tracked (tracked : config.trackStats = true) {elementSize : Nat} :
    tally.alloc config elementSize = ⟨tally.live + 1, tally.totalAllocs + 1, tally.totalFrees,
      raisePeak tally.peakUsage ((tally.live + 1) * elementSize)⟩ :=
  if_pos tracked

theorem free_tracked (tracked : config.trackStats = true) :
    tally.free config = ⟨tally.live - 1, tally.totalAllocs, tally.totalFrees + 1,
      tally.peakUsage⟩ :=
  if_pos tracked

theorem live_alloc (tally : Tally) (config : Config) (elementSize : Nat) :
    (tally.alloc config elementSize).live = tally.live + 1 := by
  unfold alloc
  simp only
  split <;> rfl

theorem live_allocs (tally : Tally) (config : Config) (elementSize count : Nat) :
    (tally.allocs config elementSize count).live = tally.live + count := by
  induction count generalizing tally with
  | zero => rfl
  | succ count ih =>
    unfold allocs
    rw [ih, live_alloc, Nat.add_assoc, Nat.add_comm 1]

theorem allocs_add (tally : Tally) (config : Config) (elementSize first second : Nat) :
    tally.allocs config elementSize (first + second) =
      (tally.allocs config elementSize first).allocs config elementSize second := by
  induction first generalizing tally with
  | zero => rw [Nat.zero_add, allocs]
  | succ first ih => rw [Nat.succ_add, allocs, ih, allocs]

theorem live_free (tally : Tally) (config : Config) :
    (tally.free config).live = tally.live - 1 := by
  unfold free
  split <;> rfl

end Tally

/-- The counters of a pool. -/
def tally (pool : ElementPool) : Tally :=
  ⟨pool.live, pool.totalAllocs, pool.totalFrees, pool.peakUsage⟩

/-- What became of a pool, as far as its counters tell. -/
structure Counted (before after : ElementPool) (tally : Tally) (carvedBytes : Nat) : Prop where
  same : before.Same after
  ready : after.ready = before.ready
  tally : after.tally = tally
  carvedBytes : after.carvedBytes = carvedBytes

variable {pool next : ElementPool} {memory changed : Memory} {address : Nat}

theorem tally_countAlloc (pool : ElementPool) :
    pool.countAlloc.tally = pool.tally.alloc pool.config pool.elementSize := by
  unfold countAlloc Tally.alloc
  simp only
  split <;> rfl

theorem tally_countFree (pool : ElementPool) :
    pool.countFree.tally = pool.tally.free pool.config := by
  unfold countFree Tally.free
  split <;> rfl

private theorem counted_countAlloc (pool : ElementPool) : pool.Counted pool.countAlloc
    (pool.tally.alloc pool.config pool.elementSize) pool.carvedBytes := by
  have counted := pool.recounted_countAlloc
  exact ⟨counted.same, counted.ready, pool.tally_countAlloc, counted.carvedBytes⟩

private theorem counted_countFree (pool : ElementPool) :
    pool.Counted pool.countFree (pool.tally.free pool.config) pool.carvedBytes := by
  have counted := pool.recounted_countFree
  exact ⟨counted.same, counted.ready, pool.tally_countFree, counted.carvedBytes⟩

/-- A request that is served from the slabs of the pool counts one element. -/
theorem attempt_counted (served : pool.attempt memory = .served address next changed) :
    pool.Counted next (pool.tally.alloc pool.config pool.elementSize) pool.carvedBytes := by
  have same := same_attempt served
  cases served ▸ pool.attempt_cases memory with
  | resident | carved => exact pool.counted_countAlloc
  | @parked base _ handed =>
    have parked := (pool.park handed base).counted_countAlloc
    exact ⟨same, parked.ready, parked.tally, parked.carvedBytes⟩

/-- A request for which a block is needed counts nothing yet. -/
theorem drained_counted (drained : pool.attempt memory = .drained next changed) :
    pool.Counted next pool.tally pool.carvedBytes := by
  cases drained ▸ pool.attempt_cases memory with
  | exhausted => exact ⟨.refl pool, rfl, rfl, rfl⟩
  | misplaced => exact ⟨⟨rfl, rfl, rfl⟩, rfl, rfl, rfl⟩

/-- A block that becomes a slab counts one element and the bytes of the block. -/
theorem adopt?_counted {block : Nat} {adopted : Adopted}
    (made : pool.adopt? memory block = some adopted) :
    pool.Counted adopted.pool (pool.tally.alloc pool.config pool.elementSize)
      (pool.carvedBytes + pool.blockSize) := by
  have same := same_adopt? made
  obtain ⟨_, served, ring, -, -, carved, -⟩ := adopt?_cases made
  -- Everything but the counters is set before the allocation is counted.
  have counted := counted_countAlloc { (pool.enlist served ring block).toElementPool with
    index := insertEnd adopted.finish pool.index
    carvedBytes := pool.carvedBytes + pool.blockSize }
  rw [← carved] at counted
  exact ⟨same, counted.ready, counted.tally, counted.carvedBytes⟩

/-- An element that is taken back is counted, and so are the bytes of a slab that goes. -/
theorem free_counted {freed : Freed} (taken : pool.free memory address = .ok freed) :
    pool.Counted freed.pool (pool.tally.free pool.config)
      (if freed.retired.isSome then pool.carvedBytes - pool.blockSize else pool.carvedBytes) := by
  have same := same_free taken
  have counted := pool.counted_countFree
  cases taken ▸ pool.free_cases memory address with
  | resident | stayed => exact counted
  | reopened => exact ⟨same, counted.ready, counted.tally, counted.carvedBytes⟩
  | emptied =>
    refine ⟨same, counted.ready, counted.tally, ?_⟩
    show pool.countFree.carvedBytes - pool.countFree.blockSize = _
    rw [counted.carvedBytes, counted.same.blockSize]
    rfl

/-- Setting a pool up counts nothing. -/
theorem init_counted {system : System} {count : Nat} {setup : Setup}
    (made : pool.init memory system count = .ok setup) :
    setup.pool.ready = true ∧ setup.pool.tally = pool.tally ∧
      setup.pool.carvedBytes = pool.carvedBytes := by
  obtain ⟨-, -, fitted⟩ := init_cases made
  cases fitted <;> exact ⟨rfl, rfl, rfl⟩

/-! ## Sizes -/

/-- Elements are whole words and fit in a block behind a header, and the carved bytes are
those of the carved slabs. Only the largest of all sizes is not rounded to words. -/
structure Measured (pool : ElementPool) : Prop where
  words : pool.elementSize + 1 < wordLimit → pool.elementSize % wordBytes = 0
  fits : pool.ready = true →
    0 < pool.elementSize ∧ Slab.headerBytes + pool.elementSize ≤ pool.blockSize
  carved : pool.carvedBytes = pool.blockSize * pool.slabCount

variable {view arranged : View}

theorem Shows.slabCount_eq (shows : pool.Shows memory view) :
    pool.slabCount = view.carved.length :=
  shows.indexed.length_eq.trans view.length_ends

/-- A size is rounded up to whole words unless only the largest of all is left for it. -/
theorem roundUpToWord_mod {size : Nat} (small : roundUpToWord size + 1 < wordLimit) :
    roundUpToWord size % wordBytes = 0 := by
  unfold roundUpToWord at small ⊢
  simp only at small ⊢
  split at small
  · next below =>
    rw [if_pos below]
    exact Nat.mul_mod_left _ _
  · omega

theorem measured_new (blockSize elementSize : Nat) (config : Config) :
    (ElementPool.new blockSize elementSize config).Measured :=
  ⟨roundUpToWord_mod, (fun absurd => by cases absurd), (Nat.mul_zero _).symm⟩

namespace Measured

/-- A pool keeps its measure when its carved bytes and its slabs change together. -/
theorem of_counted {tally : Tally} {bytes : Nat} (measured : pool.Measured)
    (counted : pool.Counted next tally bytes) (carved : bytes = pool.blockSize * next.slabCount) :
    next.Measured := by
  obtain ⟨⟨block, element, -⟩, ready, -, kept⟩ := counted
  refine ⟨?_, ?_, ?_⟩
  · rw [element]
    exact measured.words
  · rw [element, block, ready]
    exact measured.fits
  · rw [kept, carved, block]

theorem attempt {piece fresh : Piece} (measured : pool.Measured) (shows : pool.Shows memory view)
    (served : pool.attempt memory = .served address next changed)
    (placed : view.Placed piece fresh address arranged) (shown : next.Shows changed arranged) :
    next.Measured := by
  refine measured.of_counted (attempt_counted served) ?_
  rw [measured.carved, shows.slabCount_eq, shown.slabCount_eq, placed.length_carved]

theorem adopt? {block : Nat} {adopted : Adopted} (measured : pool.Measured)
    (shows : pool.Shows memory view) (made : pool.adopt? memory block = some adopted)
    (placed : view.adopt block = some (adopted.address, arranged))
    (shown : adopted.pool.Shows adopted.memory arranged) : adopted.pool.Measured := by
  refine measured.of_counted (adopt?_counted made) ?_
  rw [measured.carved, shows.slabCount_eq, shown.slabCount_eq, View.length_carved_of_adopt placed,
    Nat.mul_succ]

theorem free {piece fresh : Piece} {freed : Freed} (measured : pool.Measured)
    (shows : pool.Shows memory view) (taken : pool.free memory address = .ok freed)
    (returned : view.Returned piece fresh address freed.retired arranged)
    (shown : freed.pool.Shows freed.memory arranged) : freed.pool.Measured := by
  refine measured.of_counted (free_counted taken) ?_
  rw [measured.carved, shows.slabCount_eq, shown.slabCount_eq]
  have fewer := returned.ends.length_eq
  rw [List.length_append, View.length_ends, View.length_ends] at fewer
  -- The rows lose a slab exactly when a block is handed back.
  cases gone : freed.retired with
  | none =>
    rw [gone] at fewer
    have same : view.carved.length = arranged.carved.length := fewer.trans (Nat.zero_add _)
    rw [same]
    rfl
  | some base =>
    rw [gone] at fewer
    have one : view.carved.length = arranged.carved.length + 1 := by
      rw [fewer]
      exact Nat.add_comm _ _
    rw [one, Nat.mul_succ]
    exact Nat.add_sub_cancel _ _

theorem init {system : System} {count : Nat} {setup : Setup} (measured : pool.Measured)
    (made : pool.init memory system count = .ok setup) : setup.pool.Measured := by
  obtain ⟨-, ⟨positive, room⟩, fitted⟩ := init_cases made
  have fits : Slab.headerBytes + pool.elementSize ≤ pool.blockSize := by
    unfold ElementPool.room at room
    omega
  cases fitted <;> exact ⟨measured.words, fun _ => ⟨positive, fits⟩, measured.carved⟩

/-- Elements that fit in a block are whole words. -/
theorem whole_elements (measured : pool.Measured) (bounded : pool.blockSize < wordLimit)
    (fit : pool.elementSize ≤ pool.room) : pool.elementSize % wordBytes = 0 := by
  apply measured.words
  unfold room Slab.headerBytes at fit
  have word : 1 < wordLimit := by decide
  omega

/-- A block for the pool can be made a slab. -/
theorem usable {block : Nat} (measured : pool.Measured) (ready : pool.ready = true)
    (shows : pool.Shows memory view) (whole : pool.blockSize % wordBytes = 0)
    (placed : 0 < block) (bounded : block + pool.blockSize < wordLimit) :
    (view.blank block).shape.Usable := by
  obtain ⟨positive, room⟩ := measured.fits ready
  have words := measured.words (by unfold Slab.headerBytes at room; omega)
  refine ⟨placed, ?_, ?_, ?_, ?_, ?_⟩
  · show block + view.blockSize < wordLimit
    rwa [← shows.blockSize]
  · show wordBytes ≤ view.elementSize
    rw [← shows.elementSize]
    exact Nat.le_of_dvd positive (Nat.dvd_of_mod_eq_zero words)
  · show view.elementSize % wordBytes = 0
    rwa [← shows.elementSize]
  · show view.blockSize % wordBytes = 0
    rwa [← shows.blockSize]
  · show Slab.headerBytes + view.elementSize ≤ view.blockSize
    rwa [← shows.elementSize, ← shows.blockSize]

end Measured

end SlabAllocator.ElementPool
