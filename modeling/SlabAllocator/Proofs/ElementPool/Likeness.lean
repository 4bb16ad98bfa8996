import SlabAllocator.Proofs.ElementPool.Counters

/-! Two pools that are arranged alike, each in its own memory. Asked the same, they answer
alike and are arranged alike again: what they write into elements and which totals they
keep has no part in it. An observer who looks at neither can not tell them apart. -/
namespace SlabAllocator

/-- Whether a range can be made a slab does not depend on what it held. -/
theorem Slab.format?_unfit {memory : Memory} {base slabSize elementSize : Nat}
    (unfit : Slab.format? memory base slabSize elementSize = none) (also : Memory) :
    Slab.format? also base slabSize elementSize = none :=
  Slab.format?_eq_none_iff.2 (Slab.format?_eq_none_iff.1 unfit)

namespace ElementPool

/-- Two pools look the same to whoever looks at neither elements nor totals: lists, sizes,
and what the slabs keep of themselves. -/
structure Indistinct (one : ElementPool) (memory : Memory) (other : ElementPool)
    (also : Memory) : Prop where
  ready : one.ready = other.ready
  slabCount : one.slabCount = other.slabCount
  allocatedBytes : one.allocatedBytes = other.allocatedBytes
  allocatedBlockBytes : one.allocatedBlockBytes = other.allocatedBlockBytes
  containsResident : one.containsResident = other.containsResident
  bases : one.bases = other.bases
  partialSlabs : one.partialSlabs memory = other.partialSlabs also
  fullSlabs : one.fullSlabs memory = other.fullSlabs also
  index : one.index = other.index
  headers : ∀ base ∈ one.bases, Slab.Header.load memory base = Slab.Header.load also base
  chains : ∀ base ∈ one.bases, Slab.freeList memory base = Slab.freeList also base

/-- Two pools have the same arrangement, and have counted the same elements and bytes. -/
structure Mirrors (view : View) (one : ElementPool) (memory : Memory) (other : ElementPool)
    (also : Memory) : Prop where
  shows : one.Shows memory view
  showsToo : other.Shows also view
  ready : one.ready = other.ready
  live : one.live = other.live
  carvedBytes : one.carvedBytes = other.carvedBytes

namespace Mirrors

variable {view after : View} {one other next nextToo : ElementPool}
  {memory also changed changedToo : Memory}

theorem blockSize (mirrors : Mirrors view one memory other also) :
    one.blockSize = other.blockSize :=
  mirrors.shows.blockSize.trans mirrors.showsToo.blockSize.symm

theorem elementSize (mirrors : Mirrors view one memory other also) :
    one.elementSize = other.elementSize :=
  mirrors.shows.elementSize.trans mirrors.showsToo.elementSize.symm

theorem resident (mirrors : Mirrors view one memory other also) : one.resident = other.resident :=
  mirrors.shows.resident.trans mirrors.showsToo.resident.symm

theorem slabs (mirrors : Mirrors view one memory other also) :
    one.slabs memory = other.slabs also :=
  mirrors.shows.slabs_eq.trans mirrors.showsToo.slabs_eq.symm

/-- Ascending lists of the same ends are the same list. -/
theorem index (mirrors : Mirrors view one memory other also) : one.index = other.index := by
  have same := mirrors.shows.indexed.trans mirrors.showsToo.indexed.symm
  exact same.eq_of_pairwise (fun _ _ _ _ less more => absurd more (Nat.lt_asymm less))
    mirrors.shows.ascending mirrors.showsToo.ascending

theorem unfitBlock (mirrors : Mirrors view one memory other also) :
    one.unfitBlock = other.unfitBlock := by
  unfold ElementPool.unfitBlock
  rw [mirrors.blockSize, mirrors.elementSize]

/-- What two pools with the same arrangement show is the same. -/
theorem indistinct (mirrors : Mirrors view one memory other also) :
    one.Indistinct memory other also where
  ready := mirrors.ready
  slabCount := congrArg List.length mirrors.index
  allocatedBytes := by
    unfold allocatedBytes
    rw [mirrors.live, mirrors.elementSize]
  allocatedBlockBytes := by
    unfold allocatedBlockBytes
    rw [mirrors.resident, mirrors.carvedBytes]
  containsResident := by
    funext address
    unfold containsResident
    rw [mirrors.resident]
  bases := by
    unfold bases blocks
    rw [mirrors.resident, mirrors.index, mirrors.blockSize]
  partialSlabs := mirrors.shows.partialSlabs_eq.trans mirrors.showsToo.partialSlabs_eq.symm
  fullSlabs := mirrors.shows.fullSlabs_eq.trans mirrors.showsToo.fullSlabs_eq.symm
  index := mirrors.index
  headers := by
    intro base known
    obtain ⟨piece, member, rfl⟩ := mirrors.shows.piece_of_base known
    rw [(mirrors.shows.sound.held piece member).load, (mirrors.showsToo.sound.held piece member).load]
  chains := by
    intro base known
    obtain ⟨piece, member, rfl⟩ := mirrors.shows.piece_of_base known
    rw [(mirrors.shows.sound.held piece member).freeList_eq,
      (mirrors.showsToo.sound.held piece member).freeList_eq]

/-- Pools that came to the same arrangement and counted the same on the way. -/
theorem advance {tally tallyToo : Tally} {bytes bytesToo : Nat}
    (mirrors : Mirrors view one memory other also) (shown : next.Shows changed after)
    (shownToo : nextToo.Shows changedToo after) (counted : one.Counted next tally bytes)
    (countedToo : other.Counted nextToo tallyToo bytesToo) (live : tally.live = tallyToo.live)
    (carved : bytes = bytesToo) : Mirrors after next changed nextToo changedToo where
  shows := shown
  showsToo := shownToo
  ready := (counted.ready.trans mirrors.ready).trans countedToo.ready.symm
  live := by
    have mine := congrArg Tally.live counted.tally
    have its := congrArg Tally.live countedToo.tally
    exact (mine.trans live).trans its.symm
  carvedBytes := (counted.carvedBytes.trans carved).trans countedToo.carvedBytes.symm

theorem live_alloc (mirrors : Mirrors view one memory other also) :
    (one.tally.alloc one.config one.elementSize).live =
      (other.tally.alloc other.config other.elementSize).live := by
  rw [Tally.live_alloc, Tally.live_alloc]
  exact congrArg (· + 1) mirrors.live

theorem live_free (mirrors : Mirrors view one memory other also) :
    (one.tally.free one.config).live = (other.tally.free other.config).live := by
  rw [Tally.live_free, Tally.live_free]
  exact congrArg (· - 1) mirrors.live

/-- Set up on the same system, both fail with the same fault or both get the same resident
slab. -/
theorem init (mirrors : Mirrors view one memory other also) (system : System) (count : Nat) :
    (one.init memory system count).map (fun setup => (setup.pool.resident, setup.system)) =
      (other.init also system count).map fun setup => (setup.pool.resident, setup.system) := by
  have layouts : one.residentLayout count = other.residentLayout count := by
    unfold residentLayout
    rw [mirrors.elementSize]
  unfold ElementPool.init room
  rw [mirrors.ready, mirrors.elementSize, mirrors.blockSize, layouts]
  split
  · rfl
  · split
    · rfl
    · split
      · rfl
      · split
        · exact congrArg (fun resident => Except.ok (resident, system)) mirrors.resident
        · cases other.residentLayout count with
          | error fault => rfl
          | ok layout =>
            simp only [bind, Except.bind]
            cases system.request layout with
            | error fault => rfl
            | ok granted =>
              simp only
              cases made : Slab.format? memory granted.1 layout.size other.elementSize with
              | none => rw [Slab.format?_unfit made also]
              | some formatted =>
                cases madeToo : Slab.format? also granted.1 layout.size other.elementSize with
                | none => exact absurd (Slab.format?_unfit madeToo memory) (by rw [made]; simp)
                | some formattedToo => rfl

end Mirrors

end ElementPool

end SlabAllocator
