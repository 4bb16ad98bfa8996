import SlabAllocator.Proofs.Allocator.Acts
import SlabAllocator.Proofs.Allocator.Interlude

/-! Every element has its bytes for itself, in every world an honest run leads to and
through every request made there, however many requests are served meanwhile. -/
namespace SlabAllocator.World

open ElementPool

variable {σ : Type} {world : World σ} {name : String} {address : Nat}

/-- An element at a whole word, among the slots of a slab of its pool, that meets
nothing of any slab that is nobody's element, no block on its way and no lent block. -/
structure Exclusive (world : World σ) (name : String) (address : Nat) : Prop where
  aligned : address % wordBytes = 0
  home : ∃ pool, world.pool? name = some pool ∧ ∃ base ∈ pool.bases,
    let header := Slab.Header.load world.allocator.memory base
    ⟨base, header.slabSize⟩ ∈ pool.regions ∧
      (world.element (name, address)).Within
        ⟨base + header.firstOffset, header.slabSize - header.firstOffset⟩
  reserved : ∀ entry ∈ world.allocator.pools.entries, ∀ base ∈ entry.2.pool.bases,
    ∀ region ∈ Slab.reserved world.allocator.memory base,
      (world.element (name, address)).Apart region
  windows : ∀ window ∈ world.windows, (world.element (name, address)).Apart window.region
  lent : ∀ loan ∈ world.lent, (world.element (name, address)).Apart loan.region

/-- Every live element has its bytes for itself. -/
structure Separate (world : World σ) : Prop where
  exclusive : ∀ name address, (name, address) ∈ world.live → world.Exclusive name address
  apart : (world.live.map world.element).Pairwise Region.Apart

namespace Sound

/-- The pool of a live element, and how it is arranged. -/
theorem located (sound : world.Sound) (live : (name, address) ∈ world.live) :
    ∃ tenant view, world.allocator.pools.find? name = some tenant ∧
      tenant.pool.Shows world.allocator.memory view ∧
      (∀ other, (name, other) ∈ world.live ↔ view.Live other) ∧
      ∀ other, world.element (name, other) = ⟨other, view.elementSize⟩ := by
  have known := sound.owned _ live
  cases found : world.allocator.pools.find? name with
  | none => exact absurd known (Table.find?_eq_none_iff.1 found)
  | some tenant =>
    obtain ⟨view, shows, books⟩ := sound.shown name tenant found
    refine ⟨tenant, view, rfl, shows, books, fun other => ?_⟩
    unfold element pool?
    rw [found, ← shows.elementSize]
    rfl

theorem slabs_apart (sound : world.Sound) : world.slabs.Pairwise Region.Apart := by
  have laid := sound.laid.apart
  rw [regions_eq] at laid
  exact (List.pairwise_append.1 laid).1

/-- What a slab keeps for itself lies in the slab. -/
theorem reserved_within (sound : world.Sound) {entry : String × Tenant} {base : Nat}
    {region : Region} (member : entry ∈ world.allocator.pools.entries)
    (held : base ∈ entry.2.pool.bases) (kept : region ∈ Slab.reserved world.allocator.memory base) :
    ∃ slab ∈ world.slabs, slab.start = base ∧ region.Within slab := by
  have found := Table.find?_of_mem sound.names member
  obtain ⟨view, shows, -⟩ := sound.shown entry.1 entry.2 found
  obtain ⟨piece, inside, rfl⟩ := shows.piece_of_base held
  refine ⟨piece.shape.region, slab_of_pool found ?_, rfl, ?_⟩
  · exact shows.region_of_piece inside
  · exact Slab.Holds.reserved_within (shows.sound.held piece inside) kept

theorem exclusive (sound : world.Sound) (live : (name, address) ∈ world.live) :
    world.Exclusive name address := by
  obtain ⟨tenant, view, found, shows, books, range⟩ := sound.located live
  obtain ⟨piece, member, slot, inside, rfl⟩ := (books address).1 live
  have held := shows.sound.held piece member
  have used := held.partition.lt_used_of_live inside
  have mine := shows.region_of_piece member
  have slab := slab_of_pool found mine
  have placed := sound.laid.placed _ (mem_regions_of_slab slab)
  have within := held.element_within used
  have range := range (piece.shape.slot slot)
  rw [← shows.sound.sorted.elements piece member] at range
  refine ⟨held.usable.slot_aligned placed.2.1 slot, ?_, ?_, ?_, ?_⟩
  · refine ⟨tenant.pool, by rw [pool?, found]; rfl, piece.base, ?_, ?_⟩
    · exact shows.base_of_piece member
    · rw [held.load, range]
      exact ⟨mine, held.element_within_slots used⟩
  · intro entry known base its region kept
    rw [range]
    obtain ⟨other, otherSlab, rfl, otherWithin⟩ := sound.reserved_within known its kept
    by_cases same : piece.shape.region = other
    · subst same
      exact held.reserved_apart inside kept
    · exact (Region.apart_of_ne sound.slabs_apart slab otherSlab same).within within otherWithin
  · intro window waiting
    rw [range]
    exact (sound.window_apart waiting slab).symm.of_within within
  · intro loan lent
    rw [range]
    exact (sound.loan_apart lent slab).symm.of_within within

/-- Live elements do not overlap, whichever pools they belong to. -/
theorem elements_apart (sound : world.Sound) :
    (world.live.map world.element).Pairwise Region.Apart := by
  rw [List.pairwise_map]
  refine sound.once.imp_of_mem fun {first second} inFirst inSecond different => ?_
  obtain ⟨name, address⟩ := first
  obtain ⟨other, also⟩ := second
  obtain ⟨tenant, view, found, shows, books, range⟩ := sound.located inFirst
  have live := (books address).1 inFirst
  by_cases same : name = other
  · subst same
    rw [range, range]
    exact shows.sound.elements_apart live ((books also).1 inSecond)
      fun equal => different (by rw [equal])
  · obtain ⟨tenantToo, viewToo, foundToo, showsToo, booksToo, rangeToo⟩ := sound.located inSecond
    obtain ⟨slab, mine, within⟩ := shows.sound.live_within live
    obtain ⟨slabToo, its, withinToo⟩ := showsToo.sound.live_within ((booksToo also).1 inSecond)
    rw [← shows.regions_perm.mem_iff] at mine
    rw [← showsToo.regions_perm.mem_iff] at its
    rw [range, rangeToo]
    refine (sound.beside_apart found mine ?_).within within withinToo
    refine List.mem_flatMap.2 ⟨(other, tenantToo), Table.mem_of_find? ?_, its⟩
    rw [Table.find?_erase_of_ne _ fun equal => same equal.symm, foundToo]

theorem separate (sound : world.Sound) : world.Separate :=
  ⟨fun _ _ live => sound.exclusive live, sound.elements_apart⟩

end Sound

variable [BlockSource σ]

/-- Every element that is handed out, by a request or in one of its interludes, has its
bytes for itself from then on, until its pool takes it back. -/
theorem elements_exclusive (reachable : world.Reachable) :
    world.Separate ∧ ∀ name, ∃ more handed,
      world.Serves more (world.allocator.alloc name).2 handed ∧
      handed.map Prod.snd = (world.allocator.alloc name).1.addresses ∧
      (∀ address, (world.allocator.alloc name).1.outcome = .ok address →
        (name, address) ∈ handed) ∧
      (world.Supplied more → (world.run more).Separate) := by
  have sound := Sound.of_reachable reachable
  refine ⟨sound.separate, fun name => ?_⟩
  obtain ⟨more, handed, serves, addresses, mine⟩ :=
    serves_allocAt world.allocator.interludes.size world name
  refine ⟨more, handed, serves, addresses, mine, fun supplied => ?_⟩
  exact (sound.run (honestRun_of_supplied supplied serves.attends)).separate

theorem elements_exclusive_workday :
    (workshop.run workday).live.length = 3 ∧ (workshop.run workday).Separate :=
  ⟨by decide +kernel, (elements_exclusive workday_reachable).1⟩

end SlabAllocator.World
