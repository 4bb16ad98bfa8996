import SlabAllocator.Proofs.Allocator.Exclusive
import SlabAllocator.Proofs.ElementPool.Classification

/-! The answer to any address that is given back to any pool, in every world an honest
run leads to. There are three answers and three kinds of addresses: those that repeat,
the other slots, and those that stray. -/
namespace SlabAllocator

open ElementPool

variable {σ : Type}

/-! ## What a free leaves alone -/

namespace Allocator

variable {allocator : Allocator σ} {name : String} {tenant : Tenant} {address : Nat}

/-- Two states of an allocator differ in the slab at `base`, which belongs to the pool
of that name, at most: every other slab has its header, its chain and its place. -/
structure DiffersAt (before after : Allocator σ) (name : String) (base : Nat) : Prop where
  others : ∀ other, other ≠ name → after.pools.find? other = before.pools.find? other
  pool : ∀ tenant, before.pools.find? name = some tenant → ∃ pool,
    after.pools.find? name = some { tenant with pool := pool } ∧
      ElementPool.DiffersAt ⟨tenant.pool, before.memory⟩ ⟨pool, after.memory⟩ base
  slabs : ∀ entry ∈ before.pools.entries, ∀ other ∈ entry.2.pool.bases, other ≠ base →
    Slab.Header.load after.memory other = Slab.Header.load before.memory other ∧
      Slab.freeList after.memory other = Slab.freeList before.memory other

variable [BlockSource σ]

/-- The source takes this block back. -/
def TakesBack (allocator : Allocator σ) (source : String) (block : Nat) : Prop :=
  ∃ supply given, allocator.sources.find? source = some supply ∧
    BlockSource.give supply allocator.system block = .ok given

/-- What the pool refuses is refused, with the same fault. -/
theorem free_answer_error {fault : Fault} (found : allocator.pools.find? name = some tenant)
    (refused : tenant.pool.free allocator.memory address = .error fault) :
    (allocator.free name address).1 = .error fault := by
  rw [free_rejected found refused]

/-- What the pool takes back is taken back if the source takes the block that goes. -/
theorem free_answer_ok {freed : Freed} (found : allocator.pools.find? name = some tenant)
    (taken : tenant.pool.free allocator.memory address = .ok freed)
    (accepting : ∀ base ∈ freed.retired, allocator.TakesBack tenant.source base) :
    (allocator.free name address).1 = .ok () := by
  cases gone : freed.retired with
  | none => rw [free_kept found taken gone]
  | some base =>
    obtain ⟨supply, given, present, gave⟩ := accepting base gone
    rw [free_emptied found taken gone]
    simp only [giveBlock, letGo, setPool, present, gave]

end Allocator

namespace World

variable {world : World σ} {name : String} {tenant : Tenant} {address : Nat}

namespace Sound

/-- What is in somebody else's hands is in no slab of the pool. -/
theorem stray_of_abroad (sound : world.Sound)
    (found : world.allocator.pools.find? name = some tenant) {region : Region}
    (its : region ∈ world.beside name ++ world.lentRegions)
    (inside : region.contains address = true) :
    tenant.pool.Stray world.allocator.memory address := by
  refine .outside fun slab mine => ?_
  have laid := sound.laid.perm (slabs_perm sound.names found).symm
  exact (laid.append_apart mine its).symm.not_contains inside

theorem stray_of_element (sound : world.Sound)
    (found : world.allocator.pools.find? name = some tenant) {element : String × Nat}
    (live : element ∈ world.live) (different : element.1 ≠ name)
    (inside : (world.element element).contains address = true) :
    tenant.pool.Stray world.allocator.memory address := by
  obtain ⟨other, start⟩ := element
  obtain ⟨owner, view, known, shows, books, range⟩ := sound.located live
  obtain ⟨slab, its, within⟩ := shows.sound.live_within ((books start).1 live)
  rw [range] at inside
  rw [← shows.regions_perm.mem_iff] at its
  have beside : slab ∈ world.beside name := by
    refine List.mem_flatMap.2 ⟨(other, owner), Table.mem_of_find? ?_, its⟩
    rw [Table.find?_erase_of_ne _ different, known]
  refine sound.stray_of_abroad found (List.mem_append_left _ beside) ?_
  exact within.contains inside

end Sound

variable [BlockSource σ]

/-- How a pool answers to an address, in full. -/
structure Classified (world : World σ) (name : String) (pool : ElementPool) (address : Nat) :
    Prop where
  doubleFree : (world.allocator.free name address).1 = .error (.doubleFree address) ↔
    pool.Repeats world.allocator.memory address
  accepted : (world.allocator.free name address).1 = .ok () ↔
    pool.IsSlot world.allocator.memory address ∧ ¬ pool.Repeats world.allocator.memory address
  foreign : (world.allocator.free name address).1 = .error (.foreignPointer address) ↔
    pool.Stray world.allocator.memory address
  /-- An accepted address lies in one slab only, of any pool, and no other slab changes. -/
  owner : (world.allocator.free name address).1 = .ok () →
    ∃ slab ∈ pool.regions, Slab.IsSlot world.allocator.memory slab.start address ∧
      slab.contains address = true ∧
      (∀ other ∈ world.slabs, other.contains address = true → other = slab) ∧
      world.allocator.DiffersAt (world.allocator.free name address).2 name slab.start
  /-- What lies in a slab of another pool, in a block on its way or in a lent one strays. -/
  abroad : ∀ region ∈ world.beside name ++ world.lentRegions, region.contains address = true →
    pool.Stray world.allocator.memory address
  /-- So does what lies in a live element of another pool. -/
  elements : ∀ element ∈ world.live, element.1 ≠ name →
    (world.element element).contains address = true →
    pool.Stray world.allocator.memory address

namespace Sound

variable {view : View}

/-- A slot that is taken back leaves every other slab as it was. -/
theorem differsAt (sound : world.Sound) (found : world.allocator.pools.find? name = some tenant)
    (shows : tenant.pool.Shows world.allocator.memory view) {piece : Piece} {freed : Freed}
    (member : piece ∈ view.pieces)
    (taken : tenant.pool.free world.allocator.memory address = .ok freed)
    (within : world.allocator.memory.ChangedAmong freed.memory (piece.shape.region :: view.links))
    (differs : ElementPool.DiffersAt ⟨tenant.pool, world.allocator.memory⟩
      ⟨freed.pool, freed.memory⟩ piece.base) :
    world.allocator.DiffersAt (world.allocator.free name address).2 name piece.base := by
  obtain ⟨memory, pools⟩ := free_moved found taken
  have mine := shows.region_of_piece member
  have slab := slab_of_pool found mine
  refine ⟨fun other different => ?_, fun owner its => ?_, fun entry known base held different => ?_⟩
  · rw [pools, Table.find?_insert_of_ne _ _ different]
  · rw [found] at its
    cases its
    exact ⟨freed.pool, by rw [pools, Table.find?_insert_self], memory ▸ differs⟩
  · rw [memory]
    obtain ⟨its, shown, -⟩ := sound.shown entry.1 entry.2 (Table.find?_of_mem sound.names known)
    obtain ⟨other, beside, rfl⟩ := shown.piece_of_base held
    have also : other.shape.region ∈ world.slabs := by
      refine slab_of_pool (Table.find?_of_mem sound.names known) ?_
      exact shown.region_of_piece beside
    have apart := Region.apart_of_ne sound.slabs_apart slab also fun same =>
      different (congrArg Region.start same).symm
    have heldOther := shown.sound.held other beside
    refine heldOther.same_of_agree (within.agree fun written listed => ?_)
    rcases List.mem_cons.1 listed with rfl | link
    · exact apart.within (.refl _) (Slab.Holds.body_within heldOther.usable)
    · exact sound.link_apart found shows link (Table.find?_of_mem sound.names known) shown beside

/-- The three answers to an address. -/
theorem free_answers (sound : world.Sound)
    (found : world.allocator.pools.find? name = some tenant)
    (shows : tenant.pool.Shows world.allocator.memory view) (present : address ≠ 0)
    (accepting : ∀ base ∈ tenant.pool.slabs world.allocator.memory,
      world.allocator.TakesBack tenant.source base) :
    (tenant.pool.Repeats world.allocator.memory address ∧
      tenant.pool.IsSlot world.allocator.memory address ∧
      (world.allocator.free name address).1 = .error (.doubleFree address)) ∨
    (¬ tenant.pool.Repeats world.allocator.memory address ∧
      tenant.pool.IsSlot world.allocator.memory address ∧
      (world.allocator.free name address).1 = .ok () ∧
      ∃ piece ∈ view.pieces, Slab.IsSlot world.allocator.memory piece.base address ∧
        world.allocator.DiffersAt (world.allocator.free name address).2 name piece.base) ∨
    (¬ tenant.pool.Repeats world.allocator.memory address ∧
      ¬ tenant.pool.IsSlot world.allocator.memory address ∧
      (world.allocator.free name address).1 = .error (.foreignPointer address)) := by
  by_cases slot : tenant.pool.IsSlot world.allocator.memory address
  · by_cases repeats : tenant.pool.Repeats world.allocator.memory address
    · have refused := shows.free_doubleFree present repeats
      exact .inl ⟨repeats, slot, Allocator.free_answer_error found refused⟩
    · obtain ⟨piece, member, -, here⟩ := shows.slot_owner slot
      obtain ⟨freed, taken, within, differs, gone⟩ :=
        shows.free_accepted present member here repeats
      have answered := Allocator.free_answer_ok found taken fun base retired =>
        accepting base (gone base retired).2
      exact .inr (.inl ⟨repeats, slot, answered, piece, member, here,
        sound.differsAt found shows member taken within differs⟩)
  · have refused := shows.free_foreign slot
    exact .inr (.inr ⟨fun repeats => slot (shows.slot_of_repeats present repeats), slot,
      Allocator.free_answer_error found refused⟩)

theorem classified (sound : world.Sound)
    (found : world.allocator.pools.find? name = some tenant) (present : address ≠ 0)
    (accepting : ∀ base ∈ tenant.pool.slabs world.allocator.memory,
      world.allocator.TakesBack tenant.source base) :
    world.Classified name tenant.pool address := by
  obtain ⟨view, shows, -⟩ := sound.shown name tenant found
  have answers := sound.free_answers found shows present accepting
  refine ⟨?_, ?_, ?_, fun accepted => ?_, fun region its => sound.stray_of_abroad found its,
    fun element live => sound.stray_of_element found live⟩
  · rcases answers with ⟨repeats, -, answer⟩ | ⟨single, -, answer, -⟩ | ⟨single, -, answer⟩
    · exact iff_of_true answer repeats
    · exact iff_of_false (by rw [answer]; simp) single
    · exact iff_of_false (by rw [answer]; simp) single
  · rcases answers with ⟨repeats, -, answer⟩ | ⟨single, slot, answer, -⟩ | ⟨-, unknown, answer⟩
    · exact iff_of_false (by rw [answer]; simp) fun both => both.2 repeats
    · exact iff_of_true answer ⟨slot, single⟩
    · exact iff_of_false (by rw [answer]; simp) fun both => unknown both.1
  · rw [shows.stray_iff]
    rcases answers with ⟨-, slot, answer⟩ | ⟨-, slot, answer, -⟩ | ⟨-, unknown, answer⟩
    · exact iff_of_false (by rw [answer]; simp) fun unknown => unknown slot
    · exact iff_of_false (by rw [answer]; simp) fun unknown => unknown slot
    · exact iff_of_true answer unknown
  · rcases answers with ⟨-, -, answer⟩ | ⟨-, -, -, piece, member, here, differs⟩ | ⟨-, -, answer⟩
    · rw [answer] at accepted
      cases accepted
    · have mine := shows.region_of_piece member
      have inside := (shows.sound.held piece member).contains_of_slot here
      refine ⟨piece.shape.region, mine, here, inside, fun other held also => ?_, differs⟩
      apply Classical.byContradiction
      intro different
      have apart := Region.apart_of_ne sound.slabs_apart (slab_of_pool found mine) held
        fun same => different same.symm
      rw [apart.not_contains inside] at also
      cases also
    · rw [answer] at accepted
      cases accepted

end Sound

/-- After every honest run, and in the middle of every request, a pool whose source takes
its blocks back answers to every address as `Classified` says. -/
theorem free_classified (reachable : world.Reachable)
    (found : world.allocator.pools.find? name = some tenant) (present : address ≠ 0)
    (accepting : ∀ base ∈ tenant.pool.slabs world.allocator.memory,
      world.allocator.TakesBack tenant.source base) :
    world.Classified name tenant.pool address :=
  (Sound.of_reachable reachable).classified found present accepting

theorem free_classified_workday : ∃ tenant,
    (workshop.run workday).allocator.pools.find? "wide" = some tenant ∧
      (workshop.run workday).Classified "wide" tenant.pool 69728 := by
  have known : ((workshop.run workday).allocator.pools.find? "wide").map Tenant.source =
      some "shelf" := by decide +kernel
  have shelf : (workshop.run workday).allocator.sources.find? "shelf" =
      some ⟨⟨65536, 12288⟩, 4096, [2], 2, false⟩ := by decide +kernel
  obtain ⟨tenant, found, source⟩ := Option.map_eq_some_iff.1 known
  refine ⟨tenant, found, free_classified workday_reachable found (by decide) fun base _ => ?_⟩
  rw [source]
  exact ⟨_, _, shelf, rfl⟩

end World

end SlabAllocator
