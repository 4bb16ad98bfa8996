import SlabAllocator.Proofs.Allocator.Failures

/-! Failed calls leave no trace. Pools, memory, sources and system are as they were before the
call, and only the journal may have grown. The one exception is a release after which a slab
goes away whose block the source does not want: the pool has let go of the slab all the same. -/
namespace SlabAllocator

open ElementPool

/-- No call on this block pool that fails leaves a trace, whichever step it fails at. -/
structure BlockPool.Traceless (pool : BlockPool) (system : System) : Prop where
  init : ∀ count fault after, (initCourse count).run (pool, system) = .error fault after →
    after = (pool, system) ∧ pool.init system count = .error fault
  alloc : ∀ fault after, allocCourse.run (pool, system) = .error fault after →
    after = (pool, system) ∧ pool.alloc system = .error fault
  release : ∀ block fault after, (releaseCourse block).run (pool, system) = .error fault after →
    after = (pool, system) ∧ pool.release system block = .error fault

theorem BlockPool.traceless (pool : BlockPool) (system : System) : pool.Traceless system := by
  refine ⟨?_, ?_, ?_⟩
  · intro count fault after failed
    rw [initCourse_run] at failed
    exact Course.ended_error failed
  · intro fault after failed
    rw [allocCourse_run] at failed
    exact Course.ended_error failed
  · intro block fault after failed
    rw [releaseCourse_run] at failed
    exact Course.ended_error failed

theorem ElementPool.retire_index (pool : ElementPool) (memory : Memory) (base : Nat) :
    (pool.retire memory base).index = pool.index.erase (base + pool.blockSize) := rfl

theorem ElementPool.retire_carvedBytes (pool : ElementPool) (memory : Memory) (base : Nat) :
    (pool.retire memory base).carvedBytes = pool.carvedBytes - pool.blockSize := rfl

/-- The ring of a slab that goes loses it and keeps its order. -/
theorem ElementPool.Shows.lists_retire {pool : ElementPool} {memory released : Memory} {view : View}
    {piece : Piece} {address : Nat} {transition : Slab.Transition} (shows : pool.Shows memory view)
    (carved : piece ∈ view.carved)
    (taken : Slab.free memory piece.base address = .ok (transition, released)) :
    let rest := pool.countFree.retire released piece.base
    rest.partialSlabs rest.memory = (pool.partialSlabs memory).erase piece.base ∧
      rest.fullSlabs rest.memory = (pool.fullSlabs memory).erase piece.base := by
  have counted := shows.countFree
  have written := (shows.body_of_free (View.mem_of_carved carved) taken).1
  have listed := mem_rows carved
  have threads := (counted.threads_of_body (View.mem_of_carved carved) written).unlink listed
  intro rest
  have rows : Threads (rest.rings rest.memory) _ _ :=
    threads.threads.of_agree rfl fun _ _ => .of_eq rfl _
  rw [shows.partialSlabs_eq, shows.fullSlabs_eq]
  exact lists_of_threads rest rows (counted.length_retire listed released)

variable {σ : Type} [BlockSource σ]

/-- With this address a carved slab lost its last element, but its block was refused. -/
structure Allocator.Stranded (allocator after : Allocator σ) (name : String) (address : Nat)
    (fault : Fault) (tenant : Tenant) (freed : Freed) (base : Nat) : Prop where
  found : allocator.pools.find? name = some tenant
  taken : tenant.pool.free allocator.memory address = .ok freed
  carved : base ∈ tenant.pool.slabs allocator.memory
  refused : (allocator.giveBlock tenant.source base).1 = .error fault
  /-- The pool has let go of the element and of the slab. -/
  released : ∃ emptied, Slab.free allocator.memory base address = .ok (.emptied, emptied) ∧
    freed.pool = (tenant.pool.countFree.retire emptied base).toElementPool ∧
    freed.memory = (tenant.pool.countFree.retire emptied base).memory
  unlinked : freed.pool.partialSlabs freed.memory =
      (tenant.pool.partialSlabs allocator.memory).erase base ∧
    freed.pool.fullSlabs freed.memory = (tenant.pool.fullSlabs allocator.memory).erase base
  unindexed : freed.pool.index = tenant.pool.index.erase (base + tenant.pool.blockSize)
  bytes : freed.pool.carvedBytes + tenant.pool.blockSize = tenant.pool.carvedBytes
  /-- Nothing else changes, the sources and the system least of all. -/
  after_eq : after = Allocator.note { allocator.setPool name tenant freed.pool with
    memory := freed.memory } fault.events
  /-- Pools and memory are as they would be if the block had been taken back. -/
  accepted : ∀ accepting : Allocator σ, accepting.pools = allocator.pools →
    accepting.memory = allocator.memory → (accepting.free name address).1 = .ok () →
      (accepting.free name address).2.pools = after.pools ∧
        (accepting.free name address).2.memory = after.memory

namespace World

variable {world : World σ}

/-- No call that fails leaves a trace in this world, apart from refused blocks. -/
structure Traceless (world : World σ) : Prop where
  take : ∀ source fault after, world.allocator.takeBlock source = (.error fault, after) →
    after = world.allocator.note fault.events
  give : ∀ source block fault after,
    world.allocator.giveBlock source block = (.error fault, after) →
      after = world.allocator.note fault.events
  setUp : ∀ name count fault after, world.allocator.initPool name count = (.error fault, after) →
    after = world.allocator.note fault.events
  /-- A set-up of a pool leaves no trace whichever step it fails at. -/
  steps : ∀ name tenant, world.allocator.pools.find? name = some tenant →
    ∀ count fault after,
      (initCourse count).run ⟨tenant.pool, world.allocator.memory, world.allocator.system⟩ =
          .error fault after →
        after = ⟨tenant.pool, world.allocator.memory, world.allocator.system⟩ ∧
          tenant.pool.init world.allocator.memory world.allocator.system count = .error fault
  /-- A request that fails was not even interrupted by others. -/
  request : ∀ name fault, (world.allocator.alloc name).1.outcome = .error fault →
    world.allocator.alloc name = (.answered [] (.error fault), world.allocator.note fault.events)
  release : ∀ name address fault after,
    world.allocator.free name address = (.error fault, after) →
      after = world.allocator.note fault.events ∨ ∃ tenant freed base,
        world.allocator.Stranded after name address fault tenant freed base

/-- A slab that goes away is forgotten whether or not its block is taken back. -/
theorem Sound.stranded {name : String} {address base : Nat} {fault : Fault} {after : Allocator σ}
    {tenant : Tenant} {freed : Freed} (sound : world.Sound) (measured : world.Measured)
    (found : world.allocator.pools.find? name = some tenant)
    (taken : tenant.pool.free world.allocator.memory address = .ok freed)
    (gone : freed.retired = some base)
    (refused : (world.allocator.giveBlock tenant.source base).1 = .error fault)
    (same : after = Allocator.note { world.allocator.setPool name tenant freed.pool with
      memory := freed.memory } fault.events) :
    world.allocator.Stranded after name address fault tenant freed base := by
  obtain ⟨view, shows, -⟩ := sound.shown name tenant found
  obtain ⟨piece, -, -, -, retired⟩ := shows.free_writes taken
  obtain ⟨-, carved⟩ := retired base gone
  obtain ⟨emptied, settled, released, left⟩ := retire_of_free taken gone
  obtain ⟨size, -, -, -, -, -, index, bytes⟩ := tenant.pool.recounted_countFree
  refine ⟨found, taken, carved, refused, ⟨emptied, settled, released, left⟩, ?_, ?_, ?_, same, ?_⟩
  · rw [shows.slabs_eq] at carved
    obtain ⟨slab, member, rfl⟩ := List.mem_map.1 carved
    rw [released, left]
    exact shows.lists_retire member settled
  · rw [released, retire_index, index, size]
  · -- Natural subtraction is exact here because the slab is one of those counted.
    have some : 0 < view.carved.length := by
      rw [shows.slabs_eq] at carved
      obtain ⟨slab, member, -⟩ := List.mem_map.1 carved
      exact List.length_pos_of_mem member
    have whole := (measured name tenant found).carved
    rw [shows.slabCount_eq] at whole
    have one := Nat.le_mul_of_pos_right tenant.pool.blockSize some
    rw [released, retire_carvedBytes, bytes, size]
    omega
  · intro accepting pools memory answered
    have known : accepting.pools.find? name = some tenant := by
      rw [pools]
      exact found
    have accepted : tenant.pool.free accepting.memory address = .ok freed := by
      rw [memory]
      exact taken
    obtain ⟨memory, moved⟩ := free_moved known accepted
    rw [same, moved, memory, pools]
    exact ⟨rfl, rfl⟩

/-- A pool with one element, on a shelf that takes no block back. -/
def stubborn : World Shelf :=
  .run (.start { workshop.allocator with
      sources := ⟨[("shelf", { Shelf.new 65536 4096 3 [0, 1, 2] with refusing := true })]⟩ })
    [.create "narrow" "shelf" 4096 4032 .standard, .setUp "narrow" 0, .request "narrow",
      .publish ⟨"narrow", 65536, 4096⟩]

end World

end SlabAllocator
