import SlabAllocator.Proofs.Allocator.Footprint
import SlabAllocator.Proofs.ElementPool.Classification

/-! What a pool keeps from its set-up to its end: the source it draws on, the size of its
blocks and its resident slab. Nothing that happens to a pool at work changes any of them. -/
namespace SlabAllocator

namespace ElementPool

/-- A pool that works on: its blocks have the size they had, and its resident slab is where
it was. -/
structure Steady (before after : ElementPool) : Prop where
  blockSize : after.blockSize = before.blockSize
  resident : after.resident = before.resident

variable {pool next : ElementPool} {memory changed : Memory} {address : Nat}

theorem steady_attempt (served : pool.attempt memory = .served address next changed) :
    pool.Steady next := by
  refine ⟨(same_attempt served).blockSize, ?_⟩
  cases served ▸ pool.attempt_cases memory with
  | resident | carved => exact pool.recounted_countAlloc.resident
  | @parked base _ handed => exact (pool.park handed base).recounted_countAlloc.resident

theorem steady_adopt? {block : Nat} {adopted : Adopted}
    (made : pool.adopt? memory block = some adopted) : pool.Steady adopted.pool := by
  refine ⟨(same_adopt? made).blockSize, ?_⟩
  obtain ⟨_, _, _, -, -, carved, -⟩ := adopt?_cases made
  rw [carved]
  exact (recounted_countAlloc _).resident

theorem steady_free {freed : Freed} (taken : pool.free memory address = .ok freed) :
    pool.Steady freed.pool := by
  refine ⟨(same_free taken).blockSize, ?_⟩
  have counted := pool.recounted_countFree.resident
  cases taken ▸ pool.free_cases memory address with
  | resident | emptied | reopened | stayed => exact counted

end ElementPool

open ElementPool

namespace World

variable {σ : Type} [BlockSource σ] {world : World σ} {name : String} {tenant : Tenant}

/-- No pool moves, or one does and keeps its footing. -/
def WorksOn (world : World σ) (pools : Table Tenant) : Prop :=
  pools = world.allocator.pools ∨ ∃ name tenant next,
    world.allocator.pools.find? name = some tenant ∧
      pools = world.allocator.pools.insert name { tenant with pool := next } ∧
      tenant.pool.Steady next

omit [BlockSource σ] in
theorem WorksOn.absent {pools : Table Tenant} (works : world.WorksOn pools)
    (absent : world.allocator.pools.find? name = none) : pools.find? name = none := by
  rcases works with rfl | ⟨other, owner, next, its, rfl, -⟩
  · exact absent
  · rw [Table.find?_insert_of_ne, absent]
    rintro rfl
    rw [absent] at its
    cases its

namespace Sound

theorem request_worksOn (sound : world.Sound) (name : String) :
    world.WorksOn (world.perform (.request name)).allocator.pools := by
  cases found : world.allocator.pools.find? name with
  | none =>
    left
    simp only [World.perform, Allocator.seek_absent found]
    rfl
  | some tenant =>
    obtain ⟨view, shows, -⟩ := sound.shown name tenant found
    rcases seek_cases sound.names found shows with ⟨fault, after, sought, -, pools⟩ |
      ⟨block, after, sought, -, pools⟩ |
      ⟨address, next, changed, after, arranged, piece, fresh, sought, memory, pools, -⟩
    · left
      simp only [World.perform, sought, pools]
    · left
      simp only [World.perform, sought, pools]
    · right
      have moved : after.pools.find? name = some { tenant with pool := next } := by
        rw [pools, Table.find?_insert_self]
      refine ⟨name, tenant, next, found, ?_, steady_attempt (Allocator.attempt_of_seek found sought moved)⟩
      simp only [World.perform, sought, pools]

theorem publish_worksOn (sound : world.Sound) {window : Window} (member : window ∈ world.windows) :
    world.WorksOn (world.perform (.publish window)).allocator.pools := by
  obtain ⟨tenant, found, -⟩ := sound.awaited window member
  obtain ⟨view, shows, -⟩ := sound.shown window.pool tenant found
  obtain ⟨-, fault, after, published, -, pools⟩ | ⟨adopted, arranged, after, made, published, -, pools, -⟩ :=
    sound.publish_cases member found shows
  · left
    simp only [World.perform, published, pools]
  · right
    refine ⟨window.pool, tenant, adopted.pool, found, ?_, steady_adopt? made⟩
    simp only [World.perform, published, pools]

theorem release_worksOn (world : World σ) (name : String) (address : Nat) :
    world.WorksOn (world.perform (.release name address)).allocator.pools := by
  cases found : world.allocator.pools.find? name with
  | none =>
    left
    simp only [World.perform, Allocator.free_absent address found]
    rfl
  | some tenant =>
    cases taken : tenant.pool.free world.allocator.memory address with
    | error fault => exact .inl (free_refused found taken).2
    | ok freed => exact .inr ⟨name, tenant, freed.pool, found, (free_moved found taken).2,
        steady_free taken⟩

end Sound

end World

end SlabAllocator
