import SlabAllocator.Proofs.Allocator.Deeds

/-! Where the memory of the system is. At every moment of an honest run, all that is in use of
the system are the caches of block pools, the resident slabs of element pools and the blocks
that block pools have lent from the system; and whatever was granted is in use or came back,
once. -/
namespace SlabAllocator.Estate

/-- The blocks of the system among the blocks of a source that are out. -/
def fallbacksOf (out : List (String × Nat)) (entry : String × Supplier) : List (String × Region) :=
  match entry.2 with
  | .ofPool pool =>
    (pool.outside (blocksAt entry.1 out)).map fun block => (entry.1, pool.range block)
  | .ofShelf _ => []

/-- The blocks of the system that are out, with the block pool they came through. -/
def fallbacks (estate : Estate) : List (String × Region) :=
  estate.session.sources.entries.flatMap (fallbacksOf estate.world.held)

/-- All memory of the system is accounted for. -/
structure Conserved (estate : Estate) : Prop where
  /-- In use are caches, resident slabs and blocks of the system that are out; some of the
  latter have outlived their block pool. -/
  held : estate.session.system.held.Perm
    (((cacheRegions estate.session.sources).map Prod.snd ++ estate.fallbacks.map Prod.snd) ++
      ((residence estate.world).map Prod.snd ++ estate.abandoned))
  /-- There is one cache for each block pool that was set up with blocks and has not ended, of
  as many bytes as those blocks have. -/
  caches : ((cacheRegions estate.session.sources).map bytes).Perm estate.caches
  /-- There is one resident slab for each element pool that was set up with elements and has not
  ended, of as many bytes as those elements and a header have. -/
  residents : ((residence estate.world).map bytes).Perm estate.residents
  /-- The counters of a block pool tell how many of its blocks are out. -/
  counted : ∀ name pool, estate.session.sources.find? name = some (.ofPool pool) →
    pool.stats.fallbackOutstanding = (pool.outside (blocksAt name estate.world.held)).length ∧
      pool.stats.cacheInUse = (pool.inside (blocksAt name estate.world.held)).length
  /-- When a block pool ends, its blocks of the system that are out are those which somebody
  took directly and did not give back. -/
  forsaken : ∀ name pool, estate.session.sources.find? name = some (.ofPool pool) →
    (∀ entry ∈ estate.session.pools.entries, entry.2.source ≠ name) →
      (pool.outside (blocksAt name estate.world.held)).map pool.range =
        (estate.loansOf name pool).map Loan.region
  /-- Every region ever granted is in use or came back, and it came back once. -/
  returned : estate.session.system.granted.Perm
    (estate.session.system.held ++ estate.session.system.released)
  apart : estate.session.system.held.Pairwise Region.Apart
  /-- A set-up that fails leaves the system as it was. -/
  refused : ∀ name count fault,
    ((estate.session.initPool name count).1 = .error fault →
      (estate.session.initPool name count).2.system = estate.session.system) ∧
    (∀ source pool, (estate.session.setUpPool name source pool count).1 = .error fault →
      (estate.session.setUpPool name source pool count).2.system = estate.session.system) ∧
    ∀ pool, (estate.session.setUpBlocks name pool count).1 = .error fault →
      (estate.session.setUpBlocks name pool count).2.system = estate.session.system
  /-- When all pools are gone, only blocks that were taken directly are left. -/
  emptied : estate.session.pools.entries = [] → estate.session.sources.entries = [] →
    estate.session.system.held.Perm estate.abandoned

variable {estate : Estate}

/-- What a source holds of the system is its cache and its blocks of the system that are out. -/
theorem holdings_eq (out : List (String × Nat)) (entry : String × Supplier) :
    holdings out entry = (cacheOf entry).map Prod.snd ++ (fallbacksOf out entry).map Prod.snd := by
  unfold holdings cacheOf fallbacksOf
  cases entry.2 with
  | ofPool pool =>
    simp only [List.map_map]
    congr 1
    exact (List.map_id _).symm
  | ofShelf shelf => rfl

/-- A set-up that fails leaves the system as it was. -/
theorem system_refused (session : Session) (name : String) (count : Nat) (fault : Fault) :
    ((session.initPool name count).1 = .error fault →
        (session.initPool name count).2.system = session.system) ∧
      (∀ source pool, (session.setUpPool name source pool count).1 = .error fault →
        (session.setUpPool name source pool count).2.system = session.system) ∧
      ∀ pool, (session.setUpBlocks name pool count).1 = .error fault →
        (session.setUpBlocks name pool count).2.system = session.system := by
  refine ⟨fun failed => ?_, fun source pool failed => ?_, fun pool failed => ?_⟩
  · have same : (session.initPool name count).2 = session.note fault.events :=
      Allocator.initPool_failed (Prod.ext failed rfl)
    exact (congrArg Allocator.system same).trans rfl
  · unfold Session.setUpPool at failed ⊢
    split at failed
    · rfl
    · cases failed
  · unfold Session.setUpBlocks at failed ⊢
    split at failed
    · rfl
    · cases failed

namespace Solvent

variable (solvent : estate.Solvent)
include solvent

/-- Caches, blocks of the system that are out and resident slabs are all there is in use. -/
theorem held_split : estate.session.system.held.Perm
    (((cacheRegions estate.session.sources).map Prod.snd ++ estate.fallbacks.map Prod.snd) ++
      ((residence estate.world).map Prod.snd ++ estate.abandoned)) := by
  refine solvent.funded.held.trans (List.Perm.append_right _ ?_)
  unfold cacheRegions fallbacks
  rw [List.map_flatMap, List.map_flatMap, funext (holdings_eq estate.world.held)]
  exact (List.flatMap_append_perm _ _ _).symm

/-- The counters of a block pool agree with the blocks that are out. -/
theorem counters {name : String} {pool : BlockPool}
    (found : estate.session.sources.find? name = some (.ofPool pool)) :
    pool.stats.fallbackOutstanding = (pool.outside (blocksAt name estate.world.held)).length ∧
      pool.stats.cacheInUse = (pool.inside (blocksAt name estate.world.held)).length := by
  have tracks := solvent.funded.tracks found
  have counted := tracks.counted
  have size := BlockPool.Keeps.size tracks
  unfold BlockPool.stats BlockPool.Stats.fallbackOutstanding BlockPool.Stats.cacheInUse
  simp only
  omega

/-- Without any pools, nothing but forsaken blocks is in use. -/
theorem held_without_pools (pools : estate.session.pools.entries = [])
    (sources : estate.session.sources.entries = []) :
    estate.session.system.held.Perm estate.abandoned := by
  have split := solvent.held_split
  have caches : cacheRegions estate.session.sources = [] := by
    unfold cacheRegions
    rw [sources]
    rfl
  have fallbacks : estate.fallbacks = [] := by
    unfold Estate.fallbacks
    rw [sources]
    rfl
  have residents : residence estate.world = [] := by
    unfold residence
    rw [show estate.world.allocator.pools.entries = [] from pools]
    rfl
  rwa [caches, fallbacks, residents] at split

/-- A solvent estate knows where the memory of the system is. -/
theorem conserved : estate.Conserved where
  held := solvent.held_split
  caches := solvent.caches.symm
  residents := solvent.residents.symm
  counted _ _ found := solvent.counters found
  forsaken _ _ found tenants := solvent.lent_of_pool tenants found
  returned := solvent.funded.returned
  apart := solvent.funded.laid.apart
  refused := system_refused estate.session
  emptied := solvent.held_without_pools

end Solvent

/-- **The memory of the system is conserved.** -/
theorem system_memory_conserved (memory : Memory) (policy : Policy) {deeds : List Deed}
    (honest : (start memory policy).HonestRun deeds) : ((start memory policy).run deeds).Conserved :=
  ((Solvent.start memory policy).run honest).conserved

/-- Two block pools and an element pool on one of them. Making a third block pool fails, and
when the system grants nothing any more, so do a request and a set-up. All pools end, but a
block of the system was taken directly and is never given back. -/
def season : List Deed :=
  [.openBlocks "bare" 4096, .setUpBlocks "bare" 0, .buildBlocks "stocked" 4096 2,
    .buildBlocks "odd" 1000 1, .buildPool "wide" "stocked" 2000 .standard 1,
    .act (.request "wide"), .act (.request "wide"),
    .act (.publish ⟨"wide", 17592186044416, 4096⟩), .act (.take "bare"), .exchange (.budgeted 0),
    .act (.take "bare"), .buildPool "late" "bare" 64 .standard 4, .act (.drop "wide"),
    .closeBlocks "stocked", .closeBlocks "bare"]

theorem season_conserved :
    ((start .zeroed (.budgeted 65536)).run season).session.system.held = [⟨52776558145536, 4096⟩] ∧
      ((start .zeroed (.budgeted 65536)).run season).Conserved :=
  ⟨by decide +kernel, system_memory_conserved .zeroed (.budgeted 65536) (by decide +kernel)⟩

end SlabAllocator.Estate
