import Mathlib.Data.List.Perm.Subperm
import SlabAllocator.Proofs.Allocator.Calls
import SlabAllocator.Proofs.Allocator.World
import SlabAllocator.Proofs.Table

/-! What holds in every world an honest run leads to. `Sound` says that every pool
is arranged as some view says, that the books are right about what is live, and that
all ranges in somebody's hands lie apart. -/
namespace SlabAllocator

/-! ## What operations leave alone -/

namespace Allocator

variable {σ : Type} [BlockSource σ] (allocator : Allocator σ)

theorem takeBlock_same (source : String) :
    (allocator.takeBlock source).2.memory = allocator.memory ∧
      (allocator.takeBlock source).2.pools = allocator.pools := by
  rcases allocator.takeBlock_cases source with ⟨fault, answered⟩ | ⟨_, _, -, -, answered⟩ <;>
    rw [answered] <;> exact ⟨rfl, rfl⟩

theorem giveBlock_same (source : String) (block : Nat) :
    (allocator.giveBlock source block).2.memory = allocator.memory ∧
      (allocator.giveBlock source block).2.pools = allocator.pools := by
  rcases allocator.giveBlock_cases source block with ⟨fault, answered⟩ | ⟨_, _, -, -, answered⟩ <;>
    rw [answered] <;> exact ⟨rfl, rfl⟩

/-- Slabs that are returned are taken off their rings, whatever becomes of their blocks. -/
theorem returnSlabs_same (source : String) (sentinels : ElementPool.Sentinels)
    (blocks : List Nat) :
    (allocator.returnSlabs source sentinels blocks).memory =
        (blocks.foldl Rings.unlink (⟨⟨sentinels, allocator.memory⟩, blocks.length⟩ :
          Rings ElementPool.Threading)).store.memory ∧
      (allocator.returnSlabs source sentinels blocks).pools = allocator.pools := by
  -- By induction on the blocks; a refused return is noted and the rest is still returned.
  induction blocks generalizing allocator sentinels with
  | nil => exact ⟨rfl, rfl⟩
  | cons base rest ih =>
    unfold returnSlabs
    simp only [List.length_cons, List.foldl_cons]
    let rings := Rings.unlink (⟨⟨sentinels, allocator.memory⟩, rest.length + 1⟩ :
      Rings ElementPool.Threading) base
    obtain ⟨memory, pools⟩ :=
      { allocator with memory := rings.store.memory }.giveBlock_same source base
    have left : rings = ⟨⟨rings.store.sentinels, rings.store.memory⟩, rest.length⟩ := rfl
    cases given : { allocator with memory := rings.store.memory }.giveBlock source base with
    | mk outcome after =>
      rw [given] at memory pools
      cases outcome with
      | ok _ =>
        obtain ⟨memoryRest, poolsRest⟩ := ih after rings.store.sentinels
        rw [memory, ← left] at memoryRest
        exact ⟨memoryRest, poolsRest.trans pools⟩
      | error fault =>
        obtain ⟨memoryRest, poolsRest⟩ :=
          ih (after.note [.returnRefused fault]) rings.store.sentinels
        rw [show (after.note [.returnRefused fault]).memory = after.memory from rfl, memory,
          ← left] at memoryRest
        exact ⟨memoryRest, poolsRest.trans pools⟩

theorem dropPool_pools (name : String) :
    (allocator.dropPool name).pools = allocator.pools.erase name := by
  unfold dropPool
  cases found : allocator.pools.find? name with
  | none => exact (Table.erase_of_absent (Table.find?_eq_none_iff.1 found)).symm
  | some tenant =>
    simp only [returnSlabs_same]
    split <;> rfl

/-- A pool that ends writes links of its slabs, as they are taken off their rings. -/
theorem dropPool_writes {name : String} {tenant : Tenant} {view : ElementPool.View}
    (found : allocator.pools.find? name = some tenant)
    (shows : tenant.pool.Shows allocator.memory view) :
    allocator.memory.ChangedAmong (allocator.dropPool name).memory view.links := by
  have dropped : (allocator.dropPool name).memory =
      ((tenant.pool.slabs allocator.memory).foldl Rings.unlink
        (⟨⟨tenant.pool.sentinels, allocator.memory⟩, (tenant.pool.slabs allocator.memory).length⟩ :
          Rings ElementPool.Threading)).store.memory := by
    unfold dropPool
    rw [found]
    simp only [returnSlabs_same]
    split <;> rfl
  have listed : tenant.pool.slabs allocator.memory =
      view.roomy.map ElementPool.Piece.base ++ view.full.map ElementPool.Piece.base := by
    rw [shows.slabs_eq]
    exact List.map_append
  have threads : ElementPool.Threads
      ⟨⟨tenant.pool.sentinels, allocator.memory⟩, (tenant.pool.slabs allocator.memory).length⟩ _ _ :=
    shows.threads.of_agree rfl fun _ _ => .of_eq rfl _
  have moved := (threads.unlinkAll (listed ▸ shows.threads.nodup) (listed ▸ List.Subset.refl _)).changed
  rw [ElementPool.View.links_eq] at moved
  rw [dropped]
  exact moved

end Allocator

namespace World

variable {σ : Type} [BlockSource σ]

/-- A block that is taken directly is no more to the allocator than a request to its source. -/
theorem allocator_take (world : World σ) (source : String) :
    (world.perform (.take source)).allocator = (world.allocator.takeBlock source).2 := by
  unfold perform
  cases took : world.allocator.takeBlock source with
  | mk outcome after => cases outcome <;> simp only [took]

theorem allocator_give (world : World σ) (loan : Loan) :
    (world.perform (.give loan)).allocator =
      (world.allocator.giveBlock loan.source loan.region.start).2 := by
  unfold perform
  cases gave : world.allocator.giveBlock loan.source loan.region.start with
  | mk outcome after => cases outcome <;> simp only [gave]

end World

/-! ## Ranges that lie apart -/

namespace Region

/-- Ranges apart from each other, each of which a slab can be made of. -/
structure Laid (regions : List Region) : Prop where
  placed : ∀ region ∈ regions, region.Placed
  apart : regions.Pairwise Apart

variable {regions others : List Region} {region : Region}

theorem Laid.subperm (laid : Laid regions) (sub : others.Subperm regions) : Laid others := by
  obtain ⟨same, perm, sublist⟩ := sub
  exact ⟨fun region member => laid.placed region (sublist.subset (perm.mem_iff.2 member)),
    apart_of_perm perm (laid.apart.sublist sublist)⟩

theorem Laid.perm (laid : Laid regions) (perm : others.Perm regions) : Laid others :=
  laid.subperm perm.subperm

theorem Laid.cons (laid : Laid regions) (placed : region.Placed)
    (apart : ∀ other ∈ regions, region.Apart other) : Laid (region :: regions) := by
  refine ⟨fun other member => ?_, List.pairwise_cons.2 ⟨apart, laid.apart⟩⟩
  rcases List.mem_cons.1 member with rfl | old
  · exact placed
  · exact laid.placed other old

theorem Laid.append_apart (laid : Laid (regions ++ others)) {first second : Region}
    (left : first ∈ regions) (right : second ∈ others) : first.Apart second :=
  (List.pairwise_append.1 laid.apart).2.2 first left second right

end Region

namespace World

variable {σ : Type}

/-- The ranges of the slabs of the other pools. -/
def beside (world : World σ) (name : String) : List Region :=
  (world.allocator.pools.erase name).entries.flatMap fun entry => entry.2.pool.regions

/-- The ranges in the hands of anybody but the pools. -/
def lentRegions (world : World σ) : List Region :=
  world.windows.map Window.region ++ world.lent.map Loan.region

/-- The books are right, every pool is in order, and nobody's range is another's. -/
structure Sound (world : World σ) : Prop where
  names : world.allocator.pools.names.Nodup
  shown : ∀ name tenant, world.allocator.pools.find? name = some tenant →
    ∃ view, tenant.pool.Shows world.allocator.memory view ∧
      ∀ address, (name, address) ∈ world.live ↔ view.Live address
  owned : ∀ element ∈ world.live, element.1 ∈ world.allocator.pools.names
  once : world.live.Nodup
  laid : Region.Laid world.regions
  awaited : ∀ window ∈ world.windows, ∃ tenant,
    world.allocator.pools.find? window.pool = some tenant ∧
      tenant.pool.blockSize = window.region.size

namespace Sound

variable {world after : World σ} {name : String} {tenant : Tenant} {pool : ElementPool}
  {view : ElementPool.View}

theorem slabs_perm (once : world.allocator.pools.names.Nodup)
    (found : world.allocator.pools.find? name = some tenant) :
    world.regions.Perm (tenant.pool.regions ++ (world.beside name ++ world.lentRegions)) := by
  obtain ⟨rest, before, erased, -⟩ :=
    Table.flatMap_split once found fun entry => entry.2.pool.regions
  unfold regions slabs beside lentRegions
  rw [erased, List.append_assoc, ← List.append_assoc tenant.pool.regions]
  exact before.append_right _

theorem beside_apart (sound : world.Sound)
    (found : world.allocator.pools.find? name = some tenant) {region other : Region}
    (mine : region ∈ tenant.pool.regions) (its : other ∈ world.beside name) :
    region.Apart other := by
  have laid := sound.laid.perm (slabs_perm sound.names found).symm
  exact laid.append_apart mine (List.mem_append_left _ its)

theorem slab_of_beside {region : Region} (member : region ∈ world.beside name) :
    region ∈ world.slabs := by
  obtain ⟨entry, kept, its⟩ := List.mem_flatMap.1 member
  exact List.mem_flatMap.2 ⟨entry, (List.mem_filter.1 kept).1, its⟩

theorem slab_of_pool (found : world.allocator.pools.find? name = some tenant) {region : Region}
    (member : region ∈ tenant.pool.regions) : region ∈ world.slabs :=
  List.mem_flatMap.2 ⟨(name, tenant), Table.mem_of_find? found, member⟩

theorem regions_eq (world : World σ) : world.regions = world.slabs ++ world.lentRegions :=
  List.append_assoc _ _ _

theorem mem_regions_of_slab {slab : Region} (member : slab ∈ world.slabs) :
    slab ∈ world.regions := by
  rw [regions_eq]
  exact List.mem_append_left _ member

theorem mem_lentRegions_of_window {window : Window} (member : window ∈ world.windows) :
    window.region ∈ world.lentRegions :=
  List.mem_append_left _ (List.mem_map_of_mem member)

theorem mem_regions_of_window {window : Window} (member : window ∈ world.windows) :
    window.region ∈ world.regions := by
  rw [regions_eq]
  exact List.mem_append_right _ (mem_lentRegions_of_window member)

/-- What is in the hands of anybody but the pools is none of the slabs. -/
theorem lent_apart (sound : world.Sound) {region slab : Region}
    (lent : region ∈ world.lentRegions) (held : slab ∈ world.slabs) : region.Apart slab := by
  have laid := sound.laid
  rw [regions_eq] at laid
  exact (laid.append_apart held lent).symm

theorem window_apart (sound : world.Sound) {window : Window} (member : window ∈ world.windows)
    {slab : Region} (held : slab ∈ world.slabs) : window.region.Apart slab :=
  sound.lent_apart (mem_lentRegions_of_window member) held

theorem loan_apart (sound : world.Sound) {loan : Loan} (member : loan ∈ world.lent)
    {slab : Region} (held : slab ∈ world.slabs) : loan.region.Apart slab :=
  sound.lent_apart (List.mem_append_right _ (List.mem_map_of_mem member)) held

theorem beside_eq (pools : after.allocator.pools = world.allocator.pools.insert name tenant) :
    after.beside name = world.beside name := by
  unfold beside
  rw [pools, Table.erase_insert]

/-- One pool moved on and is arranged anew; nothing changed in the slabs of the others. -/
structure Advances (world : World σ) (after : Allocator σ) (name : String) (tenant : Tenant)
    (next : ElementPool) (arranged : ElementPool.View) : Prop where
  found : world.allocator.pools.find? name = some tenant
  pools : after.pools = world.allocator.pools.insert name { tenant with pool := next }
  shown : next.Shows after.memory arranged
  frame : ∀ region ∈ world.beside name, world.allocator.memory.Agree after.memory region
  size : next.blockSize = tenant.pool.blockSize

/-- Links of a pool lie in its slabs, so they are apart from slabs of the others. -/
theorem links_apart {other : Region} (sound : world.Sound)
    (found : world.allocator.pools.find? name = some tenant)
    (shows : tenant.pool.Shows world.allocator.memory view) (its : other ∈ world.beside name) :
    ∀ link ∈ view.links, link.Apart other := by
  intro link known
  obtain ⟨slab, mine, within⟩ := shows.sound.links_within known
  rw [← shows.regions_perm.mem_iff] at mine
  exact (sound.beside_apart found mine its).within within (.refl other)

/-- A link of a pool meets what a slab, of whichever pool, keeps behind its own links nowhere. -/
theorem link_apart {other : String} {owner : Tenant} {its : ElementPool.View} {link : Region}
    {piece : ElementPool.Piece} (sound : world.Sound)
    (found : world.allocator.pools.find? name = some tenant)
    (shows : tenant.pool.Shows world.allocator.memory view) (known : link ∈ view.links)
    (held : world.allocator.pools.find? other = some owner)
    (shown : owner.pool.Shows world.allocator.memory its) (member : piece ∈ its.pieces) :
    link.Apart piece.shape.body := by
  by_cases same : other = name
  · subst same
    obtain rfl : owner = tenant := Option.some.inj (held.symm.trans found)
    rw [← shows.links_eq, shown.links_eq] at known
    exact shown.sound.body_apart member known
  · have beside : piece.shape.region ∈ world.beside name := by
      refine List.mem_flatMap.2 ⟨(other, owner), Table.mem_of_find? ?_, shown.region_of_piece member⟩
      rwa [Table.find?_erase_of_ne _ same]
    exact (sound.links_apart found shows beside link known).within (.refl link)
      (Slab.Holds.body_within (shown.sound.held piece member).usable)

theorem spared_beside {after : Memory} {region other : Region} (sound : world.Sound)
    (found : world.allocator.pools.find? name = some tenant)
    (shows : tenant.pool.Shows world.allocator.memory view) (its : other ∈ world.beside name)
    (apart : region.Apart other)
    (written : world.allocator.memory.ChangedAmong after (region :: view.links)) :
    world.allocator.memory.Agree after other := by
  refine written.agree fun region known => ?_
  rcases List.mem_cons.1 known with rfl | link
  · exact apart
  · exact sound.links_apart found shows its region link

/-- A pool that writes in one of its slabs and links only. -/
theorem Advances.of_within {after : Allocator σ} {arranged : ElementPool.View} {region : Region}
    (sound : world.Sound) (found : world.allocator.pools.find? name = some tenant)
    (shows : tenant.pool.Shows world.allocator.memory view)
    (pools : after.pools = world.allocator.pools.insert name { tenant with pool := pool })
    (shown : pool.Shows after.memory arranged) (size : pool.blockSize = tenant.pool.blockSize)
    (mine : region ∈ tenant.pool.regions)
    (within : world.allocator.memory.ChangedAmong after.memory (region :: view.links)) :
    Advances world after name tenant pool arranged :=
  ⟨found, pools, shown, fun _ its =>
    sound.spared_beside found shows its (sound.beside_apart found mine its) within, size⟩

/-- A pool that writes in a block on its way to it and links only. -/
theorem Advances.of_carved {after : Allocator σ} {arranged : ElementPool.View} {window : Window}
    (sound : world.Sound) (member : window ∈ world.windows)
    (found : world.allocator.pools.find? name = some tenant)
    (shows : tenant.pool.Shows world.allocator.memory view)
    (pools : after.pools = world.allocator.pools.insert name { tenant with pool := pool })
    (shown : pool.Shows after.memory arranged) (size : pool.blockSize = tenant.pool.blockSize)
    (within : world.allocator.memory.ChangedAmong after.memory (window.region :: view.links)) :
    Advances world after name tenant pool arranged :=
  ⟨found, pools, shown, fun _ its =>
    sound.spared_beside found shows its (sound.window_apart member (slab_of_beside its)) within, size⟩

/-- The other pools are arranged as they were. -/
theorem Advances.bystander {after : Allocator σ} {arranged : ElementPool.View} {other : String}
    {owner : Tenant} (advances : Advances world after name tenant pool arranged)
    (held : world.allocator.pools.find? other = some owner) (different : other ≠ name)
    (shows : owner.pool.Shows world.allocator.memory view) :
    owner.pool.Shows after.memory view := by
  refine shows.of_agree fun region member => advances.frame region ?_
  rw [← shows.regions_perm.mem_iff] at member
  refine List.mem_flatMap.2 ⟨(other, owner), Table.mem_of_find? ?_, member⟩
  rwa [Table.find?_erase_of_ne _ different]

/-- A world in which one pool moved on is sound if the books know of it. -/
theorem update (sound : world.Sound)
    (advances : Advances world after.allocator name tenant pool view)
    (live : ∀ address, (name, address) ∈ after.live ↔ view.Live address)
    (others : ∀ other address, other ≠ name →
      ((other, address) ∈ after.live ↔ (other, address) ∈ world.live))
    (once : after.live.Nodup) (laid : Region.Laid after.regions)
    (awaited : ∀ window ∈ after.windows, window ∈ world.windows ∨
      window.pool = name ∧ window.region.size = pool.blockSize) : after.Sound := by
  obtain ⟨found, pools, shows, -, size⟩ := id advances
  have known := Table.names_insert sound.names found { tenant with pool := pool }
  rw [← pools] at known
  -- What is left to show, in this order: names, views, books and windows; each time for the pool
  -- that moved and for the others.
  refine ⟨?_, fun other owner held => ?_, fun element member => ?_, once, laid,
    fun window member => ?_⟩
  · rw [known]
    exact sound.names
  · rw [pools] at held
    by_cases same : other = name
    · subst same
      rw [Table.find?_insert_self] at held
      cases held
      exact ⟨view, shows, live⟩
    · rw [Table.find?_insert_of_ne _ _ same] at held
      obtain ⟨its, shown, books⟩ := sound.shown other owner held
      refine ⟨its, advances.bystander held same shown, fun address => ?_⟩
      rw [others other address same]
      exact books address
  · rw [known]
    by_cases same : element.1 = name
    · rw [same]
      exact Table.mem_names found
    · exact sound.owned element ((others element.1 element.2 same).1 member)
  · rw [pools]
    rcases awaited window member with old | ⟨rfl, fits⟩
    · obtain ⟨owner, held, fits⟩ := sound.awaited window old
      by_cases same : window.pool = name
      · rw [same] at held ⊢
        rw [found] at held
        cases held
        exact ⟨_, Table.find?_insert_self _ _ _, size.trans fits⟩
      · exact ⟨owner, by rwa [Table.find?_insert_of_ne _ _ same], fits⟩
    · exact ⟨_, Table.find?_insert_self _ _ _, fits.symm⟩

/-- A world in which no pool moved and memory is as it was in all slabs is sound. -/
theorem keep (sound : world.Sound) (pools : after.allocator.pools = world.allocator.pools)
    (frame : ∀ region ∈ world.slabs, world.allocator.memory.Agree after.allocator.memory region)
    (live : after.live = world.live) (laid : Region.Laid after.regions)
    (awaited : ∀ window ∈ after.windows, window ∈ world.windows) : after.Sound := by
  refine ⟨by rw [pools]; exact sound.names, fun other owner held => ?_, ?_, ?_, laid, ?_⟩
  · rw [pools] at held
    obtain ⟨its, shown, books⟩ := sound.shown other owner held
    refine ⟨its, shown.of_agree fun region member => frame region ?_, ?_⟩
    · rw [← shown.regions_perm.mem_iff] at member
      exact List.mem_flatMap.2 ⟨(other, owner), Table.mem_of_find? held, member⟩
    · rw [live]
      exact books
  · rw [live, pools]
    exact sound.owned
  · rw [live]
    exact sound.once
  · intro window member
    rw [pools]
    exact sound.awaited window (awaited window member)

/-- The ranges of a world in which one pool moved on. -/
theorem regions_update (sound : world.Sound)
    (found : world.allocator.pools.find? name = some tenant)
    (pools : after.allocator.pools =
      world.allocator.pools.insert name { tenant with pool := pool }) :
    after.regions.Perm (pool.regions ++ (world.beside name ++ after.lentRegions)) := by
  have once : after.allocator.pools.names.Nodup := by
    rw [pools, Table.names_insert sound.names found]
    exact sound.names
  have held : after.allocator.pools.find? name = some { tenant with pool := pool } := by
    rw [pools, Table.find?_insert_self]
  rw [← beside_eq pools]
  exact slabs_perm once held

theorem same_regions {allocator : Allocator σ} (pools : allocator.pools = world.allocator.pools) :
    { world with allocator := allocator : World σ }.regions = world.regions := by
  unfold regions slabs
  rw [pools]

/-- Nothing of note changed. -/
theorem idle (sound : world.Sound) {allocator : Allocator σ}
    (memory : allocator.memory = world.allocator.memory)
    (pools : allocator.pools = world.allocator.pools) :
    { world with allocator := allocator : World σ }.Sound := by
  refine sound.keep pools (fun region _ => .of_eq memory region) rfl ?_ fun _ member => member
  rw [same_regions pools]
  exact sound.laid

theorem start (allocator : Allocator σ) : (World.start allocator).Sound where
  names := List.nodup_nil
  shown := fun _ _ held => by cases held
  owned := by simp [World.start]
  once := List.nodup_nil
  laid := ⟨by simp [World.start, regions, slabs, Table.empty], .nil⟩
  awaited := by simp [World.start]

end Sound

end World

end SlabAllocator
