import SlabAllocator.Proofs.Allocator.Measures
import SlabAllocator.Proofs.Allocator.Supply

/-! Pools are isolated from each other. Their slabs lie side by side in the blocks of one
source, and blocks go from one pool to the other, but no act on a pool reaches the slabs, the
lists or the counters of another one, takes a block the other one holds or offers it back. An
address in a slab of another pool is foreign to every pool. -/
namespace SlabAllocator

open ElementPool

/-- What is nobody's element tells the header and the chain of a slab. -/
theorem Slab.Holds.same_of_reserved {memory changed : Memory} {shape : Slab.Shape}
    {stack : Slab.Stack} (holds : Slab.Holds memory shape stack)
    (agree : ∀ region ∈ Slab.reserved memory shape.base, memory.Agree changed region) :
    Slab.Header.load changed shape.base = Slab.Header.load memory shape.base ∧
      Slab.freeList changed shape.base = Slab.freeList memory shape.base := by
  have kept := holds.of_reserved agree
  exact ⟨kept.header.trans holds.header.symm, kept.freeList_eq.trans holds.freeList_eq.symm⟩

variable {σ : Type}

/-- A pool and its slabs are as they were: resident slab, anchors, index and counters, the
lists and the links they are read from, the headers, the chains, and every byte that is in no
live element. -/
structure Allocator.Untouched (before after : Allocator σ) (name : String) (tenant : Tenant) :
    Prop where
  found : after.pools.find? name = some tenant
  lists : tenant.pool.partialSlabs after.memory = tenant.pool.partialSlabs before.memory ∧
    tenant.pool.fullSlabs after.memory = tenant.pool.fullSlabs before.memory
  /-- Nobody's ring moves write links of this pool. -/
  links : ∀ base ∈ tenant.pool.bases, before.memory.Agree after.memory (Slab.linkRegion base)
  headers : ∀ base ∈ tenant.pool.bases,
    Slab.Header.load after.memory base = Slab.Header.load before.memory base
  chains : ∀ base ∈ tenant.pool.bases,
    Slab.freeList after.memory base = Slab.freeList before.memory base
  reserved : ∀ base ∈ tenant.pool.bases, ∀ region ∈ Slab.reserved before.memory base,
    before.memory.Agree after.memory region

namespace Allocator.Untouched

variable {before middle after : Allocator σ} {name : String} {tenant : Tenant}

theorem refl (found : before.pools.find? name = some tenant) :
    before.Untouched before name tenant :=
  ⟨found, ⟨rfl, rfl⟩, fun _ _ => .of_eq rfl _, fun _ _ => rfl, fun _ _ => rfl,
    fun _ _ region _ => .of_eq rfl region⟩

theorem trans (first : before.Untouched middle name tenant)
    (second : middle.Untouched after name tenant) : before.Untouched after name tenant where
  found := second.found
  lists := ⟨second.lists.1.trans first.lists.1, second.lists.2.trans first.lists.2⟩
  links base known address low high :=
    (second.links base known address low high).trans (first.links base known address low high)
  headers base known := (second.headers base known).trans (first.headers base known)
  chains base known := (second.chains base known).trans (first.chains base known)
  reserved base known region kept address low high := by
    have same : region ∈ Slab.reserved middle.memory base := by
      unfold Slab.reserved
      rw [first.headers base known, first.chains base known]
      exact kept
    rw [second.reserved base known region same address low high,
      first.reserved base known region kept address low high]

end Allocator.Untouched

namespace World

variable {world : World σ} {act : Act σ} {acts : List (Act σ)} {name other : String}
  {tenant owner : Tenant} {address : Nat}

/-- The ranges in the hands of a pool: its slabs and the blocks on their way to it. -/
def stake (world : World σ) (name : String) : List Region :=
  ((world.pool? name).map ElementPool.regions).getD [] ++
    (world.windows.filter fun window => window.pool = name).map Window.region

variable [BlockSource σ]

/-- The act leaves the stake of a pool to the pool. -/
structure Respects (world : World σ) (act : Act σ) (name : String) : Prop where
  /-- What the act gets from a source or from the system is nothing of the pool. -/
  granted : ∀ region ∈ world.granted act, ∀ held ∈ world.stake name, region.Apart held
  /-- A block that another pool offers back is none of the pool. -/
  offered : ∀ other, act.Concerns other → ∀ offer ∈ world.offers act, ∀ held ∈ world.stake name,
    held.contains offer.block = false

/-- Whatever is done to other pools, a pool and its slabs are left alone. -/
structure Isolated (world : World σ) (name : String) (tenant : Tenant) : Prop where
  /-- Acts on other pools, in any number. Owners may write into elements meanwhile. -/
  acts : ∀ acts, world.HonestRun acts → (∀ act ∈ acts, ¬ act.Concerns name) →
    world.allocator.Untouched (world.run acts).allocator name tenant ∧
    (∀ slab ∈ tenant.pool.regions, ∀ byte, slab.contains byte = true →
      (world.run acts).allocator.memory.byte byte =
        overwritten acts byte (world.allocator.memory.byte byte)) ∧
    ∀ before act after, acts = before ++ act :: after → (world.run before).Respects act name
  /-- A request to another pool with all that is served meanwhile, if nothing is announced for
  this pool. -/
  alloc : ∀ other, other ≠ name → world.allocator.Announces (· ≠ name) → ∃ acts handed,
    world.Serves acts (world.allocator.alloc other).2 handed ∧
    handed.map Prod.snd = (world.allocator.alloc other).1.addresses ∧
    (world.Supplied acts → world.allocator.Untouched (world.allocator.alloc other).2 name tenant ∧
      (∀ slab ∈ tenant.pool.regions,
        world.allocator.memory.Agree (world.allocator.alloc other).2.memory slab) ∧
      ∀ before act after, acts = before ++ act :: after → (world.run before).Respects act name)
  /-- An address in a slab of this pool is foreign to another one. -/
  foreign : ∀ other owner, other ≠ name → world.allocator.pools.find? other = some owner →
    ∀ slab ∈ tenant.pool.regions, ∀ address, slab.contains address = true →
      world.allocator.free other address = (.error (.foreignPointer address),
        world.allocator.note (Fault.foreignPointer address).events)

/-! ## Other pools move -/

/-- The pool is there as it was, and so are its slabs byte for byte. -/
structure Spares (world : World σ) (after : Allocator σ) (name : String) (tenant : Tenant) :
    Prop where
  found : after.pools.find? name = some tenant
  slabs : ∀ slab ∈ tenant.pool.regions, world.allocator.memory.Agree after.memory slab

omit [BlockSource σ] in
theorem Spares.of_same {after : Allocator σ}
    (found : world.allocator.pools.find? name = some tenant)
    (memory : after.memory = world.allocator.memory)
    (pools : after.pools = world.allocator.pools) : world.Spares after name tenant :=
  ⟨by rw [pools, found], fun slab _ => .of_eq memory slab⟩

namespace Sound

omit [BlockSource σ] in
theorem mem_beside (found : world.allocator.pools.find? name = some tenant)
    (different : name ≠ other) {slab : Region} (mine : slab ∈ tenant.pool.regions) :
    slab ∈ world.beside other := by
  refine List.mem_flatMap.2 ⟨(name, tenant), Table.mem_of_find? ?_, mine⟩
  rwa [Table.find?_erase_of_ne _ different]

omit [BlockSource σ] in
theorem Advances.spares {after : Allocator σ} {next : ElementPool} {arranged : View}
    (advances : Advances world after other owner next arranged)
    (found : world.allocator.pools.find? name = some tenant) (different : name ≠ other) :
    world.Spares after name tenant := by
  refine ⟨?_, fun slab mine => advances.frame slab (mem_beside found different mine)⟩
  rw [advances.pools, Table.find?_insert_of_ne _ _ different, found]

private theorem spares_request (sound : world.Sound)
    (found : world.allocator.pools.find? name = some tenant) (different : name ≠ other) :
    world.Spares (world.perform (.request other)).allocator name tenant := by
  cases its : world.allocator.pools.find? other with
  | none =>
    rw [perform_request (Allocator.seek_absent its)]
    exact .of_same found rfl rfl
  | some owner =>
    obtain ⟨view, shows, -⟩ := sound.shown other owner its
    rcases seek_cases sound.names its shows with ⟨fault, after, sought, memory, pools⟩ |
      ⟨block, after, sought, memory, pools⟩ |
      ⟨address, next, changed, after, arranged, piece, fresh, sought, rfl, pools, placed, shown,
        within⟩
    · rw [perform_request sought]
      exact .of_same found memory pools
    · rw [perform_awaiting sought]
      exact .of_same found memory pools
    · have size := shown.blockSize.trans (placed.blockSize.trans shows.blockSize.symm)
      have mine := shows.region_of_piece placed.mem
      rw [perform_request sought]
      exact (Advances.of_within sound its shows pools shown size mine within).spares found different

private theorem spares_publish (sound : world.Sound) {window : Window}
    (member : window ∈ world.windows)
    (found : world.allocator.pools.find? name = some tenant) (different : name ≠ window.pool) :
    world.Spares (world.perform (.publish window)).allocator name tenant := by
  obtain ⟨owner, its, -⟩ := sound.awaited window member
  obtain ⟨view, shows, -⟩ := sound.shown window.pool owner its
  rcases sound.publish_cases member its shows with ⟨-, fault, after, published, memory, pools⟩ |
    ⟨adopted, arranged, after, -, published, memory, pools, placed, shown, within, -⟩
  · rw [perform_publish world window published]
    exact .of_same found memory pools
  · rw [← memory] at shown within
    have size := shown.blockSize.trans ((View.adopt_blockSize placed).trans shows.blockSize.symm)
    rw [perform_publish world window published]
    exact (Advances.of_carved sound member its shows pools shown size within).spares found different

private theorem spares_release (sound : world.Sound)
    (obeys : world.Obeys (.release other address))
    (found : world.allocator.pools.find? name = some tenant) (different : name ≠ other) :
    world.Spares (world.perform (.release other address)).allocator name tenant := by
  rcases sound.release_cases obeys with idles | ⟨owner, freed, its, taken, pools, memory, -⟩
  · exact .of_same found idles.memory idles.pools
  · obtain ⟨view, shows, -⟩ := sound.shown other owner its
    obtain ⟨piece, fresh, arranged, returned, shown, within⟩ :=
      returned_of_taken obeys its shows taken
    rw [← memory] at shown within
    have size := shown.blockSize.trans (returned.blockSize.trans shows.blockSize.symm)
    have mine := shows.region_of_piece returned.mem
    exact (Advances.of_within sound its shows pools shown size mine within).spares found different

private theorem spares_setUp (sound : world.Sound) {count : Nat}
    (fresh : ∀ region ∈ world.granted (.setUp other count), world.Fresh region)
    (found : world.allocator.pools.find? name = some tenant) (different : name ≠ other) :
    world.Spares (world.perform (.setUp other count)).allocator name tenant := by
  rcases setUp_cases world other count with idles | ⟨owner, setup, its, made, pools, memory, -⟩
  · exact .of_same found idles.memory idles.pools
  · obtain ⟨view, shows, -⟩ := sound.shown other owner its
    obtain ⟨-, advances, -⟩ := init_advances fresh its shows made
    have spares := advances.spares found different
    refine ⟨?_, fun slab mine => ?_⟩
    · rw [pools, Table.find?_insert_of_ne _ _ different, found]
    · rw [memory]
      exact spares.slabs slab mine

/-- An act on other pools spares a pool unless it writes. -/
theorem spares (sound : world.Sound) (honest : world.Honest act)
    (found : world.allocator.pools.find? name = some tenant) (aside : ¬ act.Concerns name)
    (quiet : ∀ start length content, act ≠ .write start length content) :
    world.Spares (world.perform act).allocator name tenant := by
  obtain ⟨fresh, obeys⟩ := honest
  -- Each act moves the pool it concerns, or none; memory changes in the slabs of that pool only.
  cases act with
  | create other source blockSize elementSize config =>
    refine ⟨?_, fun slab _ => .of_eq rfl slab⟩
    exact (Table.find?_insert_of_ne _ _ fun same => aside same.symm).trans found
  | setUp other count => exact sound.spares_setUp fresh found fun same => aside same.symm
  | request other => exact sound.spares_request found fun same => aside same.symm
  | publish window => exact sound.spares_publish obeys found fun same => aside same.symm
  | release other address => exact sound.spares_release obeys found fun same => aside same.symm
  | write => exact absurd rfl (quiet _ _ _)
  | take source =>
    have same := world.allocator.takeBlock_same source
    rw [allocator_take]
    exact .of_same found same.1 same.2
  | give loan =>
    have same := world.allocator.giveBlock_same loan.source loan.region.start
    rw [allocator_give]
    exact .of_same found same.1 same.2
  | drop other =>
    have different : name ≠ other := fun same => aside same.symm
    refine ⟨?_, fun slab mine => sound.drop_spares (mem_beside found different mine)⟩
    show (world.allocator.dropPool other).pools.find? name = _
    rw [world.allocator.dropPool_pools other, Table.find?_erase_of_ne _ different, found]
  | outside after => exact .of_same found rfl rfl

omit [BlockSource σ] in
/-- What may be written into is nobody's slab or a live element. -/
theorem reserved_writable (sound : world.Sound) {region kept : Region}
    (writable : world.Writable region)
    (found : world.allocator.pools.find? name = some tenant) {base : Nat}
    (known : base ∈ tenant.pool.bases) (held : kept ∈ Slab.reserved world.allocator.memory base) :
    region.Apart kept := by
  have entry := Table.mem_of_find? found
  rcases writable with ⟨element, live, within⟩ | apart
  · exact ((sound.exclusive live).reserved _ entry base known kept held).of_within within
  · obtain ⟨slab, member, -, inside⟩ := sound.reserved_within entry known held
    exact ((apart slab member).symm.of_within inside).symm

/-- An act on other pools, or a write, leaves what is nobody's element alone. -/
theorem reserved_kept (sound : world.Sound) (honest : world.Honest act)
    (found : world.allocator.pools.find? name = some tenant) (aside : ¬ act.Concerns name) :
    (world.perform act).allocator.pools.find? name = some tenant ∧
      (∀ base ∈ tenant.pool.bases, ∀ region ∈ Slab.reserved world.allocator.memory base,
        world.allocator.memory.Agree (world.perform act).allocator.memory region) ∧
      ∀ slab ∈ tenant.pool.regions, ∀ byte, slab.contains byte = true →
        (world.perform act).allocator.memory.byte byte =
          act.over byte (world.allocator.memory.byte byte) := by
  -- A write may go into an element of this pool, so it is told apart from acts that spare its
  -- slabs.
  by_cases writes : ∃ start length content, act = .write start length content
  · obtain ⟨start, length, content, rfl⟩ := writes
    refine ⟨found, fun base known region held => ?_, fun slab mine byte _ => ?_⟩
    · have apart := sound.reserved_writable honest.2 found known held
      exact (Memory.changedWithin_paint _ start length content).agree apart
    · exact Memory.byte_paint _ _ _ _ _
  · have quiet : ∀ start length content, act ≠ .write start length content :=
      fun start length content same => writes ⟨start, length, content, same⟩
    obtain ⟨there, slabs⟩ := sound.spares honest found aside quiet
    obtain ⟨view, shows, -⟩ := sound.shown name tenant found
    refine ⟨there, fun base known region held => ?_, fun slab mine byte inside => ?_⟩
    · obtain ⟨piece, member, rfl⟩ := shows.piece_of_base known
      have within := (shows.sound.held piece member).reserved_within held
      exact (slabs _ (shows.region_of_piece member)).mono within
    · rw [Region.contains_iff] at inside
      refine (slabs slab mine byte inside.1 inside.2).trans ?_
      cases act <;> first | rfl | exact absurd rfl (quiet _ _ _)

/-- A pool that others leave alone. -/
theorem untouched_step (sound : world.Sound) (honest : world.Honest act)
    (found : world.allocator.pools.find? name = some tenant) (aside : ¬ act.Concerns name) :
    world.allocator.Untouched (world.perform act).allocator name tenant := by
  obtain ⟨there, reserved, -⟩ := sound.reserved_kept honest found aside
  obtain ⟨view, shows, -⟩ := sound.shown name tenant found
  have same : ∀ base ∈ tenant.pool.bases,
      Slab.Header.load (world.perform act).allocator.memory base =
          Slab.Header.load world.allocator.memory base ∧
        Slab.freeList (world.perform act).allocator.memory base =
          Slab.freeList world.allocator.memory base := by
    intro base known
    obtain ⟨piece, member, rfl⟩ := shows.piece_of_base known
    exact (shows.sound.held piece member).same_of_reserved (reserved _ known)
  have kept := shows.of_reserved fun piece member => reserved _ (shows.base_of_piece member)
  refine ⟨there, ⟨?_, ?_⟩, fun base known => ?_, fun base known => (same base known).1,
    fun base known => (same base known).2, reserved⟩
  · rw [kept.partialSlabs_eq, shows.partialSlabs_eq]
  · rw [kept.fullSlabs_eq, shows.fullSlabs_eq]
  · obtain ⟨piece, member, rfl⟩ := shows.piece_of_base known
    exact shows.link_of_reserved member (reserved _ known)

/-- A pool that others leave alone act after act. What owners write is all that changes. -/
theorem untouched_run (sound : world.Sound) (honest : world.HonestRun acts)
    (found : world.allocator.pools.find? name = some tenant)
    (aside : ∀ act ∈ acts, ¬ act.Concerns name) :
    world.allocator.Untouched (world.run acts).allocator name tenant ∧
      ∀ slab ∈ tenant.pool.regions, ∀ byte, slab.contains byte = true →
        (world.run acts).allocator.memory.byte byte =
          overwritten acts byte (world.allocator.memory.byte byte) := by
  -- By induction on the run: the pool is found unchanged after each act.
  induction acts generalizing world with
  | nil => exact ⟨.refl found, fun _ _ _ _ => rfl⟩
  | cons act rest ih =>
    obtain ⟨here, later⟩ := honest
    obtain ⟨mine, others⟩ := List.forall_mem_cons.1 aside
    have step := sound.untouched_step here found mine
    obtain ⟨-, -, bytes⟩ := sound.reserved_kept here found mine
    obtain ⟨untouched, further⟩ := ih (sound.perform here) later step.found others
    refine ⟨step.trans untouched, fun slab held byte inside => ?_⟩
    refine (further slab held byte inside).trans ?_
    rw [bytes slab held byte inside]
    rfl

/-! ## Blocks -/

/-- A block on its way is one that a slab can be made of, for a pool that was set up. -/
theorem windows_sized (sound : world.Sound) (measured : world.Measured)
    (sized : ∀ window ∈ world.windows, 0 < window.region.size) :
    ∀ window ∈ (world.perform act).windows, 0 < window.region.size := by
  intro window waiting
  rcases sound.window_cases waiting with old | ⟨rfl, -, opened⟩
  · exact sized window old
  · cases sought : world.allocator.seek window.pool with
    | mk progress after =>
      cases progress with
      | settled outcome =>
        rw [perform_request sought] at opened
        exact absurd opened.symm (List.cons_ne_self _ _)
      | awaiting source block =>
        obtain ⟨tenant, found, ready, -⟩ := Allocator.seek_awaiting sought
        obtain ⟨positive, room⟩ := (measured window.pool tenant found).fits ready
        rw [perform_awaiting sought] at opened
        have same := congrArg (fun window => window.region.size) (List.cons.inj opened).1
        simp only [pool?, found, Option.map_some, Option.getD_some] at same
        omega

theorem windows_sized_run (sound : world.Sound) (measured : world.Measured)
    (sized : ∀ window ∈ world.windows, 0 < window.region.size) (honest : world.HonestRun acts) :
    ∀ window ∈ (world.run acts).windows, 0 < window.region.size := by
  induction acts generalizing world with
  | nil => exact sized
  | cons act rest ih =>
    obtain ⟨here, later⟩ := honest
    exact ih (sound.perform here) (measured.perform sound here)
      (sound.windows_sized measured sized) later

omit [BlockSource σ] in
theorem stake_cases {held : Region} (mine : held ∈ world.stake name) :
    (∃ tenant, world.allocator.pools.find? name = some tenant ∧ held ∈ tenant.pool.regions) ∨
      ∃ window ∈ world.windows, window.pool = name ∧ window.region = held := by
  rcases List.mem_append.1 mine with slab | waiting
  · unfold pool? at slab
    cases found : world.allocator.pools.find? name with
    | none =>
      rw [found] at slab
      cases slab
    | some tenant =>
      rw [found] at slab
      exact .inl ⟨tenant, rfl, slab⟩
  · obtain ⟨window, member, same⟩ := List.mem_map.1 waiting
    obtain ⟨waits, its⟩ := List.mem_filter.1 member
    exact .inr ⟨window, waits, of_decide_eq_true its, same⟩

omit [BlockSource σ] in
/-- A slab of another pool is no part of the stake of a pool. -/
theorem slab_apart_stake (sound : world.Sound)
    (found : world.allocator.pools.find? other = some owner) (different : other ≠ name)
    {slab held : Region} (its : slab ∈ owner.pool.regions) (mine : held ∈ world.stake name) :
    slab.Apart held := by
  rcases stake_cases mine with ⟨tenant, known, member⟩ | ⟨window, waits, -, rfl⟩
  · exact sound.beside_apart found its (mem_beside known (Ne.symm different) member)
  · exact (sound.window_apart waits (slab_of_pool found its)).symm

omit [BlockSource σ] in
/-- Nor is a block on its way to another pool. -/
theorem window_apart_stake (sound : world.Sound) {window : Window} (waits : window ∈ world.windows)
    (different : window.pool ≠ name) {held : Region} (mine : held ∈ world.stake name) :
    window.region.Apart held := by
  rcases stake_cases mine with ⟨tenant, known, member⟩ | ⟨beside, also, same, rfl⟩
  · exact sound.window_apart waits (slab_of_pool known member)
  · have apart := sound.laid.apart
    rw [regions_eq] at apart
    have windows := (List.pairwise_append.1 (List.pairwise_append.1 apart).2.1).1
    refine Region.apart_of_mem windows waits also ?_
    rintro rfl
    exact different same

omit [BlockSource σ] in
theorem block_apart_stake (sound : world.Sound)
    (found : world.allocator.pools.find? other = some owner) (different : other ≠ name)
    {block : Nat} (its : block ∈ owner.pool.blocks) {held : Region}
    (mine : held ∈ world.stake name) : held.contains block = false := by
  obtain ⟨view, shows, -⟩ := sound.shown other owner found
  have listed := shows.blocks_perm.mem_iff.1 its
  obtain ⟨piece, carved, rfl⟩ := List.mem_map.1 listed
  have member := View.mem_of_carved carved
  have room := (shows.sound.held piece member).usable.room
  have first : piece.shape.region.contains piece.base = true := by
    refine (Region.contains_iff _ _).2 ⟨Nat.le_refl _, ?_⟩
    show piece.shape.base < piece.shape.base + piece.shape.size
    unfold Slab.headerBytes at room
    omega
  have slab := shows.region_of_piece member
  exact (sound.slab_apart_stake found different slab mine).not_contains first

/-- Others get nothing of a pool, and give nothing of it away. -/
theorem respects (sound : world.Sound) (honest : world.Honest act)
    (sized : ∀ window ∈ world.windows, 0 < window.region.size) (aside : ¬ act.Concerns name) :
    world.Respects act name := by
  refine ⟨fun region granted held mine => (honest.1 region granted).2 held ?_,
    fun other concerns offer offered held mine => ?_⟩
  · rcases stake_cases mine with ⟨tenant, found, slab⟩ | ⟨window, waits, -, rfl⟩
    · exact mem_regions_of_slab (slab_of_pool found slab)
    · exact mem_regions_of_window waits
  · have different : other ≠ name := by
      rintro rfl
      exact aside concerns
    have its := (sound.offers_mine honest).subset (List.mem_map_of_mem offered)
    -- A block that another pool hands back is the start of one of its slabs.
    have ofPool : ∀ listed, world.mine act = listed →
        listed = ((world.allocator.pools.find? other).map blocksOf).getD [] →
        held.contains offer.block = false := by
      rintro listed same rfl
      rw [same] at its
      cases found : world.allocator.pools.find? other with
      | none =>
        rw [found] at its
        cases its
      | some owner =>
        rw [found] at its
        obtain ⟨block, member, entry⟩ := List.mem_map.1 its
        obtain rfl : block = offer.block := congrArg Prod.snd entry
        exact sound.block_apart_stake found different member mine
    cases act with
    | publish window =>
      have block : offer.block = window.region.start :=
        congrArg Prod.snd (List.mem_singleton.1 its)
      obtain rfl : window.pool = other := concerns
      have positive := sized window honest.2
      have first : window.region.contains window.region.start = true :=
        (Region.contains_iff _ _).2 ⟨Nat.le_refl _, Nat.lt_add_of_pos_right positive⟩
      rw [block]
      exact (sound.window_apart_stake honest.2 different mine).not_contains first
    | release name address =>
      obtain rfl : name = other := concerns
      exact ofPool _ rfl rfl
    | drop name =>
      obtain rfl : name = other := concerns
      exact ofPool _ rfl rfl
    | create => cases its
    | setUp => cases its
    | request => cases its
    | _ => exact absurd concerns id

/-! ## The pools of a world -/

/-- What lies in a slab of one pool is foreign to another. -/
theorem free_foreign (sound : world.Sound)
    (found : world.allocator.pools.find? name = some tenant)
    (its : world.allocator.pools.find? other = some owner) (different : other ≠ name)
    {slab : Region} (mine : slab ∈ tenant.pool.regions) (inside : slab.contains address = true) :
    world.allocator.free other address = (.error (.foreignPointer address),
      world.allocator.note (Fault.foreignPointer address).events) := by
  obtain ⟨view, shows, -⟩ := sound.shown other owner its
  have outside : ∀ piece ∈ view.pieces, piece.shape.region.contains address = false := by
    intro piece member
    have beside := mem_beside found (Ne.symm different) mine
    exact (sound.beside_apart its (shows.region_of_piece member) beside).symm.not_contains inside
  exact Allocator.free_rejected its (shows.free_outside outside)

end Sound

theorem overwritten_of_attends (attends : world.AttendsAll acts) (byte : Nat) (value : UInt8) :
    overwritten acts byte value = value := by
  induction acts generalizing world with
  | nil => rfl
  | cons act rest ih =>
    obtain ⟨here, later⟩ := attends
    refine Eq.trans ?_ (ih later)
    cases act <;> first | rfl | cases here

/-- **Pools are isolated**: whatever is done to others, a pool keeps its slabs, its lists and
its counters, and what lies in its slabs is foreign to everybody else. -/
theorem pools_isolated (reachable : world.Reachable)
    (found : world.allocator.pools.find? name = some tenant) : world.Isolated name tenant := by
  have sound := Sound.of_reachable reachable
  have measured := Measured.of_reachable reachable
  have sized : ∀ window ∈ world.windows, 0 < window.region.size := by
    obtain ⟨allocator, acts, honest, rfl⟩ := reachable
    exact (Sound.start allocator).windows_sized_run (.start allocator)
      (fun _ absurd => by cases absurd) honest
  have respects : ∀ acts, world.HonestRun acts → (∀ act ∈ acts, ¬ act.Concerns name) →
      ∀ before act after, acts = before ++ act :: after →
        (world.run before).Respects act name := by
    rintro acts honest aside before act after rfl
    obtain ⟨early, now, -⟩ := honestRun_append honest
    exact (sound.run early).respects now (sound.windows_sized_run measured sized early)
      (aside act (by simp))
  refine ⟨fun acts honest aside => ?_, fun other different announces => ?_,
    fun other owner different its slab mine address inside =>
      sound.free_foreign found its different mine inside⟩
  · obtain ⟨untouched, bytes⟩ := sound.untouched_run honest found aside
    exact ⟨untouched, bytes, respects acts honest aside⟩
  · obtain ⟨acts, handed, serves, addresses, -, only⟩ :=
      serves_allocAt_only world.allocator.interludes.size world announces different
    refine ⟨acts, handed, serves, addresses, fun supplied => ?_⟩
    have honest := honestRun_of_supplied supplied serves.attends
    have aside : ∀ act ∈ acts, ¬ act.Concerns name :=
      fun act member concerns => only act member name concerns rfl
    obtain ⟨untouched, bytes⟩ := sound.untouched_run honest found aside
    rw [serves.allocator] at untouched bytes
    refine ⟨untouched, fun slab mine byte low high => ?_, respects acts honest aside⟩
    refine (bytes slab mine byte ((Region.contains_iff _ _).2 ⟨low, high⟩)).trans ?_
    exact overwritten_of_attends serves.attends _ _

theorem pools_isolated_workday : ∃ tenant,
    (workshop.run workday).allocator.pools.find? "wide" = some tenant ∧
      tenant.pool.slabCount = 2 ∧ (workshop.run workday).Isolated "wide" tenant := by
  have shown : ((workshop.run workday).allocator.pools.find? "wide").map
      (fun tenant => tenant.pool.slabCount) = some 2 := by decide +kernel
  obtain ⟨tenant, found, count⟩ := Option.map_eq_some_iff.1 shown
  exact ⟨tenant, found, count, pools_isolated workday_reachable found⟩

end World

end SlabAllocator
