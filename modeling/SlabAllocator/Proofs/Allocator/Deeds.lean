import SlabAllocator.Proofs.Allocator.Solvency

/-! Every deed leaves an estate solvent, so what is in use of the system is accounted for
at every moment, however often a request was refused on the way. -/
namespace SlabAllocator

open ElementPool

theorem Session.blockPool?_eq_some {session : Session} {name : String} {pool : BlockPool} :
    session.blockPool? name = some pool ↔ session.sources.find? name = some (.ofPool pool) := by
  unfold blockPool?
  constructor
  · intro found
    split at found
    · next present =>
      cases found
      exact present
    · cases found
  · intro present
    rw [present]

/-- Cache regions are listed under names of sources. -/
theorem cacheRegions_name {sources : Table Supplier} {entry : String × Region}
    (member : entry ∈ cacheRegions sources) : entry.1 ∈ sources.names := by
  obtain ⟨⟨name, supplier⟩, listed, mine⟩ := List.mem_flatMap.1 member
  have same : entry.1 = name := by
    unfold cacheOf at mine
    split at mine
    · obtain ⟨region, -, rfl⟩ := List.mem_map.1 mine
      rfl
    · cases mine
  rw [same]
  exact List.mem_map_of_mem (f := Prod.fst) listed

theorem mem_blockSizes_erase {sources : Table Supplier} {name : String} {entry : String × Nat}
    (known : entry ∈ blockSizes sources) (different : entry.1 ≠ name) :
    entry ∈ blockSizes (sources.erase name) := by
  obtain ⟨supplier, listed, rfl⟩ := List.mem_map.1 known
  exact List.mem_map_of_mem (List.mem_filter.2 ⟨listed, bne_iff_ne.2 different⟩)

namespace Estate.Solvent

variable {estate : Estate} {name source : String} {pool : BlockPool} {count : Nat}

/-! ## Block pools come -/

theorem setUp_refused {fault : Fault} (failed : pool.init estate.session.system count = .error fault)
    (name : String) :
    estate.setUp name pool count = estate.withSession (estate.session.note fault.events) := by
  unfold Estate.setUp Session.setUpBlocks
  rw [failed]
  rfl

theorem setUp_made {next : BlockPool} {system : System}
    (made : pool.init estate.session.system count = .ok (next, system)) (name : String) :
    estate.setUp name pool count =
      { estate.withSession (Allocator.note { estate.session.setSource name (.ofPool next) with
          system := system } (pool.initEvents count)) with
        caches := enter estate.caches name count (pool.blockSize * count) } := by
  unfold Estate.setUp Session.setUpBlocks
  rw [made]

/-- To make a block pool and set it up at once is to do both, unless the set-up fails. -/
theorem buildBlocks_cases (estate : Estate) (name : String) (blockSize count : Nat) :
    (∃ fault, estate.perform (.buildBlocks name blockSize count) =
        estate.withSession (estate.session.note (Fault.events fault))) ∨
      estate.perform (.buildBlocks name blockSize count) =
        (estate.perform (.openBlocks name blockSize)).setUp name (.new blockSize) count := by
  cases made : (BlockPool.new blockSize).init estate.session.system count with
  | error fault => exact .inl ⟨fault, setUp_refused made name⟩
  | ok result =>
    right
    obtain ⟨next, system⟩ := result
    let opened := estate.perform (.openBlocks name blockSize)
    have again : (BlockPool.new blockSize).init opened.session.system count = .ok (next, system) :=
      made
    -- The pool that is set up takes the place of the blank one under the same name.
    have twice : opened.session.setSource name (.ofPool next) =
        estate.session.setSource name (.ofPool next) :=
      congrArg (fun sources => { estate.session with sources := sources })
        (Table.insert_insert estate.session.sources name _ _)
    rw [setUp_made again name, twice]
    exact setUp_made made name

/-- To make an element pool and set it up at once is to do both, unless the set-up fails. -/
theorem buildPool_cases (estate : Estate) (name source : String) (elementSize : Nat)
    (config : Config) (count : Nat) :
    (∃ fault, estate.perform (.buildPool name source elementSize config count) =
        estate.withSession (estate.session.note (Fault.events fault))) ∨
      estate.perform (.buildPool name source elementSize config count) =
        (estate.perform (.act (.create name source (estate.session.blockSizeOf source) elementSize
          config))).perform (.act (.setUp name count)) := by
  let pool := ElementPool.new (estate.session.blockSizeOf source) elementSize config
  cases made : pool.init estate.session.memory estate.session.system count with
  | error fault =>
    left
    refine ⟨fault, ?_⟩
    unfold perform Session.setUpPool
    simp only [pool] at made
    simp only [made]
    rfl
  | ok setup =>
    right
    let created := estate.perform (.act (.create name source (estate.session.blockSizeOf source)
      elementSize config))
    have found : created.session.pools.find? name = some ⟨pool, source⟩ :=
      Table.find?_insert_self _ _ _
    -- The pool that is set up takes the place of the blank one under the same name.
    have twice : created.session.setPool name ⟨pool, source⟩ setup.pool =
        estate.session.addPool name source setup.pool :=
      congrArg (fun pools => { estate.session with pools := pools })
        (Table.insert_insert estate.session.pools name _ _)
    have answer : created.session.initPool name count =
        (.ok (), Allocator.note { estate.session.addPool name source setup.pool with
          memory := setup.memory
          system := setup.system } (pool.initEvents count)) := by
      have again : pool.init created.session.memory created.session.system count = .ok setup := made
      rw [Allocator.initPool_made found again, Allocator.fitOut, twice]
    have books : created.residentsAfter (.setUp name count) =
        enter estate.residents name count (slabBytes pool count) := by
      have known : created.world.pool? name = some pool := congrArg (Option.map Tenant.pool) found
      unfold residentsAfter
      simp only [known, answer]
      rfl
    have performed : created.perform (.act (.setUp name count)) = { created with
        world := { created.world with allocator := (created.session.initPool name count).2 }
        residents := created.residentsAfter (.setUp name count) } := rfl
    rw [performed, books, answer]
    unfold perform Session.setUpPool
    simp only [pool] at made
    simp only [made]
    rfl

section

variable (solvent : estate.Solvent)
include solvent

/-- A deed that leaves memory and element pools alone and keeps the books of the caches. -/
theorem refounded {session : Session} {caches : List (String × Nat)}
    (memory : session.memory = estate.session.memory)
    (pools : session.pools = estate.session.pools)
    (funded : Funded session.sources session.system estate.world.held
      ((residence estate.world).map Prod.snd ++ estate.abandoned))
    (sizes : ∀ entry ∈ blockSizes estate.session.sources, entry ∈ blockSizes session.sources)
    (books : caches.Perm ((cacheRegions session.sources).map bytes)) :
    Solvent { estate.withSession session with caches := caches } := by
  have held : (estate.withSession session).world.held = estate.world.held :=
    World.held_same pools
  have slabs : residence (estate.withSession session).world = residence estate.world := by
    unfold residence
    rw [show (estate.withSession session).world.allocator.pools = estate.world.allocator.pools
      from pools]
  refine ⟨solvent.sound.idle memory pools, ?_, fun other tenant found => ?_,
    fun loan member => sizes _ (solvent.loans loan member), books, ?_⟩
  · show Funded session.sources session.system (estate.withSession session).world.held
      ((residence (estate.withSession session).world).map Prod.snd ++ estate.abandoned)
    rwa [held, slabs]
  · have found : session.pools.find? other = some tenant := found
    rw [pools] at found
    exact sizes _ (solvent.supplied other tenant found)
  · show estate.residents.Perm ((residence (estate.withSession session).world).map bytes)
    rw [slabs]
    exact solvent.residents

/-- A refusal is noted down. -/
theorem noted (events : List Event) : (estate.withSession (estate.session.note events)).Solvent :=
  solvent.refounded rfl rfl solvent.funded (fun _ member => member) solvent.caches

theorem openBlocks (absent : name ∉ estate.session.sources.names) (blockSize : Nat) :
    (estate.perform (.openBlocks name blockSize)).Solvent := by
  have entries := Table.entries_insert_absent absent (Supplier.ofPool (.new blockSize))
  refine solvent.refounded rfl rfl (solvent.funded.open_ absent blockSize) ?_ ?_
  · intro entry member
    show entry ∈ (estate.session.sources.insert name _).entries.map _
    rw [entries, List.map_append]
    exact List.mem_append_left _ member
  · show estate.caches.Perm
      (((estate.session.sources.insert name _).entries.flatMap cacheOf).map bytes)
    rw [entries, List.flatMap_append, List.flatMap_singleton]
    exact solvent.caches.trans (.of_eq (congrArg _ (List.append_nil _).symm))

/-- A block pool that is set up gets its cache region from the system. -/
theorem setUp (found : estate.session.sources.find? name = some (.ofPool pool))
    (fresh : ∀ region, (estate.setUp name pool count).session.system.granted =
        region :: estate.session.system.granted →
      region.Placed ∧ ∀ held ∈ estate.session.system.held, region.Apart held) :
    (estate.setUp name pool count).Solvent := by
  cases made : pool.init estate.session.system count with
  | error fault =>
    rw [setUp_refused made name]
    exact solvent.noted fault.events
  | ok result =>
    obtain ⟨next, system⟩ := result
    rw [setUp_made made name] at fresh ⊢
    obtain ⟨unready, -, -, outcome⟩ := BlockPool.init_cases made
    -- A pool that was not ready had no cache, so its books only gain the new one.
    obtain ⟨new, -, -⟩ := (solvent.funded.tracks found).blank unready
    have size : next.blockSize = pool.blockSize := by
      obtain ⟨-, rfl, -⟩ | ⟨-, start, rfl, -⟩ := outcome
      · rfl
      · rfl
    refine solvent.refounded rfl rfl (solvent.funded.setUp found made fresh) ?_ ?_
    · intro entry member
      show entry ∈ blockSizes (estate.session.sources.insert name (.ofPool next))
      rwa [blockSizes_insert solvent.funded.names found size]
    · obtain ⟨rest, before, -, behind⟩ :=
        Table.flatMap_split solvent.funded.names found cacheOf
      have before : (cacheRegions estate.session.sources).Perm rest := by
        have bare : cacheOf (name, .ofPool pool) = [] := by
          rw [new]
          rfl
        rwa [bare] at before
      have after := behind (.ofPool next)
      unfold enter
      obtain ⟨empty, rfl, -⟩ | ⟨some, start, rfl, -⟩ := outcome
      · rw [if_pos empty]
        exact solvent.caches.trans ((before.trans after.symm).map bytes)
      · rw [if_neg some]
        exact (solvent.caches.cons _).trans (((before.cons _).trans after.symm).map bytes)

theorem setUpBlocks (honest : estate.Honest (.setUpBlocks name count)) :
    (estate.perform (.setUpBlocks name count)).Solvent := by
  have fresh := fresh_of_honest honest
  cases found : estate.session.blockPool? name with
  | none =>
    have nothing : estate.perform (.setUpBlocks name count) = estate := by
      unfold perform
      simp only [found]
    rwa [nothing]
  | some pool =>
    have done : estate.perform (.setUpBlocks name count) = estate.setUp name pool count := by
      unfold perform
      simp only [found]
    rw [done] at fresh ⊢
    exact solvent.setUp (Session.blockPool?_eq_some.1 found) fresh

theorem buildBlocks {blockSize : Nat} (honest : estate.Honest (.buildBlocks name blockSize count)) :
    (estate.perform (.buildBlocks name blockSize count)).Solvent := by
  have fresh := fresh_of_honest honest
  obtain ⟨fault, refused⟩ | both := buildBlocks_cases estate name blockSize count
  · rw [refused]
    exact solvent.noted fault.events
  · rw [both] at fresh ⊢
    exact (solvent.openBlocks honest.2 blockSize).setUp (Table.find?_insert_self _ _ _) fresh

theorem buildPool {elementSize : Nat} {config : Config}
    (honest : estate.Honest (.buildPool name source elementSize config count)) :
    (estate.perform (.buildPool name source elementSize config count)).Solvent := by
  have fresh := fresh_of_honest honest
  obtain ⟨fault, refused⟩ | both := buildPool_cases estate name source elementSize config count
  · rw [refused]
    exact solvent.noted fault.events
  · rw [both] at fresh ⊢
    exact (solvent.create ⟨honest.2.1, honest.2.2, rfl⟩).setUp_pool fresh

/-! ## Block pools go -/

/-- No pool holds blocks of a source that no pool draws on. -/
theorem not_drawn (tenants : ∀ entry ∈ estate.session.pools.entries, entry.2.source ≠ name) :
    ∀ entry ∈ estate.world.indexed ++ estate.world.waiting, entry.1 ≠ name := by
  intro entry member
  rcases List.mem_append.1 member with indexed | waiting
  · obtain ⟨⟨owner, tenant⟩, listed, mine⟩ := List.mem_flatMap.1 indexed
    obtain ⟨block, -, rfl⟩ := List.mem_map.1 mine
    exact tenants _ listed
  · obtain ⟨window, listed, rfl⟩ := List.mem_map.1 waiting
    obtain ⟨tenant, found, -⟩ := solvent.sound.awaited window listed
    simp only
    rw [World.sourceOf_found found]
    exact tenants _ (Table.mem_of_find? found)

/-- The blocks of the system that such a source has lent are those of loans. -/
theorem lent_of_pool (tenants : ∀ entry ∈ estate.session.pools.entries, entry.2.source ≠ name)
    (found : estate.session.sources.find? name = some (.ofPool pool)) :
    (pool.outside (blocksAt name estate.world.held)).map pool.range =
      (estate.loansOf name pool).map Loan.region := by
  -- No pool draws on this source, so whatever it has handed out was taken directly.
  have none : blocksAt name (estate.world.indexed ++ estate.world.waiting) = [] := by
    refine List.eq_nil_iff_forall_not_mem.2 ?_
    intro block member
    exact solvent.not_drawn tenants _ (mem_blocksAt.1 member) rfl
  have loans : blocksAt name estate.world.held =
      (estate.world.lent.filter fun loan => loan.source = name).map fun loan => loan.region.start := by
    unfold World.held
    rw [← List.append_assoc, blocksAt_append, none, List.nil_append]
    unfold blocksAt World.borrowed
    rw [List.filter_map, List.map_map]
    rfl
  have size (loan : Loan) (member : loan ∈ estate.loansOf name pool) :
      pool.range loan.region.start = loan.region := by
    obtain ⟨listed, own⟩ := List.mem_filter.1 member
    obtain ⟨rfl, -⟩ := of_decide_eq_true own
    obtain ⟨owner, present, same⟩ := solvent.pool_of_size (solvent.loans loan listed)
    rw [found] at present
    cases present
    unfold BlockPool.range
    rw [same]
  have outside : pool.outside (blocksAt name estate.world.held) =
      (estate.loansOf name pool).map fun loan => loan.region.start := by
    rw [loans]
    unfold BlockPool.outside loansOf
    rw [List.filter_map, List.filter_filter]
    congr 1
    refine List.filter_congr ?_
    intro loan _
    cases inside : pool.contains loan.region.start <;> simp [inside]
  rw [outside, List.map_map]
  exact List.map_congr_left size

/-- The blocks that are held once the loans of a source are forgotten. -/
theorem held_of_others (tenants : ∀ entry ∈ estate.session.pools.entries, entry.2.source ≠ name) :
    estate.world.held.filter (fun entry => entry.1 ≠ name) =
      { estate.world with
        lent := estate.world.lent.filter fun loan => loan.source ≠ name : World Supplier }.held := by
  have kept : ((estate.world.indexed ++ estate.world.waiting).filter fun entry => entry.1 ≠ name) =
      estate.world.indexed ++ estate.world.waiting := by
    refine List.filter_eq_self.2 ?_
    intro entry member
    exact decide_eq_true (solvent.not_drawn tenants entry member)
  have loans : (estate.world.borrowed.filter fun entry => entry.1 ≠ name) =
      { estate.world with
        lent := estate.world.lent.filter fun loan => loan.source ≠ name : World Supplier }.borrowed := by
    unfold World.borrowed
    rw [List.filter_map]
    rfl
  unfold World.held
  rw [← List.append_assoc, List.filter_append, kept, loans, List.append_assoc]
  rfl

/-- The books of a block pool that ends are struck out. -/
theorem caches_gone (found : estate.session.sources.find? name = some (.ofPool pool)) :
    (strike estate.caches name).Perm
      ((cacheRegions (estate.session.sources.erase name)).map bytes) := by
  obtain ⟨rest, before, erased, -⟩ := Table.flatMap_split solvent.funded.names found cacheOf
  have same := solvent.caches.trans (before.map bytes)
  rw [List.map_append, ← show cacheRegions (estate.session.sources.erase name) = rest from erased]
    at same
  refine strike_split same ?_ ?_
  · intro entry member
    obtain ⟨cache, mine, rfl⟩ := List.mem_map.1 member
    obtain ⟨region, -, rfl⟩ := List.mem_map.1 mine
    rfl
  · intro entry member
    obtain ⟨cache, other, rfl⟩ := List.mem_map.1 member
    have listed := cacheRegions_name other
    rw [Table.names_erase] at listed
    exact bne_iff_ne.1 (List.mem_filter.1 listed).2

/-- A block pool that ends gives its cache region back. Its blocks that are still lent stay in
use if they came from the system. -/
theorem closeBlocks (tenants : ∀ entry ∈ estate.session.pools.entries, entry.2.source ≠ name) :
    (estate.perform (.closeBlocks name)).Solvent := by
  cases known : estate.session.blockPool? name with
  | none =>
    have nothing : estate.perform (.closeBlocks name) = estate := by
      unfold perform
      simp only [known]
    rwa [nothing]
  | some pool =>
    have found := Session.blockPool?_eq_some.1 known
    have done : estate.perform (.closeBlocks name) = { estate with
        world := { estate.world with
          allocator := estate.session.dropBlocks name pool
          lent := estate.world.lent.filter fun loan => loan.source ≠ name }
        caches := strike estate.caches name
        abandoned := (estate.loansOf name pool).map Loan.region ++ estate.abandoned } := by
      unfold perform
      simp only [known]
    have funded := solvent.funded.close found
    rw [solvent.lent_of_pool tenants found, solvent.held_of_others tenants] at funded
    rw [done]
    refine ⟨?_, ?_, fun other tenant present => ?_, fun loan member => ?_, ?_, solvent.residents⟩
    · refine solvent.sound.keep rfl (fun region _ => .of_eq rfl region) rfl ?_ fun _ member => member
      refine solvent.sound.laid.subperm ?_
      exact ((List.filter_sublist.map Loan.region).append_left _).subperm
    · refine funded.perm (.refl _) ?_
      rw [← List.append_assoc, ← List.append_assoc]
      exact List.perm_append_comm.append_right _
    · exact mem_blockSizes_erase (solvent.supplied other tenant present)
        (tenants _ (Table.mem_of_find? present))
    · obtain ⟨listed, different⟩ := List.mem_filter.1 member
      exact mem_blockSizes_erase (solvent.loans loan listed) (of_decide_eq_true different)
    · exact solvent.caches_gone found

/-! ## Runs -/

/-- **Every honest deed leaves an estate solvent.** -/
theorem perform {deed : Deed} (honest : estate.Honest deed) : (estate.perform deed).Solvent := by
  cases deed with
  | act act => exact solvent.act honest
  | openBlocks name blockSize => exact solvent.openBlocks honest.2 blockSize
  | setUpBlocks name count => exact solvent.setUpBlocks honest
  | buildBlocks name blockSize count => exact solvent.buildBlocks honest
  | buildPool name source elementSize config count => exact solvent.buildPool honest
  | closeBlocks name => exact solvent.closeBlocks honest.2
  | exchange policy =>
    exact solvent.refounded rfl rfl (solvent.funded.exchange policy) (fun _ member => member)
      solvent.caches

theorem run {deeds : List Deed} (honest : estate.HonestRun deeds) : (estate.run deeds).Solvent := by
  induction deeds generalizing estate with
  | nil => exact solvent
  | cons deed rest ih =>
    obtain ⟨here, later⟩ := honest
    exact ih (solvent.perform here) later

end

theorem start (memory : Memory) (policy : Policy) : (Estate.start memory policy).Solvent where
  sound := .start _
  funded := ⟨List.nodup_nil, (fun _ _ found => by cases found), (fun _ member => by cases member),
    .refl _, ⟨(fun _ member => by cases member), .nil⟩, .refl _⟩
  supplied := fun _ _ found => by cases found
  loans := fun _ member => by cases member
  caches := .refl _
  residents := .refl _

end Estate.Solvent

end SlabAllocator
