import SlabAllocator.Proofs.Allocator.Estate
import SlabAllocator.Proofs.Course

/-! Every honest deed leaves an estate solvent. Ranges that the system grants are apart from
all that is in use of it, and blocks of a cache are apart from all other blocks, so whatever
a pool gets is nobody's; and whatever comes back is taken back. -/
namespace SlabAllocator

open ElementPool

namespace World.WorksOn

variable {world after : World Supplier}

/-- Pools that work on keep their resident slabs. -/
theorem residence (works : world.WorksOn after.allocator.pools)
    (once : world.allocator.pools.names.Nodup) :
    Estate.residence after = Estate.residence world := by
  unfold Estate.residence
  rcases works with same | ⟨name, owner, next, present, moved, steady⟩
  · rw [same]
  · obtain ⟨front, back, parts, -, inserted⟩ := Table.split once present
    rw [moved, parts, inserted, List.flatMap_append, List.flatMap_append, List.flatMap_cons,
      List.flatMap_cons]
    simp only
    rw [steady.resident]

end World.WorksOn

namespace Estate.Solvent

variable {estate : Estate} {name source : String} {block : Nat}

section

variable (solvent : estate.Solvent)
include solvent

/-! ## What is nobody's -/

/-- The pool that a source stands for, with blocks of this size. -/
theorem pool_of_size {size : Nat} (known : (source, size) ∈ blockSizes estate.session.sources) :
    ∃ pool, estate.session.sources.find? source = some (.ofPool pool) ∧ pool.blockSize = size := by
  obtain ⟨supplier, found, same⟩ := find?_of_blockSizes solvent.funded.names known
  obtain ⟨pool, rfl, -⟩ := solvent.funded.tracked source supplier found
  exact ⟨pool, found, same⟩

/-- Whatever somebody holds is a resident slab or a block that is out. -/
theorem region_cases {region : Region} (member : region ∈ estate.world.regions) :
    region ∈ (residence estate.world).map Prod.snd ∨ ∃ source block pool,
      (source, block) ∈ estate.world.held ∧
        estate.session.sources.find? source = some (.ofPool pool) ∧ region = pool.range block := by
  rw [World.Sound.regions_eq] at member
  -- A region is a resident slab or a block: in a row, in flight or lent.
  rcases List.mem_append.1 member with slab | lent
  · obtain ⟨⟨name, tenant⟩, listed, mine⟩ := List.mem_flatMap.1 slab
    have found := Table.find?_of_mem solvent.sound.names listed
    rcases List.mem_append.1 mine with own | carved
    · left
      obtain ⟨resident, set, rfl⟩ := Option.map_eq_some_iff.1 (Option.mem_toList.1 own)
      refine List.mem_map.2 ⟨(name, resident.region), ?_, rfl⟩
      refine List.mem_flatMap.2 ⟨(name, tenant), listed, ?_⟩
      exact List.mem_map.2 ⟨resident, Option.mem_toList.2 set, rfl⟩
    · right
      obtain ⟨base, known, rfl⟩ := List.mem_map.1 carved
      obtain ⟨pool, present, size⟩ := solvent.pool_of_size (solvent.supplied name tenant found)
      obtain ⟨view, shows, -⟩ := solvent.sound.shown name tenant found
      refine ⟨tenant.source, base, pool, ?_, present, ?_⟩
      · refine List.mem_append_left _ (List.mem_flatMap.2 ⟨(name, tenant), listed, ?_⟩)
        exact List.mem_map.2 ⟨base, known, rfl⟩
      · unfold BlockPool.range
        rw [size]
  · right
    rcases List.mem_append.1 lent with waiting | loaned
    · obtain ⟨window, listed, rfl⟩ := List.mem_map.1 waiting
      obtain ⟨tenant, found, size⟩ := solvent.sound.awaited window listed
      obtain ⟨pool, present, same⟩ := solvent.pool_of_size (solvent.supplied _ tenant found)
      refine ⟨tenant.source, window.region.start, pool, ?_, present, ?_⟩
      · refine List.mem_append_right _ (List.mem_append_left _ ?_)
        exact List.mem_map.2 ⟨window, listed, by rw [World.sourceOf_found found]⟩
      · unfold BlockPool.range
        rw [same, size]
    · obtain ⟨loan, listed, rfl⟩ := List.mem_map.1 loaned
      obtain ⟨pool, present, same⟩ := solvent.pool_of_size (solvent.loans loan listed)
      refine ⟨loan.source, loan.region.start, pool, ?_, present, ?_⟩
      · refine List.mem_append_right _ (List.mem_append_right _ ?_)
        exact List.mem_map.2 ⟨loan, listed, rfl⟩
      · unfold BlockPool.range
        rw [same]

/-- A range apart from all that is in use of the system is nobody's. -/
theorem fresh_of_granted {region : Region} (placed : region.Placed)
    (apart : ∀ held ∈ estate.session.system.held, region.Apart held) :
    estate.world.Fresh region := by
  refine ⟨placed, fun other member => ?_⟩
  rcases solvent.region_cases member with resident | ⟨source, block, pool, out, found, rfl⟩
  · refine apart other (solvent.funded.held.mem_iff.2 (List.mem_append_right _ ?_))
    exact List.mem_append_left _ resident
  · obtain ⟨home, mine, within⟩ :=
      solvent.funded.within found (List.mem_append_right _ (mem_blocksAt.2 out))
    exact ((apart home (solvent.funded.mem_held found mine)).symm.of_within within).symm

/-- A block that a pool has just handed out is nobody else's. -/
theorem fresh_of_block {sources : Table Supplier} {system : System} {others : List Region}
    {pool : BlockPool} (funded : Funded sources system ((source, block) :: estate.world.held)
      ((residence estate.world).map Prod.snd ++ others))
    (footing : SameFooting sources estate.session.sources)
    (found : sources.find? source = some (.ofPool pool)) :
    estate.world.Fresh (pool.range block) := by
  have here : block ∈ pool.free ++ blocksAt source ((source, block) :: estate.world.held) :=
    List.mem_append_right _ (mem_blocksAt.2 List.mem_cons_self)
  refine ⟨funded.placed found here, fun other member => ?_⟩
  rcases solvent.region_cases member with resident | ⟨owner, foreign, before, out, known, rfl⟩
  · exact funded.apart_others found here (List.mem_append_left _ resident)
  · -- The owner may have changed by the request itself, but its blocks have the size they had.
    have size := mem_blockSizes known
    rw [← footing.blockSizes] at size
    obtain ⟨supplier, present, same⟩ := find?_of_blockSizes funded.names size
    obtain ⟨after, rfl, -⟩ := funded.tracked owner supplier present
    have range : before.range foreign = after.range foreign := by
      unfold BlockPool.range
      rw [show before.blockSize = after.blockSize from same.symm]
    rw [range]
    have there : foreign ∈ after.free ++ blocksAt owner ((source, block) :: estate.world.held) :=
      List.mem_append_right _ (mem_blocksAt.2 (List.mem_cons_of_mem _ out))
    by_cases mine : source = owner
    · subst mine
      rw [found] at present
      cases present
      have siblings := funded.siblings found
      rw [List.map_append, blocksAt_cons_self, List.map_cons] at siblings
      obtain ⟨apart, -⟩ := List.pairwise_cons.1 (List.pairwise_append.1 siblings).2.1
      exact apart _ (List.mem_map_of_mem (mem_blocksAt.2 out))
    · exact funded.strangers found here present there mine

/-! ## Acts -/

/-- An act leaves the estate solvent if sources and system account for what is held, pools and
loans are of sources that are there, and the books are kept. -/
theorem acted {act : Act Supplier} (sound : (estate.world.perform act).Sound)
    (funded : Funded (estate.world.perform act).allocator.sources
      (estate.world.perform act).allocator.system (estate.world.perform act).held
      ((residence (estate.world.perform act)).map Prod.snd ++ estate.abandoned))
    (footing : SameFooting (estate.world.perform act).allocator.sources estate.session.sources)
    (supplied : ∀ name tenant, (estate.world.perform act).allocator.pools.find? name = some tenant →
      (tenant.source, tenant.pool.blockSize) ∈ blockSizes estate.session.sources)
    (loans : ∀ loan ∈ (estate.world.perform act).lent,
      (loan.source, loan.region.size) ∈ blockSizes estate.session.sources)
    (books : (estate.residentsAfter act).Perm ((residence (estate.world.perform act)).map bytes)) :
    (estate.perform (.act act)).Solvent := by
  rw [← footing.blockSizes] at supplied loans
  have caches := solvent.caches
  rw [← footing.cacheRegions] at caches
  exact ⟨sound, funded, supplied, loans, caches, books⟩

/-- All pools draw on sources that are there, also once one pool is new or has moved on. -/
theorem supplied_insert {tenant : Tenant}
    (own : (tenant.source, tenant.pool.blockSize) ∈ blockSizes estate.session.sources)
    (other : String) (owner : Tenant)
    (found : (estate.session.pools.insert name tenant).find? other = some owner) :
    (owner.source, owner.pool.blockSize) ∈ blockSizes estate.session.sources := by
  obtain ⟨-, rfl⟩ | ⟨-, before⟩ := Table.find?_insert_cases found
  · exact own
  · exact solvent.supplied other owner before

/-- The same holds of pools that work on. -/
theorem supplied_works {pools : Table Tenant} (works : estate.world.WorksOn pools) (other : String)
    (owner : Tenant) (found : pools.find? other = some owner) :
    (owner.source, owner.pool.blockSize) ∈ blockSizes estate.session.sources := by
  rcases works with rfl | ⟨name, tenant, next, present, rfl, steady⟩
  · exact solvent.supplied other owner found
  · refine solvent.supplied_insert ?_ other owner found
    simp only
    rw [steady.blockSize]
    exact solvent.supplied name tenant present

/-- An act in which pools work on leaves the estate solvent if sources and system account for
what is held. -/
theorem worked {act : Act Supplier} (sound : (estate.world.perform act).Sound)
    (works : estate.world.WorksOn (estate.world.perform act).allocator.pools)
    (books : estate.residentsAfter act = estate.residents)
    (funded : Funded (estate.world.perform act).allocator.sources
      (estate.world.perform act).allocator.system (estate.world.perform act).held
      ((residence estate.world).map Prod.snd ++ estate.abandoned))
    (footing : SameFooting (estate.world.perform act).allocator.sources estate.session.sources)
    (loans : ∀ loan ∈ (estate.world.perform act).lent, loan ∈ estate.world.lent ∨
      (loan.source, loan.region.size) ∈ blockSizes estate.session.sources) :
    (estate.perform (.act act)).Solvent := by
  have residence := works.residence solvent.sound.names
  rw [← residence] at funded
  refine solvent.acted sound funded footing (solvent.supplied_works works) ?_ ?_
  · intro loan member
    rcases loans loan member with old | new
    · exact solvent.loans loan old
    · exact new
  · rw [books, residence]
    exact solvent.residents

/-- An act that deals with no source and with nothing of the system. -/
theorem still {act : Act Supplier} (fair : estate.world.Honest act)
    (works : estate.world.WorksOn (estate.world.perform act).allocator.pools)
    (books : estate.residentsAfter act = estate.residents)
    (received : estate.world.received act = []) (settled : estate.world.settled act = [])
    (supply : (estate.world.perform act).allocator.SameSupply estate.session)
    (lent : (estate.world.perform act).lent = estate.world.lent) :
    (estate.perform (.act act)).Solvent := by
  have held := solvent.sound.held_step fair
  rw [received, settled, List.nil_append, List.append_nil] at held
  refine solvent.worked (solvent.sound.perform fair) works books ?_ ?_ ?_
  · rw [supply.sources, supply.system]
    exact solvent.funded.perm held (.refl _)
  · rw [supply.sources]
    exact .refl _
  · rw [lent]
    exact fun loan member => .inl member

/-- An act that takes a block from its source. -/
theorem took {act : Act Supplier} {taken : Session} (fair : estate.world.Honest act)
    (works : estate.world.WorksOn (estate.world.perform act).allocator.pools)
    (books : estate.residentsAfter act = estate.residents)
    (received : estate.world.received act = [(source, block)])
    (settled : estate.world.settled act = [])
    (funded : Funded taken.sources taken.system ((source, block) :: estate.world.held)
      ((residence estate.world).map Prod.snd ++ estate.abandoned))
    (footing : SameFooting taken.sources estate.session.sources)
    (supply : (estate.world.perform act).allocator.SameSupply taken)
    (loans : ∀ loan ∈ (estate.world.perform act).lent, loan ∈ estate.world.lent ∨
      (loan.source, loan.region.size) ∈ blockSizes estate.session.sources) :
    (estate.perform (.act act)).Solvent := by
  have held := solvent.sound.held_step fair
  rw [received, settled, List.append_nil] at held
  refine solvent.worked (solvent.sound.perform fair) works books ?_ ?_ loans
  · rw [supply.sources, supply.system]
    exact funded.perm held (.refl _)
  · rw [supply.sources]
    exact footing

/-- A block that was just taken is nobody else's. -/
theorem fresh_of_take {taken : Session} {size : Nat}
    (took : estate.session.takeBlock source = (.ok block, taken))
    (fresh : ∀ region, taken.system.granted = region :: estate.session.system.granted →
      region.Placed ∧ ∀ held ∈ estate.session.system.held, region.Apart held)
    (known : (source, size) ∈ blockSizes estate.session.sources) :
    estate.world.Fresh ⟨block, size⟩ := by
  obtain ⟨funded, footing⟩ := solvent.funded.takeBlock took fresh
  rw [← footing.blockSizes] at known
  obtain ⟨supplier, found, same⟩ := find?_of_blockSizes funded.names known
  obtain ⟨pool, rfl, -⟩ := funded.tracked source supplier found
  obtain rfl : pool.blockSize = size := same
  exact solvent.fresh_of_block funded footing found

end

/-- A source that hands out a block is there, and its blocks keep their size. -/
theorem known_of_take {taken : Session}
    (took : estate.session.takeBlock source = (.ok block, taken)) :
    (source, estate.world.blockSizeOf source) ∈ blockSizes estate.session.sources := by
  obtain ⟨supplier, -, found, -⟩ := Allocator.takeBlock_ok took
  have listed := mem_blockSizes found
  unfold World.blockSizeOf
  rwa [show estate.world.allocator.sources.find? source = some supplier from found]

/-- What the system grants for a deed is apart from all that is in use of it. -/
theorem fresh_of_honest {deed : Deed} (honest : estate.Honest deed) (region : Region)
    (grown : (estate.perform deed).session.system.granted =
      region :: estate.session.system.granted) :
    region.Placed ∧ ∀ held ∈ estate.session.system.held, region.Apart held := by
  refine honest.1 region ?_
  unfold granted
  rw [grown]
  simp

/-- What the system grants for a block that is taken for a request is nobody's. -/
theorem granted_of_request {after : Session} (honest : estate.Honest (.act (.request name)))
    (sought : estate.session.seek name = (.awaiting source block, after)) (region : Region)
    (grown : after.system.granted = region :: estate.session.system.granted) :
    region.Placed ∧ ∀ held ∈ estate.session.system.held, region.Apart held := by
  have begun := World.perform_awaiting (show estate.world.allocator.seek name = _ from sought)
  refine fresh_of_honest honest region ?_
  show (estate.world.perform (.request name)).allocator.system.granted = _
  rw [begun]
  exact grown

/-- What is left of books that are split by name once one name is struck out. -/
theorem strike_split {books mine rest : List (String × Nat)} (same : books.Perm (mine ++ rest))
    (own : ∀ entry ∈ mine, entry.1 = name) (others : ∀ entry ∈ rest, entry.1 ≠ name) :
    (strike books name).Perm rest := by
  have gone : (mine.filter fun entry => entry.1 ≠ name) = [] :=
    List.filter_eq_nil_iff.2 fun entry member => by simp [own entry member]
  have kept : (rest.filter fun entry => entry.1 ≠ name) = rest :=
    List.filter_eq_self.2 fun entry member => by simp [others entry member]
  have whole := same.filter fun entry => entry.1 ≠ name
  rwa [List.filter_append, gone, kept] at whole

/-- Resident slabs are listed under names of pools. -/
theorem residence_name {world : World Supplier} {entry : String × Region}
    (member : entry ∈ residence world) : entry.1 ∈ world.allocator.pools.names := by
  obtain ⟨⟨name, tenant⟩, listed, mine⟩ := List.mem_flatMap.1 member
  obtain ⟨resident, -, rfl⟩ := List.mem_map.1 mine
  exact List.mem_map_of_mem (f := Prod.fst) listed

section

variable (solvent : estate.Solvent)
include solvent

/-- A request of an honest deed is an honest act. -/
theorem fair_request (honest : estate.Honest (.act (.request name))) :
    estate.world.Honest (.request name) := by
  refine ⟨fun region member => ?_, trivial⟩
  unfold World.granted at member
  rcases estate.session.seek_supply name with ⟨outcome, after, sought, -⟩ |
    ⟨source, block, after, taken, sought, took, supply⟩
  · have sought : estate.world.allocator.seek name = (.settled outcome, after) := sought
    simp only [sought] at member
    cases member
  · have fresh := granted_of_request honest sought
    rw [supply.system] at fresh
    have sought : estate.world.allocator.seek name = (.awaiting source block, after) := sought
    obtain ⟨tenant, found, -, rfl⟩ := Allocator.seek_awaiting sought
    have block := solvent.fresh_of_take took fresh (solvent.supplied name tenant found)
    simp only [sought, World.pool?, found, Option.map_some, Option.getD_some,
      Option.mem_def, Option.some.injEq] at member
    rwa [← member]

theorem request (honest : estate.Honest (.act (.request name))) :
    (estate.perform (.act (.request name))).Solvent := by
  have fair := solvent.fair_request honest
  have works := solvent.sound.request_worksOn name
  rcases estate.session.seek_supply name with ⟨outcome, after, sought, supply⟩ |
    ⟨source, block, after, taken, sought, took, supply⟩
  · have sought : estate.world.allocator.seek name = (.settled outcome, after) := sought
    refine solvent.still fair works rfl ?_ rfl ?_ ?_
    · unfold World.received
      simp only [sought]
    · rw [World.perform_request sought]
      exact supply
    · rw [World.perform_request sought]
  · have fresh := granted_of_request honest sought
    rw [supply.system] at fresh
    have sought : estate.world.allocator.seek name = (.awaiting source block, after) := sought
    have begun := World.perform_awaiting sought
    obtain ⟨funded, footing⟩ := solvent.funded.takeBlock took fresh
    refine solvent.took fair works rfl ?_ rfl funded footing ?_ ?_
    · unfold World.received
      simp only [sought]
    · rw [begun]
      exact supply
    · rw [begun]
      exact fun loan member => .inl member

theorem take (honest : estate.Honest (.act (.take source))) :
    (estate.perform (.act (.take source))).Solvent := by
  have fresh := fresh_of_honest honest
  have moved := World.allocator_take estate.world source
  have works : estate.world.WorksOn (estate.world.perform (.take source)).allocator.pools := by
    left
    rw [moved]
    exact (estate.world.allocator.takeBlock_same source).2
  cases took : estate.session.takeBlock source with
  | mk outcome taken =>
    have taking : estate.world.allocator.takeBlock source = (outcome, taken) := took
    rw [taking] at moved
    cases outcome with
    | error fault =>
      refine solvent.still ⟨fun region member => ?_, trivial⟩ works rfl ?_ rfl ?_ ?_
      · unfold World.granted at member
        simp only [taking] at member
        cases member
      · unfold World.received
        simp only [taking]
      · rw [moved]
        exact .of_failed took
      · unfold World.perform
        simp only [taking]
    | ok block =>
      have granted : ∀ region, taken.system.granted = region :: estate.session.system.granted →
          region.Placed ∧ ∀ held ∈ estate.session.system.held, region.Apart held := by
        intro region grown
        refine fresh region ?_
        show (estate.world.perform (.take source)).allocator.system.granted = _
        rw [moved]
        exact grown
      obtain ⟨funded, footing⟩ := solvent.funded.takeBlock took granted
      have known := known_of_take took
      refine solvent.took ⟨fun region member => ?_, trivial⟩ works rfl ?_ rfl funded footing ?_ ?_
      · have block := solvent.fresh_of_take took granted known
        unfold World.granted at member
        simp only [taking, Option.mem_def, Option.some.injEq] at member
        rwa [← member]
      · unfold World.received
        simp only [taking]
      · rw [moved]
        exact .refl _
      · intro loan member
        unfold World.perform at member
        simp only [taking] at member
        rcases List.mem_cons.1 member with rfl | old
        · exact .inr known
        · exact .inl old

/-- An act that offers blocks back. All of them are taken back. -/
theorem offered {act : Act Supplier} (fair : estate.world.Honest act)
    (works : estate.world.WorksOn (estate.world.perform act).allocator.pools)
    (books : estate.residentsAfter act = estate.residents)
    (received : estate.world.received act = []) (only : estate.world.OffersOnly act)
    (lent : ∀ loan ∈ (estate.world.perform act).lent, loan ∈ estate.world.lent) :
    (estate.perform (.act act)).Solvent := by
  obtain ⟨source, blocks, offers, supply⟩ := only
  have known := (solvent.sound.offers_mine fair).trans (solvent.sound.mine_held fair)
  rw [offers, Allocator.offerAll_blocks] at known
  obtain ⟨accepted, remaining, footing, -⟩ := solvent.funded.offerAll known
  -- A block pool refuses nothing that is its own, so all that is offered is settled.
  have settled : estate.world.settled act = blocks.map fun block => (source, block) := by
    have entries := Allocator.offerAll_blocks estate.session source blocks
    unfold World.settled
    split
    · rw [offers]
      exact accepted
    · rw [offers]
      exact entries
  have held := solvent.sound.held_step fair
  rw [received, settled, List.nil_append] at held
  refine solvent.worked (solvent.sound.perform fair) works books ?_ ?_
    fun loan member => .inl (lent loan member)
  · rw [supply.sources, supply.system]
    exact remaining _ held
  · rw [supply.sources]
    exact footing

theorem publish {window : Window} (member : window ∈ estate.world.windows) :
    (estate.perform (.act (.publish window))).Solvent := by
  refine solvent.offered ⟨(fun region absurd => by cases absurd), member⟩
    (solvent.sound.publish_worksOn member) rfl rfl (.publish estate.world window) ?_
  intro loan listed
  simp only [World.perform] at listed
  split at listed <;> exact listed

theorem release {address : Nat} (obeys : estate.world.Obeys (.release name address)) :
    (estate.perform (.act (.release name address))).Solvent :=
  solvent.offered ⟨(fun region absurd => by cases absurd), obeys⟩
    (World.Sound.release_worksOn estate.world name address) rfl rfl
    (.release estate.world name address) fun _ listed => listed

theorem give {loan : Loan} (member : loan ∈ estate.world.lent) :
    (estate.perform (.act (.give loan))).Solvent := by
  refine solvent.offered ⟨(fun region absurd => by cases absurd), member⟩ ?_ rfl rfl
    (.give estate.world loan) ?_
  · left
    rw [World.allocator_give]
    exact (estate.world.allocator.giveBlock_same loan.source loan.region.start).2
  · intro other listed
    simp only [World.perform] at listed
    split at listed
    · exact List.mem_of_mem_erase listed
    · exact listed

theorem write {start length : Nat} {content : Nat → UInt8}
    (writable : estate.world.Writable ⟨start, length⟩) :
    (estate.perform (.act (.write start length content))).Solvent :=
  solvent.still ⟨(fun region absurd => by cases absurd), writable⟩ (.inl rfl) rfl rfl rfl
    ⟨rfl, rfl, rfl⟩ rfl

/-- A pool that was made has no resident slab yet. -/
theorem create {blockSize elementSize : Nat} {config : Config}
    (obeys : estate.Obeys (.act (.create name source blockSize elementSize config))) :
    (estate.perform (.act (.create name source blockSize elementSize config))).Solvent := by
  obtain ⟨absent, present, size⟩ := obeys
  obtain ⟨pool, drawn⟩ := solvent.funded.pool_of_known present
  have own : (source, blockSize) ∈ blockSizes estate.session.sources := by
    unfold Session.blockSizeOf at size
    rw [drawn] at size
    rw [size]
    exact mem_blockSizes drawn
  have fair : estate.world.Honest (.create name source blockSize elementSize config) :=
    ⟨(fun region absurd => by cases absurd), absent⟩
  have held := solvent.sound.held_step fair
  have kept := held.trans (.of_eq (List.append_nil _))
  have same : residence (estate.world.perform (.create name source blockSize elementSize config)) =
      residence estate.world := by
    have entries := Table.entries_insert_absent absent
      (⟨.new blockSize elementSize config, source⟩ : Tenant)
    unfold residence World.perform
    simp only
    rw [show estate.world.allocator.pools = estate.session.pools from rfl, entries,
      List.flatMap_append, List.flatMap_singleton]
    exact List.append_nil _
  have funded := solvent.funded.perm kept (.refl _)
  rw [← same] at funded
  have residents := solvent.residents
  rw [← same] at residents
  exact solvent.acted (solvent.sound.perform fair) funded (.refl _) (solvent.supplied_insert own)
    solvent.loans residents

/-- A pool that is not set up for elements has no resident slab. -/
theorem resident_unready {tenant : Tenant}
    (found : estate.session.pools.find? name = some tenant) (unready : tenant.pool.ready = false) :
    tenant.pool.resident = none := by
  obtain ⟨view, shows, -⟩ := solvent.sound.shown name tenant found
  rw [shows.resident, shows.idle unready]
  rfl

/-- A set-up that fails changes nothing but the journal. -/
theorem setUp_failed {count : Nat} {fault : Fault}
    (failed : (estate.session.initPool name count).1 = .error fault) :
    (estate.perform (.act (.setUp name count))).Solvent := by
  have refused : (estate.session.initPool name count).2.SameSupply estate.session ∧
      (estate.session.initPool name count).2.pools = estate.session.pools ∧
      estate.world.granted (.setUp name count) = none := by
    have left : (estate.session.initPool name count).2 = estate.session.note fault.events :=
      Allocator.initPool_failed (Prod.ext failed rfl)
    rw [left]
    refine ⟨⟨rfl, rfl, rfl⟩, rfl, ?_⟩
    -- An attempt that was refused leaves no region behind.
    unfold World.granted World.pool?
    cases found : estate.world.allocator.pools.find? name with
    | none => simp only [found, Option.map_none]
    | some tenant =>
      cases made : tenant.pool.init estate.world.allocator.memory estate.world.allocator.system
        count with
      | error other => simp only [found, made, Option.map_some]
      | ok setup =>
        have answered := Allocator.initPool_made found made
        cases (congrArg Prod.fst answered).symm.trans failed
  obtain ⟨supply, pools, granted⟩ := refused
  refine solvent.still ⟨fun region member => ?_, trivial⟩ (.inl pools) ?_ rfl rfl supply rfl
  · rw [granted] at member
    cases member
  · unfold residentsAfter
    simp only
    rw [failed]
    split
    · next equal => cases equal
    · rfl

/-- A pool that is set up has its resident slab besides what was there. -/
theorem setUp_residence {tenant : Tenant} {count : Nat} {setup : Setup} {after : World Supplier}
    (found : estate.session.pools.find? name = some tenant)
    (made : tenant.pool.init estate.session.memory estate.session.system count = .ok setup)
    (pools : after.allocator.pools =
      estate.session.pools.insert name { tenant with pool := setup.pool }) :
    (count = 0 ∧ setup.pool.resident = none ∧ setup.system = estate.session.system ∧
        (residence estate.world).Perm (residence after)) ∨
      count ≠ 0 ∧ ∃ base, setup.pool.resident = some ⟨base, slabBytes tenant.pool count⟩ ∧
        setup.system = { estate.session.system with
          granted := ⟨base, slabBytes tenant.pool count⟩ :: estate.session.system.granted
          held := ⟨base, slabBytes tenant.pool count⟩ :: estate.session.system.held } ∧
        ((name, ⟨base, slabBytes tenant.pool count⟩) :: residence estate.world).Perm
          (residence after) := by
  have bare := solvent.resident_unready found (init_cases made).1
  obtain ⟨rest, before, -, behind⟩ := Table.flatMap_split solvent.sound.names found
    fun entry => entry.2.pool.resident.toList.map fun resident => (entry.1, resident.region)
  have before : (residence estate.world).Perm rest := by
    rw [bare] at before
    exact before
  have behind : (residence after).Perm
      ((setup.pool.resident.toList.map fun resident => (name, resident.region)) ++ rest) := by
    unfold residence
    rw [pools]
    exact behind { tenant with pool := setup.pool }
  obtain ⟨empty, same, system⟩ | ⟨some, base, new, system⟩ := init_system made
  · rw [bare] at same
    rw [same] at behind
    exact .inl ⟨empty, same, system, before.trans behind.symm⟩
  · rw [new] at behind
    exact .inr ⟨some, base, new, system, (before.cons _).trans behind.symm⟩

/-- The resident slab of a pool that is set up is nobody's. -/
theorem setUp_fair {tenant : Tenant} {count : Nat} {setup : Setup}
    (found : estate.session.pools.find? name = some tenant)
    (made : tenant.pool.init estate.session.memory estate.session.system count = .ok setup)
    (fresh : ∀ region, setup.system.granted = region :: estate.session.system.granted →
      region.Placed ∧ ∀ held ∈ estate.session.system.held, region.Apart held) :
    estate.world.Honest (.setUp name count) := by
  refine ⟨fun region member => ?_, trivial⟩
  have known : estate.world.pool? name = some tenant.pool := congrArg (Option.map Tenant.pool) found
  have making : tenant.pool.init estate.world.allocator.memory estate.world.allocator.system count =
    .ok setup := made
  unfold World.granted at member
  simp only [known, making] at member
  obtain ⟨-, none, -⟩ | ⟨-, base, new, grown⟩ := init_system made
  · rw [none, solvent.resident_unready found (init_cases made).1] at member
    cases member
  · rw [new] at member
    cases member
    obtain ⟨placed, apart⟩ := fresh _ (congrArg System.granted grown)
    exact solvent.fresh_of_granted placed apart

/-- An element pool that is set up gets its resident slab from the system. -/
theorem setUp_pool {count : Nat}
    (fresh : ∀ region, (estate.perform (.act (.setUp name count))).session.system.granted =
        region :: estate.session.system.granted →
      region.Placed ∧ ∀ held ∈ estate.session.system.held, region.Apart held) :
    (estate.perform (.act (.setUp name count))).Solvent := by
  obtain ⟨fault, failed⟩ | ⟨tenant, setup, found, made, answered⟩ :=
    Allocator.initPool_cases estate.session name count
  · exact solvent.setUp_failed (congrArg Prod.fst failed)
  have answer := congrArg Prod.fst answered
  have performed := congrArg Prod.snd answered
  have pools : (estate.world.perform (.setUp name count)).allocator.pools =
      estate.session.pools.insert name { tenant with pool := setup.pool } :=
    congrArg Allocator.pools performed
  have sources : (estate.world.perform (.setUp name count)).allocator.sources =
      estate.session.sources := (congrArg Allocator.sources performed).trans rfl
  have system : (estate.world.perform (.setUp name count)).allocator.system = setup.system :=
    congrArg Allocator.system performed
  have books : estate.residentsAfter (.setUp name count) =
      enter estate.residents name count (slabBytes tenant.pool count) := by
    have known : estate.world.pool? name = some tenant.pool := congrArg (Option.map Tenant.pool) found
    unfold residentsAfter
    simp only [known, answer]
  have granted (region : Region)
      (grown : setup.system.granted = region :: estate.session.system.granted) :
      region.Placed ∧ ∀ held ∈ estate.session.system.held, region.Apart held :=
    fresh region ((congrArg System.granted system).trans grown)
  -- Either there is no resident slab, or one region was granted and is entered in the books.
  have outcome := solvent.setUp_residence found made pools
  have fair := solvent.setUp_fair found made granted
  have kept := (solvent.sound.held_step fair).trans (.of_eq (List.append_nil _))
  refine solvent.acted (solvent.sound.perform fair) ?_ (by rw [sources]; exact .refl _) ?_
    solvent.loans ?_
  · rw [sources, system]
    obtain ⟨-, -, unchanged, same⟩ | ⟨-, base, -, grown, more⟩ := outcome
    · rw [unchanged]
      exact solvent.funded.perm kept ((same.map Prod.snd).append_right _)
    · obtain ⟨placed, apart⟩ := granted ⟨base, slabBytes tenant.pool count⟩
        (congrArg System.granted grown)
      have funded := solvent.funded.grant placed apart (congrArg System.granted grown)
        (congrArg System.held grown) ((congrArg System.released grown).trans rfl)
      exact funded.perm kept ((more.map Prod.snd).append_right _)
  · rw [pools]
    refine solvent.supplied_insert ?_
    simp only
    rw [init_blockSize made]
    exact solvent.supplied name tenant found
  · rw [books]
    unfold enter
    obtain ⟨empty, -, -, same⟩ | ⟨some, base, -, -, more⟩ := outcome
    · rw [if_pos empty]
      exact solvent.residents.trans (same.map bytes)
    · rw [if_neg some]
      exact (solvent.residents.cons _).trans (more.map bytes)

/-! ## The end of a pool -/

/-- Without the pool of a name, its resident slab is gone and nothing else. -/
theorem residence_gone {tenant : Tenant} {after : World Supplier}
    (found : estate.session.pools.find? name = some tenant)
    (pools : after.allocator.pools = estate.session.pools.erase name) :
    (residence estate.world).Perm
      ((tenant.pool.resident.toList.map fun resident => (name, resident.region)) ++
        residence after) := by
  obtain ⟨rest, before, erased, -⟩ := Table.flatMap_split solvent.sound.names found
    fun entry => entry.2.pool.resident.toList.map fun resident => (entry.1, resident.region)
  have left : residence after = rest := by
    unfold residence
    rw [pools]
    exact erased
  rw [left]
  exact before

/-- The books of a pool that ends are struck out. -/
theorem residents_gone {tenant : Tenant} {after : World Supplier}
    (found : estate.session.pools.find? name = some tenant)
    (pools : after.allocator.pools = estate.session.pools.erase name) :
    (strike estate.residents name).Perm ((residence after).map bytes) := by
  have same := solvent.residents.trans ((solvent.residence_gone found pools).map bytes)
  rw [List.map_append] at same
  refine strike_split same ?_ ?_
  · intro entry member
    obtain ⟨slab, mine, rfl⟩ := List.mem_map.1 member
    obtain ⟨resident, -, rfl⟩ := List.mem_map.1 mine
    rfl
  · intro entry member
    obtain ⟨slab, other, rfl⟩ := List.mem_map.1 member
    have listed := residence_name other
    rw [pools, Table.names_erase] at listed
    exact bne_iff_ne.1 (List.mem_filter.1 listed).2

/-- There is nothing to end under a name that no pool has. -/
theorem drop_absent (fair : estate.world.Honest (.drop name))
    (absent : estate.session.pools.find? name = none) :
    (estate.perform (.act (.drop name))).Solvent := by
  have nothing : estate.session.dropPool name = estate.session := Allocator.dropPool_absent absent
  have unlisted : strike estate.residents name = estate.residents := by
    refine List.filter_eq_self.2 fun entry member => decide_eq_true ?_
    rintro rfl
    obtain ⟨slab, listed, same⟩ := List.mem_map.1 (solvent.residents.mem_iff.1 member)
    have known := residence_name listed
    rw [show slab.1 = entry.1 from congrArg Prod.fst same] at known
    exact Table.find?_eq_none_iff.1 absent known
  have gone : estate.world.settled (.drop name) = [] := by
    unfold World.settled World.offers
    simp only [show estate.world.allocator.pools.find? name = none from absent, List.map_nil]
  refine solvent.still fair (.inl ?_) unlisted rfl gone ?_ rfl
  · exact congrArg Allocator.pools nothing
  · rw [show (estate.world.perform (.drop name)).allocator = estate.session from nothing]
    exact .refl _

/-- A pool that ends gives all its slabs back, and its resident slab to the system. -/
theorem drop (obeys : estate.world.Obeys (.drop name)) :
    (estate.perform (.act (.drop name))).Solvent := by
  have fair : estate.world.Honest (.drop name) := ⟨(fun region absurd => by cases absurd), obeys⟩
  have pools : (estate.world.perform (.drop name)).allocator.pools =
    estate.session.pools.erase name := estate.session.dropPool_pools name
  cases found : estate.session.pools.find? name with
  | none => exact solvent.drop_absent fair found
  | some tenant =>
    have offers : estate.world.offers (.drop name) =
        (estate.session.offerAll tenant.source (tenant.pool.slabs estate.session.memory)).1 := by
      unfold World.offers
      simp only [show estate.world.allocator.pools.find? name = some tenant from found]
      rfl
    -- Slabs are blocks that the pool holds, so its source takes back every one of them.
    have known := (solvent.sound.offers_mine fair).trans (solvent.sound.mine_held fair)
    rw [offers, Allocator.offerAll_blocks] at known
    obtain ⟨-, remaining, footing, -⟩ := solvent.funded.offerAll known
    have held := solvent.sound.held_step fair
    have settled : estate.world.settled (.drop name) =
        (tenant.pool.slabs estate.session.memory).map fun block => (tenant.source, block) := by
      unfold World.settled
      simp only
      rw [offers, Allocator.offerAll_blocks]
    rw [settled] at held
    have funded := remaining _ held
    obtain ⟨sources, system⟩ := Allocator.dropPool_supply found
    rw [← sources] at footing funded
    have slabs := ((solvent.residence_gone found pools).map Prod.snd).append_right estate.abandoned
    refine solvent.acted (solvent.sound.perform fair) ?_ footing ?_ solvent.loans
      (solvent.residents_gone found pools)
    · show Funded (estate.session.dropPool name).sources (estate.session.dropPool name).system _ _
      rw [system]
      cases set : tenant.pool.resident with
      | none =>
        rw [set] at slabs
        exact funded.perm (.refl _) slabs
      -- The resident slab goes back to the system and leaves the books with the pool.
      | some resident =>
        rw [set] at slabs
        have slabs : ((residence estate.world).map Prod.snd ++ estate.abandoned).Perm
            (resident.region :: ((residence (estate.world.perform (.drop name))).map Prod.snd ++
              estate.abandoned)) := slabs
        have mine := slabs.mem_iff.2 List.mem_cons_self
        refine (funded.restore mine).perm (.refl _) ?_
        exact List.Perm.cons_inv ((List.perm_cons_erase mine).symm.trans slabs)
    · intro other owner present
      rw [pools] at present
      exact solvent.supplied other owner (Table.find?_erase_cases present).2

/-- Every act leaves an estate solvent. -/
theorem act {act : Act Supplier} (honest : estate.Honest (.act act)) :
    (estate.perform (.act act)).Solvent := by
  have obeys := honest.2
  cases act with
  | create => exact solvent.create obeys
  | setUp => exact solvent.setUp_pool (fresh_of_honest honest)
  | request => exact solvent.request honest
  | publish => exact solvent.publish obeys
  | release => exact solvent.release obeys
  | write => exact solvent.write obeys
  | take => exact solvent.take honest
  | give => exact solvent.give obeys
  | drop => exact solvent.drop obeys
  | outside => exact obeys.elim

end

end Estate.Solvent

end SlabAllocator
