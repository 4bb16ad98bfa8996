import SlabAllocator.Proofs.Allocator.Opening
import SlabAllocator.Proofs.ElementPool.Filling
import SlabAllocator.Proofs.ElementPool.Vetting

/-! A pool that could be set up can use every block of its source, if blocks are whole words:
each becomes a slab and serves an element at once, so none ever goes back unused. If blocks are
not whole words, none can be used, and each goes straight back. -/
namespace SlabAllocator

open ElementPool

variable {σ : Type}

namespace ElementPool

variable {pool next : ElementPool}

theorem Same.unfitBlock (same : pool.Same next) : next.unfitBlock = pool.unfitBlock := by
  unfold ElementPool.unfitBlock
  rw [same.blockSize, same.elementSize]

/-- A block that is not a whole number of words is no slab. -/
theorem adopt?_part (part : pool.blockSize % wordBytes ≠ 0) (memory : Memory) (block : Nat) :
    pool.adopt? memory block = none :=
  adopt?_unfit (Slab.format?_eq_none_iff.2 fun sizes => part sizes.2.2.1)

end ElementPool

variable [BlockSource σ]

namespace Allocator

variable {allocator after : Allocator σ} {name source : String} {tenant : Tenant} {block : Nat}

/-- The pool is still there when its block arrives, and can still not use it. -/
theorem awaiting_unfit (found : allocator.pools.find? name = some tenant)
    (part : tenant.pool.blockSize % wordBytes ≠ 0)
    (sought : allocator.seek name = (.awaiting source block, after)) :
    ∃ next, (allocator.meanwhile after source).2.pools.find? name =
        some { tenant with pool := next } ∧
      next.adopt? (allocator.meanwhile after source).2.memory block = none ∧
      next.unfitBlock = tenant.pool.unfitBlock := by
  obtain ⟨next, present, same⟩ := awaiting_continues sought name tenant found
  refine ⟨next, present, adopt?_part ?_ _ _, same.unfitBlock⟩
  rwa [same.blockSize]

/-- What is left of a request for a block that is no slab. -/
theorem alloc_unfit (found : allocator.pools.find? name = some tenant)
    (part : tenant.pool.blockSize % wordBytes ≠ 0)
    (sought : allocator.seek name = (.awaiting source block, after)) :
    allocator.alloc name =
      match (allocator.meanwhile after source).2.giveBlock tenant.source block with
      | (.error fault, last) => (.answered (allocator.meanwhile after source).1 (.error fault), last)
      | (.ok (), last) =>
        (.answered (allocator.meanwhile after source).1 (.error tenant.pool.unfitBlock),
          last.note tenant.pool.unfitBlock.events) := by
  obtain ⟨next, present, unfit, reason⟩ := awaiting_unfit found part sought
  rw [alloc_awaiting sought, publish_unfit present unfit, reason]
  cases (allocator.meanwhile after source).2.giveBlock tenant.source block with
  | mk outcome last => cases outcome <;> rfl

end Allocator

namespace World

variable {world : World σ} {name source : String} {tenant : Tenant} {block : Nat}
  {after : Allocator σ} {window : Window}

/-- The request of a pool for which `block` has arrived hands out the first element of a new
slab. -/
structure Carved (world : World σ) (name : String) (tenant : Tenant) (block : Nat)
    (during : List Reply × Allocator σ) : Prop where
  asked : (world.allocator.watched name).2 = [.asks tenant.source]
  made : ∃ next adopted, during.2.pools.find? name = some { tenant with pool := next } ∧
    next.adopt? during.2.memory block = some adopted ∧
    (world.allocator.alloc name).1 = .answered during.1 (.ok adopted.address) ∧
    (world.allocator.alloc name).2.pools.find? name = some { tenant with pool := adopted.pool }

/-- The request of a pool for which `block` has arrived gives the block back. It fails because
the block is unfit if the source takes it, else as the source says, and nothing of the pools or
of memory changes. -/
structure Declined (world : World σ) (name : String) (tenant : Tenant) (block : Nat)
    (during : List Reply × Allocator σ) : Prop where
  offered : (world.allocator.watched name).2 =
    [.asks tenant.source, .offers tenant.source block]
  outcome : (world.allocator.alloc name).1 = .answered during.1
    (match (during.2.giveBlock tenant.source block).1 with
      | .ok () => .error tenant.pool.unfitBlock
      | .error fault => .error fault)
  supply : (world.allocator.alloc name).2.SameSupply (during.2.giveBlock tenant.source block).2
  kept : (world.allocator.alloc name).2.memory = during.2.memory ∧
    (world.allocator.alloc name).2.pools = during.2.pools
  /-- The same, if nothing is served in the meantime. -/
  alone : world.allocator.interludes.find? tenant.source = none →
    (world.allocator.alloc name).2.memory = world.allocator.memory ∧
      (world.allocator.alloc name).2.pools = world.allocator.pools

/-- What becomes of a pool and of the blocks it is granted. -/
structure Provided (world : World σ) (name : String) (tenant : Tenant) : Prop where
  /-- What is set up is a pool as it was made. -/
  dormant : tenant.pool.ready = false →
    ∃ requested, tenant.pool = .new tenant.pool.blockSize requested tenant.pool.config
  /-- The assertion that a resident slab has as many slots as were asked for never fails. -/
  asserted : ∀ count, tenant.pool.init? world.allocator.memory world.allocator.system count =
    .ok (tenant.pool.init world.allocator.memory world.allocator.system count)
  /-- Nor does the assertion that a slab begins at a word: whatever the pool is granted lies at
  one. -/
  aligned : (∀ count setup, world.Honest (.setUp name count) →
      tenant.pool.init world.allocator.memory world.allocator.system count = .ok setup →
      ∀ resident ∈ setup.pool.resident, ∀ memory slabSize elementSize,
        Slab.formatAligned? memory resident.base slabSize elementSize =
          .ok (Slab.format? memory resident.base slabSize elementSize)) ∧
    ∀ window ∈ world.windows, window.pool = name → ∀ memory slabSize elementSize,
      Slab.formatAligned? memory window.region.start slabSize elementSize =
        .ok (Slab.format? memory window.region.start slabSize elementSize)
  /-- While nothing comes back, the resident slab serves just as many elements as the pool was
  set up with, whatever else happens, and the next request needs a block. -/
  opens : ∀ count setup acts,
    tenant.pool.init world.allocator.memory world.allocator.system count = .ok setup →
    world.HonestRun (.setUp name count :: acts) →
    (∀ act ∈ acts, act ≠ .drop name ∧ ∀ address, act ≠ .release name address) →
    let handed := countOf name ((world.perform (.setUp name count)).along handouts acts)
    let now := (world.run (.setUp name count :: acts)).allocator
    (handed < count → ∃ resident address after, setup.pool.resident = some resident ∧
      resident.region.contains address = true ∧
        now.watched name = ((.answered [] (.ok address), after), [])) ∧
    (tenant.pool.blockSize % wordBytes = 0 → handed = count →
      (now.watched name).2 = [.asks tenant.source])
  /-- Wherever a block lies, it becomes a slab and hands out its first element. -/
  fits : tenant.pool.ready = true → tenant.pool.blockSize % wordBytes = 0 → ∀ memory block,
    ∃ formatted changed adopted,
      Slab.format? memory block tenant.pool.blockSize tenant.pool.elementSize = some formatted ∧
        tenant.pool.adopt? memory block = some adopted ∧
        Slab.alloc? formatted block = some (adopted.address, changed)
  /-- Every block that is granted becomes a slab, or none does. -/
  granted : ∀ source block after,
    world.allocator.seek name = (.awaiting source block, after) →
    after.memory = world.allocator.memory ∧ after.pools = world.allocator.pools ∧
      let during := world.allocator.meanwhile after source
      (tenant.pool.blockSize % wordBytes = 0 → world.Carved name tenant block during) ∧
        (tenant.pool.blockSize % wordBytes ≠ 0 → world.Declined name tenant block during)
  /-- A block on its way becomes a slab when it is published, or nothing changes. -/
  published : ∀ window ∈ world.windows, window.pool = name →
    (tenant.pool.blockSize % wordBytes = 0 → ∃ next address,
      (world.allocator.publish name window.region.start).1 = .ok address ∧
        window.region.contains address = true ∧
        (world.perform (.publish window)).allocator.pools.find? name =
          some { tenant with pool := next } ∧
        (next.slabs (world.perform (.publish window)).allocator.memory).Perm
          (window.region.start :: tenant.pool.slabs world.allocator.memory)) ∧
    (tenant.pool.blockSize % wordBytes ≠ 0 → world.Idles (.publish window))

namespace Sound

/-- A block that becomes a slab is a slab of the pool more, and its first element is out. -/
theorem window_lists (sound : world.Sound) (measured : world.Measured)
    (member : window ∈ world.windows)
    (found : world.allocator.pools.find? window.pool = some tenant)
    (ready : tenant.pool.ready = true) (whole : tenant.pool.blockSize % wordBytes = 0) :
    ∃ next address,
      (world.allocator.publish window.pool window.region.start).1 = .ok address ∧
        window.region.contains address = true ∧
        (world.perform (.publish window)).allocator.pools.find? window.pool =
          some { tenant with pool := next } ∧
        (next.slabs (world.perform (.publish window)).allocator.memory).Perm
          (window.region.start :: tenant.pool.slabs world.allocator.memory) := by
  obtain ⟨view, shows, -⟩ := sound.shown window.pool tenant found
  have usable := sound.window_usable member found shows (measured _ tenant found) ready whole
  obtain ⟨adopted, arranged, -, published, placed, shown, -⟩ :=
    sound.publish_fit member found shows usable
  obtain ⟨inside, roomy, full, -⟩ := shows.adopt_first usable placed shown
  have region : (⟨window.region.start, tenant.pool.blockSize⟩ : Region) = window.region := by
    rw [shows.blockSize]
    exact sound.blank_region member found shows
  rw [region] at inside
  refine ⟨adopted.pool, adopted.address, by rw [published], inside, ?_, ?_⟩
  · rw [perform_publish world window published]
    exact Table.find?_insert_self _ _ _
  · rw [perform_publish world window published]
    show (adopted.pool.slabs adopted.memory).Perm _
    unfold ElementPool.slabs
    rw [roomy, full]
    split
    · exact List.perm_middle
    · exact .refl _

/-- A request that is granted a block that can be a slab is served. -/
theorem carved (sound : world.Sound) (measured : tenant.pool.Measured)
    (found : world.allocator.pools.find? name = some tenant)
    (sought : world.allocator.seek name = (.awaiting source block, after))
    (whole : tenant.pool.blockSize % wordBytes = 0) (bounded : tenant.pool.blockSize < wordLimit) :
    world.Carved name tenant block (world.allocator.meanwhile after source) := by
  obtain ⟨view, shows, -⟩ := sound.shown name tenant found
  obtain ⟨ready, -, nothing, -⟩ := sound.awaiting_drained sought found shows
  have carves := measured.carves ready whole bounded
  obtain ⟨next, adopted, present, made⟩ :
      ∃ next adopted, (world.allocator.meanwhile after source).2.pools.find? name =
          some { tenant with pool := next } ∧
        next.adopt? (world.allocator.meanwhile after source).2.memory block = some adopted :=
    Allocator.seek_adopts found carves sought
  refine ⟨Allocator.contacts_drained found ready carves (shows.attempt_none nothing), next, adopted,
    present, made, ?_⟩
  rw [Allocator.alloc_awaiting sought, Allocator.publish_adopted present made]
  exact ⟨rfl, Table.find?_insert_self _ _ _⟩

/-- A request that is granted a block that cannot be a slab is left without one. -/
theorem declined (sound : world.Sound)
    (found : world.allocator.pools.find? name = some tenant)
    (sought : world.allocator.seek name = (.awaiting source block, after))
    (part : tenant.pool.blockSize % wordBytes ≠ 0) :
    world.Declined name tenant block (world.allocator.meanwhile after source) := by
  obtain ⟨view, shows, -⟩ := sound.shown name tenant found
  obtain ⟨-, rfl, -, memory, pools⟩ := sound.awaiting_drained sought found shows
  obtain ⟨next, present, unfit, -⟩ := Allocator.awaiting_unfit found part sought
  have offered := Allocator.contacts_unfit sought present unfit
  have answered := Allocator.alloc_unfit found part sought
  -- Without an interlude nothing happens between the request and the answer.
  have silent : world.allocator.interludes.find? tenant.source = none →
      world.allocator.meanwhile after tenant.source = ([], after) := by
    intro alone
    have announced := world.allocator.seek_interludes name
    rw [sought] at announced
    unfold Allocator.meanwhile Allocator.runInterlude
    rw [announced, alone]
  generalize world.allocator.meanwhile after tenant.source = during at *
  have kept := during.2.giveBlock_same tenant.source block
  cases gave : during.2.giveBlock tenant.source block with
  | mk outcome last =>
    rw [gave] at answered kept
    have left : (world.allocator.alloc name).2.memory = during.2.memory ∧
        (world.allocator.alloc name).2.pools = during.2.pools := by
      rw [answered]
      cases outcome <;> exact kept
    refine ⟨offered, ?_, ?_, left, fun alone => ?_⟩
    · rw [answered, gave]
      cases outcome <;> rfl
    · rw [answered, gave]
      cases outcome <;> exact ⟨rfl, rfl, rfl⟩
    · rwa [silent alone, memory, pools] at left

end Sound

/-- Every pool is provided for after every honest run. -/
theorem provided_of_reachable (reachable : world.Reachable)
    (found : world.allocator.pools.find? name = some tenant)
    (bounded : tenant.pool.blockSize < wordLimit) : world.Provided name tenant := by
  have sound := Sound.of_reachable reachable
  have measured := Measured.of_reachable reachable
  have rested := Rested.of_reachable reachable
  obtain ⟨view, shows, books⟩ := sound.shown name tenant found
  refine ⟨fun unready => (rested name tenant found unready).made, ?asserted, ?aligned, ?opens,
    ?fits, ?granted, ?published⟩
  case asserted =>
    refine init?_eq ((measured name tenant found).whole_elements bounded) (fun unready => ?_) _ _
    rw [shows.resident, shows.idle unready]
    rfl
  case aligned =>
    constructor
    · intro count setup honest made resident known
      have granted : world.granted (.setUp name count) = some resident.region := by
        simp only [World.granted, pool?, found, Option.map_some, made, Option.mem_def.1 known]
      exact Slab.formatAligned?_eq (honest.1 _ granted).1.2.1
    · intro window member _
      exact Slab.formatAligned?_eq (sound.laid.placed _ (Sound.mem_regions_of_window member)).2.1
  case opens =>
    rintro count setup acts made ⟨here, later⟩ holds
    -- The pool is set up here, so it is one that was never served from.
    have dormant := rested name tenant found (init_cases made).1
    obtain ⟨moved, opening, nobody⟩ := dormant.opening sound found made
    have after := sound.perform here
    have weighed := measured.perform sound here
    obtain ⟨next, present, opened, kept, same, live⟩ :=
      opening.run after weighed later moved holds
    rw [nobody, Nat.zero_add] at live
    have last := after.run later
    have sized := weighed.run after later
    constructor
    · intro early
      rw [← live] at early
      rw [← kept]
      exact opened.served last sized present early
    · intro whole spent
      have sizes := ((same_init made).trans same).blockSize
      rw [← sizes] at whole bounded
      have carves := (sized name _ present).carves opened.ready whole bounded
      exact opened.asked last sized present carves (live.trans spent)
  case fits =>
    intro ready whole
    exact ((measured name tenant found).carves ready whole bounded).adopt?
  case granted =>
    intro source block after sought
    obtain ⟨-, -, -, memory, pools⟩ := sound.awaiting_drained sought found shows
    refine ⟨memory, pools, fun whole => ?_, fun part => sound.declined found sought part⟩
    exact sound.carved (measured name tenant found) found sought whole bounded
  case published =>
    intro window member mine
    subst mine
    constructor
    · intro whole
      refine sound.window_lists measured member found ?_ whole
      cases ready : tenant.pool.ready with
      | true => rfl
      | false => exact absurd rfl ((rested _ tenant found ready).quiet window member)
    · intro part
      have unfit := adopt?_part part world.allocator.memory window.region.start
      obtain ⟨fault, last, published, memory, pools⟩ := Sound.publish_none found unfit
      refine ⟨?_, ?_, ?_⟩ <;> simp only [World.perform, published, memory, pools]

/-- **A pool that could be set up can always carve.** The tests of a set-up refuse just the sizes
of which no block can be made a slab, and the resident slab has just the slots that were asked
for. So a pool serves its first requests from there, and after that every block it is granted
becomes a slab, unless blocks are not whole words: then every block goes back unused. -/
theorem carving_provided :
    (∀ blockSize requested config memory system count, blockSize < wordLimit →
      requested < wordLimit → Vetted blockSize requested config memory system count) ∧
    ∀ (world : World σ) name tenant, world.Reachable →
      world.allocator.pools.find? name = some tenant → tenant.pool.blockSize < wordLimit →
      world.Provided name tenant := by
  constructor
  · intro blockSize requested config memory system count bounded word
    exact vetted bounded word
  · intro world name tenant reachable found bounded
    exact provided_of_reachable reachable found bounded

/-- Blocks that are a byte short of a page. One element comes from the resident slab, and the
block for the next one goes back. -/
theorem carving_provided_short_blocks : ∃ tenant,
    let world := workshop.run
      [.create "short" "shelf" 4095 2000 .standard, .setUp "short" 1, .request "short"]
    world.allocator.pools.find? "short" = some tenant ∧ tenant.pool.blockSize = 4095 ∧
      world.live = [("short", 17592186044480)] ∧
      (world.allocator.watched "short").2 = [.asks "shelf", .offers "shelf" 65536] ∧
      world.Provided "short" tenant ∧
      Vetted 4095 2000 .standard workshop.allocator.memory workshop.allocator.system 1 := by
  have facts : (World.start workshop.allocator).HonestRun
        [.create "short" "shelf" 4095 2000 .standard, .setUp "short" 1, .request "short"] ∧
      let world := workshop.run
        [.create "short" "shelf" 4095 2000 .standard, .setUp "short" 1, .request "short"]
      world.live = [("short", 17592186044480)] ∧
        (world.allocator.watched "short").2 =
          [.asks "shelf", .offers "shelf" 65536] ∧
        (world.allocator.pools.find? "short").map (fun tenant => tenant.pool.blockSize) =
          some 4095 := by
    decide +kernel
  obtain ⟨honest, live, contacts, known⟩ := facts
  obtain ⟨tenant, found, size⟩ := Option.map_eq_some_iff.1 known
  obtain ⟨vets, provides⟩ := @carving_provided Shelf _
  refine ⟨tenant, found, size, live, contacts, provides _ _ _ ⟨_, _, honest, rfl⟩ found ?_,
    vets _ _ _ _ _ _ (by decide) (by decide)⟩
  rw [size]
  decide

end World

end SlabAllocator
