import SlabAllocator.Proofs.Allocator.Serving

/-! Requests to one pool while its block is on the way. The pool had no room when the block
was asked for, so the requests in between carve blocks of their own; the block that was on
its way becomes a slab all the same. -/
namespace SlabAllocator

open ElementPool

namespace World

variable {σ : Type} [BlockSource σ] {world : World σ} {name : String} {tenant : Tenant}
  {view : View} {block count : Nat} {blocks rest : List Nat}

/-- What becomes of a request in whose window `count` others are served. The block on its way
begins at `outer`. `raced` is the pool then, `during` the pool right before the block is
carved, and `calm` the pool after as many requests one after the other. -/
structure Raced (world : World σ) (name : String) (tenant : Tenant) (count outer : Nat)
    (nested : List Nat) (last : Nat) (during raced calm : ElementPool) : Prop where
  answered : ((world.allocator.announcing tenant.source ⟨name, count⟩).alloc name).1 =
    .answered (nested.map fun address => .answered [] (.ok address)) (.ok last)
  served : nested.length = count
  /-- The elements differ from each other and from those that were live. -/
  distinct : (world.live ++ (nested ++ [last]).map fun address => (name, address)).Nodup
  /-- As many requests one after the other are all served, too. -/
  calmly : ∀ reply ∈ (Allocator.repeated (fun allocator => allocator.alloc name) (count + 1)
    (world.allocator.quieted tenant.source)).1, ∃ address, reply.outcome = .ok address
  racedPool : ((world.allocator.announcing tenant.source ⟨name, count⟩).alloc
    name).2.pools.find? name = some { tenant with pool := raced }
  duringPool : (Allocator.repeated (fun allocator => allocator.alloc name) count
    ((world.allocator.quieted tenant.source).takeBlock tenant.source).2).2.pools.find? name =
      some { tenant with pool := during }
  calmPool : (Allocator.repeated (fun allocator => allocator.alloc name) (count + 1)
    (world.allocator.quieted tenant.source)).2.pools.find? name = some { tenant with pool := calm }
  /-- No update of a counter is lost. -/
  tally : raced.tally = calm.tally
  live : raced.live = tenant.pool.live + (count + 1)
  carvedBytes : raced.carvedBytes = tenant.pool.blockSize * raced.slabCount
  home : (⟨outer, tenant.pool.blockSize⟩ : Region).contains last = true
  /-- The late slab is listed before those that were carved in the window. -/
  lists :
    let later := ((world.allocator.announcing tenant.source ⟨name, count⟩).alloc name).2.memory
    let before := (Allocator.repeated (fun allocator => allocator.alloc name) count
      ((world.allocator.quieted tenant.source).takeBlock tenant.source).2).2.memory
    raced.partialSlabs later = (if tenant.pool.slots = 1 then during.partialSlabs before
      else outer :: during.partialSlabs before) ∧
    raced.fullSlabs later = if tenant.pool.slots = 1 then outer :: during.fullSlabs before
      else during.fullSlabs before
  slabs : raced.slabCount = calm.slabCount + if tenant.pool.slots ∣ count then 0 else 1

namespace Stocked

/-- What is announced has no part in what is in store. -/
private theorem announce (stocked : world.Stocked name tenant view blocks)
    (interludes : Table Interlude) :
    { world with allocator := { world.allocator with interludes := interludes } : World σ }.Stocked
      name tenant view blocks where
  sound := stocked.sound.idle rfl rfl
  found := stocked.found
  shows := stocked.shows
  ready := stocked.ready
  measured := stocked.measured
  whole := stocked.whole
  laid := stocked.laid
  grants := (world.allocator.grants_announced interludes _ _).trans stocked.grants

/-- A pool of which nothing but these blocks is needed, in a world an honest run leads to. -/
theorem of_reachable (reachable : world.Reachable)
    (found : world.allocator.pools.find? name = some tenant) (ready : tenant.pool.ready = true)
    (whole : tenant.pool.blockSize % wordBytes = 0)
    (shows : tenant.pool.Shows world.allocator.memory view)
    (fresh : ∀ block ∈ blocks, world.Fresh ⟨block, tenant.pool.blockSize⟩)
    (apart : (blocks.map fun block => (⟨block, tenant.pool.blockSize⟩ : Region)).Pairwise
      Region.Apart)
    (granted : world.allocator.grants tenant.source blocks.length = some blocks) :
    world.Stocked name tenant view blocks := by
  have sound := Sound.of_reachable reachable
  refine ⟨sound, found, shows, ready, Measured.of_reachable reachable name tenant found, whole,
    ⟨fun region member => ?_, ?_⟩, granted⟩
  · rcases List.mem_append.1 member with new | old
    · obtain ⟨block, listed, rfl⟩ := List.mem_map.1 new
      exact (fresh block listed).1
    · exact sound.laid.placed region old
  · refine List.pairwise_append.2 ⟨apart, sound.laid.apart, fun region new held old => ?_⟩
    obtain ⟨block, listed, rfl⟩ := List.mem_map.1 new
    exact (fresh block listed).2 held old

/-- The requests that are served while the first block is on its way. -/
private theorem meanwhile (stocked : world.Stocked name tenant view (block :: rest))
    (quiet : world.allocator.interludes.find? tenant.source = none)
    (nothing : view.attempt = none) (enough : count ⌈/⌉ tenant.pool.slots ≤ rest.length) :
    ∃ (during : World σ) (pool : ElementPool) (arranged : View) (left nested : List Nat),
      (∀ request, Plain request name →
        Allocator.repeated request count (world.allocator.takeBlock tenant.source).2 =
          (nested.map fun address => .answered [] (.ok address), during.allocator)) ∧
      nested.length = count ∧ during.Stocked name { tenant with pool := pool } arranged left ∧
      during.live = world.live ++ nested.map (fun address => (name, address)) ∧
      ⟨name, block, pool.blockSize⟩ ∈ during.windows ∧ tenant.pool.Same pool ∧
      pool.tally = tenant.pool.tally.allocs tenant.pool.config tenant.pool.elementSize count ∧
      pool.slabCount = tenant.pool.slabCount + count ⌈/⌉ tenant.pool.slots := by
  obtain ⟨-, taken, waiting, live, windows⟩ := stocked.drawn nothing
  have silent : (world.perform (.request name)).allocator.interludes.find? tenant.source = none := by
    rw [taken, Allocator.takeBlock_interludes]
    exact quiet
  obtain ⟨during, pool, arranged, left, nested, answered, length, still, gained, slabs⟩ :=
    waiting.rounds_from_full silent nothing enough
  rw [taken] at answered
  refine ⟨during, pool, arranged, left, nested, answered, length, still, ?_, ?_, gained.same, ?_,
    slabs⟩
  · rw [gained.live, live]
  · rw [gained.windows, windows, gained.same.blockSize]
    exact List.mem_cons_self
  · rw [gained.tally, length]

/-- A request whose interlude is answered like this. -/
private theorem answer_raced {outer : Nat} {replies : List Reply} {during last : Allocator σ}
    {outcome : Except Fault Nat} (stocked : world.Stocked name tenant view (outer :: rest))
    (nothing : view.attempt = none)
    (served : ∀ request, Plain request name → Allocator.repeated request count
      ((world.allocator.quieted tenant.source).takeBlock tenant.source).2 = (replies, during))
    (published : during.publish name outer = (outcome, last)) :
    (world.allocator.announcing tenant.source ⟨name, count⟩).alloc name =
      (.answered replies outcome, last) := by
  obtain ⟨depth, size⟩ := world.allocator.interludes.size_insert tenant.source ⟨name, count⟩
  obtain ⟨sought, taken, -⟩ := (stocked.announce _).drawn nothing
  unfold Allocator.alloc
  rw [show (world.allocator.announcing tenant.source ⟨name, count⟩).interludes.size = depth + 1
    from size]
  refine Allocator.allocAt_raced ⟨name, count⟩ sought ?_ ?_ published
  · rw [taken, Allocator.takeBlock_interludes]
    exact Table.find?_insert_self _ _ _
  · rw [taken]
    have quieted := world.allocator.takeBlock_quieted tenant.source ⟨name, count⟩
    unfold Allocator.announcing at quieted
    rw [quieted]
    exact served _ fun _ => ⟨depth, rfl⟩

/-- The race, for a pool with blocks in store. -/
theorem race {outer : Nat} (stocked : world.Stocked name tenant view (outer :: rest))
    (nothing : view.attempt = none) (enough : count ⌈/⌉ tenant.pool.slots ≤ rest.length) :
    ∃ nested last during raced calm, world.Raced name tenant count outer nested last during raced
      calm := by
  have further := View.ceilDiv_succ (stocked.measured.slots_pos stocked.ready) count
  have quieted : (world.quieted tenant.source).Stocked name tenant view (outer :: rest) :=
    stocked.announce _
  have silent := Table.find?_erase_self world.allocator.interludes tenant.source
  -- One after the other.
  have calmEnough : (count + 1) ⌈/⌉ tenant.pool.slots ≤ (outer :: rest).length := by
    rw [further, List.length_cons]
    split <;> omega
  obtain ⟨calmly, calm, calmView, spare, plain, calmAnswered, calmLength, calmStocked, calmGained,
    calmSlabs⟩ := quieted.rounds_from_full silent nothing calmEnough
  have calmAnswered : Allocator.repeated (fun allocator => allocator.alloc name) (count + 1)
      (world.allocator.quieted tenant.source) =
        (plain.map fun address => .answered [] (.ok address), calmly.allocator) :=
    calmAnswered _ fun _ => ⟨_, rfl⟩
  -- In the window of the first.
  obtain ⟨during, middle, arranged, left, nested, answered, length, still, live, member, same,
    tally, slabs⟩ := quieted.meanwhile silent nothing enough
  obtain ⟨raced, last, finish, after, usable, placed, published, performed, -, settled, counted⟩ :=
    still.carved member
  rw [performed] at settled
  have whole := stocked.answer_raced nothing answered published
  have answered : Allocator.repeated (fun allocator => allocator.alloc name) count
      ((world.allocator.quieted tenant.source).takeBlock tenant.source).2 =
        (nested.map fun address => .answered [] (.ok address), during.allocator) :=
    answered _ fun _ => ⟨_, rfl⟩
  obtain ⟨home, roomy, full, more⟩ := still.shows.adopt_first usable placed settled.shows
  simp only [same.slots, same.blockSize] at home roomy full
  refine ⟨nested, last, middle, raced, calm, ?_⟩
  exact
    { answered := by rw [whole]
      served := length
      distinct := by
        have once := settled.sound.once
        rw [live] at once
        rw [List.map_append, ← List.append_assoc]
        exact once
      calmly := by
        rw [calmAnswered]
        intro reply member
        obtain ⟨address, -, rfl⟩ := List.mem_map.1 member
        exact ⟨address, rfl⟩
      racedPool := by
        rw [whole]
        exact settled.found
      duringPool := by
        rw [answered]
        exact still.found
      calmPool := by
        rw [calmAnswered]
        exact calmStocked.found
      tally := by
        rw [counted.tally, calmGained.tally, calmLength, tally, Tally.allocs_add, same.config,
          same.elementSize]
        rfl
      live := by
        have grown := congrArg Tally.live counted.tally
        rw [tally, Tally.live_alloc, Tally.live_allocs] at grown
        exact grown
      carvedBytes := by
        rw [← same.blockSize, ← counted.same.blockSize]
        exact settled.measured.carved
      home := home
      lists := by
        rw [whole, answered]
        exact ⟨roomy, full⟩
      slabs := by
        rw [more, slabs, calmSlabs, further]
        split <;> omega }

end Stocked

/-- **The race for a block is benign.** A pool that is full gets a block and, before it is
carved, serves `count` other requests. Everybody is served, nothing is miscounted, and the
late slab is listed first. At most one slab more is carved than one after the other. -/
theorem carve_race_benign {outer : Nat} (reachable : world.Reachable)
    (found : world.allocator.pools.find? name = some tenant) (ready : tenant.pool.ready = true)
    (busy : ∀ resident ∈ tenant.pool.resident,
      (Slab.Header.load world.allocator.memory resident.base).isFull = true)
    (row : tenant.pool.partialSlabs world.allocator.memory = [])
    (whole : tenant.pool.blockSize % wordBytes = 0)
    (granted : world.allocator.grants tenant.source (1 + count ⌈/⌉ tenant.pool.slots) =
      some (outer :: blocks))
    (fresh : ∀ block ∈ outer :: blocks, world.Fresh ⟨block, tenant.pool.blockSize⟩)
    (apart : ((outer :: blocks).map fun block =>
      (⟨block, tenant.pool.blockSize⟩ : Region)).Pairwise Region.Apart) :
    ∃ nested last during raced calm,
      world.Raced name tenant count outer nested last during raced calm := by
  have length := Allocator.length_of_grants granted
  obtain ⟨view, shows, -⟩ := (Sound.of_reachable reachable).shown name tenant found
  have stocked : world.Stocked name tenant view (outer :: blocks) :=
    .of_reachable reachable found ready whole shows fresh apart (by rw [length, granted])
  rw [List.length_cons, Nat.add_comm 1] at length
  exact stocked.race (shows.attempt_eq_none row busy) (Nat.succ.inj length).ge

/-- A pool with two elements to a block on a shelf of three blocks. -/
def counter : World Shelf :=
  workshop.run [.create "wide" "shelf" 4096 2000 .standard, .setUp "wide" 0]

/-- Three requests use two blocks up while the first block is on its way. -/
theorem carve_race_benign_counter : ∃ tenant,
    counter.allocator.pools.find? "wide" = some tenant ∧ tenant.pool.slots = 2 ∧
      ∃ nested last during raced calm,
        counter.Raced "wide" tenant 3 65536 nested last during raced calm := by
  have reachable : counter.Reachable := ⟨_, _, by decide +kernel, rfl⟩
  have known : (counter.allocator.pools.find? "wide").map (fun tenant =>
      (tenant.source, tenant.pool.ready, tenant.pool.resident.isNone,
        tenant.pool.partialSlabs counter.allocator.memory, tenant.pool.blockSize,
        tenant.pool.elementSize)) =
      some ("shelf", true, true, [], 4096, 2000) := by decide +kernel
  obtain ⟨tenant, found, same⟩ := Option.map_eq_some_iff.1 known
  injection same with source same
  injection same with ready same
  injection same with resident same
  injection same with row same
  injection same with blockSize elementSize
  have slots : tenant.pool.slots = 2 := by
    unfold ElementPool.slots ElementPool.room
    rw [blockSize, elementSize]
    rfl
  have granted : counter.allocator.grants tenant.source (1 + 3 ⌈/⌉ tenant.pool.slots) =
      some [65536, 69632, 73728] := by
    rw [source, slots]
    show counter.allocator.grants "shelf" 3 = _
    decide +kernel
  refine ⟨tenant, found, slots, carve_race_benign reachable found ready ?_ row ?_ granted ?_ ?_⟩
  · rw [Option.isNone_iff_eq_none.1 resident]
    exact fun _ absurd => (by cases absurd)
  · rw [blockSize]
    rfl
  · rw [blockSize]
    decide +kernel
  · rw [blockSize]
    decide +kernel

end World

end SlabAllocator
