import Mathlib.Algebra.BigOperators.Group.List.Basic
import Mathlib.Order.Bounds.Basic
import SlabAllocator.Proofs.Allocator.Footing
import SlabAllocator.Proofs.Allocator.Measures
import SlabAllocator.Proofs.Allocator.Turnover
import SlabAllocator.Proofs.ElementPool.Population

/-! The gauges of a pool tell the truth. The live counter is what the books, the headers in
memory and the history of the pool say, usage and slab bytes follow from it, and the peak is
the highest usage there was. None of the sums outgrows a word, because the slabs of a pool
share one address space and every element was asked for. -/
namespace SlabAllocator

open ElementPool

/-- The headers of the resident slab and of all indexed slabs count the live elements. -/
theorem ElementPool.Shows.sum_allocated {pool : ElementPool} {memory : Memory} {view : View}
    (shows : pool.Shows memory view) :
    (((pool.resident.map Resident.base).toList ++ pool.blocks).map fun base =>
      (Slab.Header.load memory base).allocated).sum = view.population := by
  have listed : ((pool.resident.map Resident.base).toList ++ pool.blocks).Perm
      (view.pieces.map Piece.base) := shows.bases_perm
  rw [(listed.map _).sum_eq, List.map_map]
  refine congrArg List.sum (List.map_congr_left fun piece member => ?_)
  show (Slab.Header.load memory piece.base).allocated = piece.count
  rw [(shows.sound.held piece member).load]
  rfl

namespace World

variable {σ : Type}

/-- Bytes in live elements of a pool, as its gauge shows them. -/
def usage (world : World σ) (name : String) : Nat :=
  ((world.pool? name).map ElementPool.allocatedBytes).getD 0

theorem usage_found {world : World σ} {name : String} {tenant : Tenant}
    (found : world.allocator.pools.find? name = some tenant) :
    world.usage name = tenant.pool.allocatedBytes := by
  unfold usage pool?
  rw [found]
  rfl

section books

variable {world : World σ} {name : String} {tenant : Tenant} {view : View}

/-- The slabs of a pool share one address space. -/
theorem Sound.bytes_lt (sound : world.Sound)
    (found : world.allocator.pools.find? name = some tenant)
    (shows : tenant.pool.Shows world.allocator.memory view) : view.bytes < wordLimit := by
  have below : ∀ region ∈ view.regions, region.finish ≤ wordLimit - 1 := by
    intro region member
    rw [← shows.regions_perm.mem_iff] at member
    have placed := sound.laid.placed region (mem_regions_of_slab (slab_of_pool found member))
    exact Nat.le_sub_one_of_lt placed.2.2
  exact Nat.lt_of_le_sub_one (Nat.two_pow_pos 64) (Region.sum_size_le shows.sound.apart below)

/-- The books of a pool list the live addresses of its slabs. -/
theorem Sound.population_eq {pool : ElementPool} (sound : world.Sound)
    (shows : pool.Shows world.allocator.memory view)
    (books : ∀ address, (name, address) ∈ world.live ↔ view.Live address) :
    world.population name = view.population := by
  have once : ((world.live.filter fun element => element.1 = name).map Prod.snd).Nodup := by
    refine (sound.once.filter _).map_on fun first inFirst second inSecond same => ?_
    have mine := of_decide_eq_true (List.mem_filter.1 inFirst).2
    have its := of_decide_eq_true (List.mem_filter.1 inSecond).2
    exact Prod.ext (mine.trans its.symm) same
  have length := shows.sound.length_eq_population once fun address => by
    rw [← books, List.mem_map]
    constructor
    · rintro ⟨⟨owner, start⟩, member, rfl⟩
      obtain ⟨live, mine⟩ := List.mem_filter.1 member
      rwa [← of_decide_eq_true mine]
    · exact fun live => ⟨_, List.mem_filter.2 ⟨live, decide_eq_true rfl⟩, rfl⟩
  rw [← length, List.length_map]
  exact List.countP_eq_length_filter

/-- The books have nothing of a pool that is not there. -/
theorem Sound.blank (sound : world.Sound) (absent : name ∉ world.allocator.pools.names) :
    world.population name = 0 ∧ world.awaits name = 0 := by
  refine ⟨List.countP_eq_zero.2 fun element member mine => absent ?_,
    List.countP_eq_zero.2 fun window member mine => absent ?_⟩
  · rw [← of_decide_eq_true mine]
    exact sound.owned element member
  · obtain ⟨tenant, found, -⟩ := sound.awaited window member
    rw [← of_decide_eq_true mine]
    exact Table.mem_names found

/-- Live elements and headers fit in the bytes of slabs, and those fit in a word. -/
theorem Sound.allocatedBytes_fits (sound : world.Sound) (measured : world.Measured)
    (counted : tenant.pool.live = world.population name)
    (found : world.allocator.pools.find? name = some tenant) :
    tenant.pool.allocatedBytes +
        Slab.headerBytes * (tenant.pool.resident.toList.length + tenant.pool.slabCount) ≤
      tenant.pool.allocatedBlockBytes ∧ tenant.pool.live ≤ tenant.pool.allocatedBlockBytes ∧
      tenant.pool.allocatedBlockBytes < wordLimit := by
  obtain ⟨view, shows, books⟩ := sound.shown name tenant found
  have size := (measured name tenant found).allocatedBlockBytes_eq
  have bytes : view.bytes = tenant.pool.allocatedBlockBytes := shows.bytes_eq.trans size.symm
  have live : tenant.pool.live = view.population := counted.trans (sound.population_eq shows books)
  rw [← shows.length_pieces, ← bytes]
  unfold allocatedBytes
  rw [live, shows.elementSize]
  exact ⟨shows.sound.population_fits, shows.sound.population_le_bytes, sound.bytes_lt found shows⟩

end books

variable [BlockSource σ] {world born : World σ} {act : Act σ} {acts life : List (Act σ)}
  {name source : String} {tenant : Tenant} {pool : ElementPool}

/-- What the gauge of a pool has shown since the pool was made, just before `born`. -/
def usages (born : World σ) (life : List (Act σ)) (name : String) : Set Nat :=
  {bytes | ∃ before, before <+: life ∧ bytes = (born.run before).usage name}

/-- The counters of a pool are its history. -/
structure Told (born : World σ) (life : List (Act σ)) (name : String) (pool : ElementPool) :
    Prop where
  live : pool.live = (born.run life).population name
  totalAllocs : pool.config.trackStats = true →
    pool.totalAllocs = countOf name (born.along handouts life)
  totalFrees : pool.config.trackStats = true →
    pool.totalFrees = countOf name (born.along returns life)
  peakUsage : pool.config.trackStats = true → IsGreatest (born.usages life name) pool.peakUsage

/-- What the gauges of a pool show that was made just before `born`. -/
structure Truthful (born : World σ) (life : List (Act σ)) (name : String) (pool : ElementPool) :
    Prop where
  told : born.Told life name pool
  headers : pool.live = (((pool.resident.map Resident.base).toList ++ pool.blocks).map fun base =>
    (Slab.Header.load (born.run life).allocator.memory base).allocated).sum
  allocatedBytes : pool.allocatedBytes = (born.run life).population name * pool.elementSize
  allocatedBlockBytes : pool.allocatedBlockBytes =
    (pool.resident.map Resident.size).getD 0 + pool.slabCount * pool.blockSize
  fits : pool.allocatedBytes + Slab.headerBytes * (pool.resident.toList.length + pool.slabCount) ≤
    pool.allocatedBlockBytes
  /-- What was handed out and not released is live. -/
  difference : pool.config.trackStats = true → pool.totalAllocs = pool.totalFrees + pool.live
  stats : pool.config.trackStats = true → ∃ stats,
    pool.stats? (born.run life).allocator.memory = some stats ∧
    stats.totalAllocs = pool.totalAllocs ∧ stats.totalDeallocs = pool.totalFrees ∧
    stats.peakUsage = pool.peakUsage ∧ stats.currentUsage = pool.allocatedBytes ∧
    stats.slabBytes = pool.allocatedBlockBytes ∧ stats.liveElements = pool.live
  /-- Nothing that the gauges add up or multiply outgrows a word. -/
  words : pool.live < wordLimit ∧ pool.allocatedBytes < wordLimit ∧ pool.carvedBytes < wordLimit ∧
    pool.allocatedBlockBytes < wordLimit
  totalsWords : pool.config.trackStats = true →
    pool.totalAllocs < wordLimit ∧ pool.totalFrees < wordLimit ∧ pool.peakUsage < wordLimit
  /-- Nothing is missing that is subtracted when an element comes back. -/
  backed : ∀ address freed, (born.run life).Obeys (.release name address) →
    pool.free (born.run life).allocator.memory address = .ok freed →
    1 ≤ pool.live ∧ ∀ base ∈ freed.retired, pool.blockSize ≤ pool.carvedBytes

/-! ## The life of a pool -/

theorem run_concat (world : World σ) (acts : List (Act σ)) (act : Act σ) :
    world.run (acts ++ [act]) = (world.run acts).perform act :=
  run_append world acts [act]

theorem usages_nil (born : World σ) (name : String) :
    born.usages [] name = {born.usage name} := by
  ext bytes
  simp only [usages, List.prefix_nil, Set.mem_ofPred_eq, Set.mem_singleton_iff, exists_eq_left]
  rfl

/-- The gauge shows one value more after one act more. -/
theorem usages_concat (born : World σ) (life : List (Act σ)) (act : Act σ) (name : String) :
    born.usages (life ++ [act]) name =
      insert ((born.run (life ++ [act])).usage name) (born.usages life name) := by
  ext bytes
  simp only [usages, List.prefix_concat_iff, Set.mem_ofPred_eq, Set.mem_insert_iff, or_and_right,
    exists_or, exists_eq_left]

/-- The counters show one act more. -/
theorem Told.concat (told : born.Told life name tenant.pool) (sound : (born.run life).Sound)
    (honest : (born.run life).Honest act)
    (found : (born.run life).allocator.pools.find? name = some tenant)
    (lasting : act ≠ .drop name) : ∃ next,
      (born.run (life ++ [act])).allocator.pools.find? name = some { tenant with pool := next } ∧
        tenant.pool.Same next ∧ born.Told (life ++ [act]) name next := by
  obtain ⟨next, moved, treats⟩ := sound.lasts honest found lasting
  have same := treats.same
  have turn := treats.turn
  have books := population_step sound honest lasting
  rw [← told.live] at books
  rw [← run_concat] at moved books
  refine ⟨next, moved, same, turn.live books, fun tracked => ?_, fun tracked => ?_, fun tracked => ?_⟩
  · rw [same.config] at tracked
    rw [(turn.totals tracked).1, told.totalAllocs tracked, along_concat, countOf_append]
  · rw [same.config] at tracked
    rw [(turn.totals tracked).2, told.totalFrees tracked, along_concat, countOf_append]
  · rw [same.config] at tracked
    have greatest := told.peakUsage tracked
    have covered : tenant.pool.live * tenant.pool.elementSize ≤ tenant.pool.peakUsage :=
      greatest.2 ⟨life, List.prefix_rfl, (usage_found found).symm⟩
    rw [usages_concat, turn.peakUsage tracked covered, ← same.elementSize]
    rw [usage_found moved]
    exact greatest.insert _

/-- A pool that was just made and has not ended is there, and its counters are its history. -/
theorem Sound.told {blockSize elementSize : Nat} {config : Config} (sound : born.Sound)
    (honest : born.HonestRun life) (lasting : .drop name ∉ life)
    (fresh : born.allocator.pools.find? name =
      some ⟨.new blockSize elementSize config, source⟩)
    (blank : born.population name = 0) : ∃ pool,
      (born.run life).allocator.pools.find? name = some ⟨pool, source⟩ ∧
        born.Told life name pool := by
  induction life using List.reverseRecOn with
  | nil =>
    refine ⟨_, fresh, blank.symm, fun _ => rfl, fun _ => rfl, fun _ => ?_⟩
    have nothing : born.usage name = 0 := (usage_found fresh).trans (Nat.zero_mul _)
    rw [usages_nil, nothing]
    exact isGreatest_singleton
  | append_singleton life act ih =>
    obtain ⟨earlier, now, -⟩ := honestRun_append honest
    rw [List.mem_append, List.mem_singleton, not_or] at lasting
    obtain ⟨pool, found, told⟩ := ih earlier lasting.1
    obtain ⟨next, moved, -, told⟩ :=
      told.concat (sound.run earlier) now found fun ends => lasting.2 ends.symm
    exact ⟨next, moved, told⟩

/-- No more elements are handed out than were asked for. -/
theorem handouts_le_asks (honest : world.HonestRun acts) (name : String) :
    countOf name (world.along handouts acts) + (world.run acts).awaits name ≤
      world.awaits name + acts.countP Act.asks := by
  induction acts generalizing world with
  | nil => exact Nat.le_of_eq (Nat.zero_add _)
  | cons act rest ih =>
    obtain ⟨here, later⟩ := honest
    have step := awaits_step here.2 name
    have run := ih later
    rw [along, countOf_append, List.countP_cons]
    show _ + ((world.perform act).run rest).awaits name ≤ _
    omega

/-! ## What the gauges show -/

/-- Every element that comes back was counted, and so was the slab that goes with it. -/
theorem Sound.backed {address : Nat} {freed : Freed} (sound : world.Sound)
    (measured : world.Measured) (counted : tenant.pool.live = world.population name)
    (found : world.allocator.pools.find? name = some tenant)
    (obeys : world.Obeys (.release name address))
    (taken : tenant.pool.free world.allocator.memory address = .ok freed) :
    1 ≤ tenant.pool.live ∧ ∀ base ∈ freed.retired, tenant.pool.blockSize ≤ tenant.pool.carvedBytes := by
  obtain ⟨-, -, live, -⟩ := sound.release_taken obeys found taken
  refine ⟨?_, fun base gone => ?_⟩
  · rw [counted]
    exact List.countP_pos_iff.2 ⟨_, live, decide_eq_true rfl⟩
  · obtain ⟨view, shows, -⟩ := sound.shown name tenant found
    obtain ⟨piece, fresh, arranged, returned, -⟩ := returned_of_taken obeys found shows taken
    rw [gone] at returned
    have carved := List.length_pos_of_mem returned.departure.1
    rw [(measured name tenant found).carved, shows.slabCount_eq]
    exact Nat.le_mul_of_pos_right _ carved

/-- A live counter that is right makes all gauges right. -/
theorem Told.truthful (told : born.Told life name tenant.pool) (sound : (born.run life).Sound)
    (measured : (born.run life).Measured)
    (found : (born.run life).allocator.pools.find? name = some tenant)
    (few : countOf name (born.along handouts life) < wordLimit)
    (bounded : ∀ bytes ∈ born.usages life name, bytes < wordLimit)
    (difference : countOf name (born.along handouts life) =
      countOf name (born.along returns life) + (born.run life).population name) :
    born.Truthful life name tenant.pool := by
  obtain ⟨view, shows, books⟩ := sound.shown name tenant found
  have live : tenant.pool.live = view.population :=
    told.live.trans (sound.population_eq shows books)
  obtain ⟨fits, most, small⟩ := sound.allocatedBytes_fits measured told.live found
  have total (tracked : tenant.pool.config.trackStats = true) :
      tenant.pool.totalAllocs = tenant.pool.totalFrees + tenant.pool.live := by
    rw [told.totalAllocs tracked, told.totalFrees tracked, told.live]
    exact difference
  refine ⟨told, live.trans shows.sum_allocated.symm, ?_,
    (measured name tenant found).allocatedBlockBytes_eq, fits, total, fun tracked => ?_, ?_,
    fun tracked => ?_, fun address freed => sound.backed measured told.live found⟩
  · unfold allocatedBytes
    rw [told.live]
  · refine ⟨_, if_pos tracked, rfl, rfl, rfl, rfl, rfl, ?_⟩
    show (if tenant.pool.elementSize = 0 then 0 else
      tenant.pool.live * tenant.pool.elementSize / tenant.pool.elementSize) = tenant.pool.live
    split
    · next none =>
      rw [live]
      apply Classical.byContradiction
      intro some
      have positive := shows.sound.elementSize_pos (Ne.symm some)
      rw [← shows.elementSize] at positive
      omega
    · next some => exact Nat.mul_div_cancel _ (Nat.pos_of_ne_zero some)
  · have carved : tenant.pool.carvedBytes ≤ tenant.pool.allocatedBlockBytes := Nat.le_add_left _ _
    omega
  · have allocs := told.totalAllocs tracked
    have sum := total tracked
    exact ⟨by omega, by omega, bounded _ (told.peakUsage tracked).1⟩

/-! ## The run -/

theorem difference_run (sound : world.Sound) (honest : world.HonestRun acts)
    (lasting : .drop name ∉ acts) :
    (world.run acts).population name + countOf name (world.along returns acts) =
      world.population name + countOf name (world.along handouts acts) := by
  induction acts generalizing world with
  | nil => rfl
  | cons act rest ih =>
    obtain ⟨here, later⟩ := honest
    rw [List.mem_cons, not_or] at lasting
    have step := population_step sound here (Ne.symm lasting.1)
    have run := ih (sound.perform here) later lasting.2
    rw [along, along, countOf_append, countOf_append]
    show ((world.perform act).run rest).population name + _ = _
    omega

/-- Pools come by being made. -/
theorem Sound.create_of_come (sound : world.Sound) (honest : world.Honest act)
    (absent : world.allocator.pools.find? name = none)
    (present : (world.perform act).allocator.pools.find? name = some tenant) :
    ∃ source blockSize elementSize config,
      act = .create name source blockSize elementSize config := by
  have stays : (world.perform act).allocator.pools.find? name ≠ none := by
    rw [present]
    exact Option.some_ne_none _
  obtain ⟨-, obeys⟩ := honest
  cases act with
  | create other source blockSize elementSize config =>
    by_cases same : name = other
    · subst same
      exact ⟨_, _, _, _, rfl⟩
    · exact absurd ((Table.find?_insert_of_ne _ _ same).trans absent) stays
  | setUp other count =>
    rcases setUp_cases world other count with idles | ⟨owner, setup, its, -, pools, -⟩
    · rw [idles.pools] at stays
      exact absurd absent stays
    · rw [pools, Table.find?_insert_of_ne] at stays
      · exact absurd absent stays
      · rintro rfl
        rw [absent] at its
        cases its
  | request other => exact absurd ((sound.request_worksOn other).absent absent) stays
  | publish window => exact absurd ((sound.publish_worksOn obeys).absent absent) stays
  | release other address =>
    exact absurd ((release_worksOn world other address).absent absent) stays
  | write => exact absurd absent stays
  | take source =>
    rw [allocator_take, (world.allocator.takeBlock_same source).2] at stays
    exact absurd absent stays
  | give loan =>
    rw [allocator_give, (world.allocator.giveBlock_same loan.source loan.region.start).2] at stays
    exact absurd absent stays
  | drop other =>
    have present : (world.allocator.dropPool other).pools.find? name = some tenant := present
    rw [world.allocator.dropPool_pools other] at present
    obtain ⟨-, found⟩ := Table.find?_erase_cases present
    rw [absent] at found
    cases found
  | outside => exact absurd absent stays

/-- A pool that is there was made by an act of the run and has not ended since. -/
theorem exists_birth {allocator : Allocator σ} (honest : (World.start allocator).HonestRun acts)
    (found : ((World.start allocator).run acts).allocator.pools.find? name = some tenant) :
    ∃ earlier source blockSize elementSize config life,
      acts = earlier ++ .create name source blockSize elementSize config :: life ∧
        .drop name ∉ life := by
  induction acts using List.reverseRecOn generalizing tenant with
  | nil => cases found
  | append_singleton acts act ih =>
    obtain ⟨before, now, -⟩ := honestRun_append honest
    rw [run_concat] at found
    cases was : ((World.start allocator).run acts).allocator.pools.find? name with
    | none =>
      obtain ⟨source, blockSize, elementSize, config, rfl⟩ :=
        ((Sound.start allocator).run before).create_of_come now was found
      exact ⟨acts, source, blockSize, elementSize, config, [], rfl, List.not_mem_nil⟩
    | some owner =>
      obtain ⟨earlier, source, blockSize, elementSize, config, life, rfl, lasting⟩ := ih before was
      refine ⟨earlier, source, blockSize, elementSize, config, life ++ [act], ?_, ?_⟩
      · rw [List.append_assoc, List.cons_append]
      · rw [List.mem_append, List.mem_singleton, not_or]
        refine ⟨lasting, ?_⟩
        rintro rfl
        have found : (Allocator.dropPool _ name).pools.find? name = some tenant := found
        rw [Allocator.dropPool_pools _ name, Table.find?_erase_self] at found
        cases found

/-- The gauges of a pool from its making on. -/
theorem Sound.truthful {blockSize elementSize : Nat} {config : Config} (sound : world.Sound)
    (measured : world.Measured)
    (made : world.Honest (.create name source blockSize elementSize config))
    (honest : (world.perform (.create name source blockSize elementSize config)).HonestRun life)
    (lasting : .drop name ∉ life) (few : life.countP Act.asks < wordLimit)
    (found : ((world.perform (.create name source blockSize elementSize config)).run
      life).allocator.pools.find? name = some tenant) :
    (world.perform (.create name source blockSize elementSize config)).Truthful life name
      tenant.pool := by
  obtain ⟨blank, still⟩ := sound.blank made.2
  have birth := sound.perform made
  have weighed := measured.perform sound made
  have fresh : (world.perform (.create name source blockSize elementSize
      config)).allocator.pools.find? name = some ⟨.new blockSize elementSize config, source⟩ :=
    Table.find?_insert_self _ _ _
  have blank : (world.perform (.create name source blockSize elementSize config)).population
      name = 0 := blank
  have still : (world.perform (.create name source blockSize elementSize config)).awaits
      name = 0 := still
  generalize world.perform (.create name source blockSize elementSize config) = born at *
  obtain ⟨pool, there, told⟩ := birth.told honest lasting fresh blank
  obtain rfl : tenant = ⟨pool, source⟩ := Option.some.inj (found.symm.trans there)
  have asked := handouts_le_asks honest name
  have difference := difference_run birth honest lasting
  refine told.truthful (birth.run honest) (weighed.run birth honest) found (by omega) ?_ (by omega)
  -- What the gauge showed at an earlier moment is bounded by the slabs of that moment.
  rintro bytes ⟨before, ⟨after, rfl⟩, rfl⟩
  obtain ⟨early, -⟩ := honestRun_append honest
  obtain ⟨was, known, told⟩ :=
    birth.told early (fun member => lasting (List.mem_append_left _ member)) fresh blank
  rw [usage_found known]
  have fits := (birth.run early).allocatedBytes_fits (weighed.run birth early) told.live known
  omega

/-- The gauges of every pool show the truth after every honest run in which fewer elements
are asked for than a word can count, in the middle of requests as well. -/
theorem gauges_truthful {allocator : Allocator σ}
    (honest : (World.start allocator).HonestRun acts) (few : acts.countP Act.asks < wordLimit)
    (found : ((World.start allocator).run acts).allocator.pools.find? name = some tenant) :
    ∃ earlier source blockSize elementSize config life,
      acts = earlier ++ .create name source blockSize elementSize config :: life ∧
      .drop name ∉ life ∧
      (((World.start allocator).run earlier).perform
        (.create name source blockSize elementSize config)).Truthful life name tenant.pool := by
  obtain ⟨earlier, source, blockSize, elementSize, config, life, rfl, lasting⟩ :=
    exists_birth honest found
  refine ⟨earlier, source, blockSize, elementSize, config, life, rfl, lasting, ?_⟩
  obtain ⟨before, made, later⟩ := honestRun_append honest
  rw [run_append] at found
  rw [List.countP_append, List.countP_cons] at few
  exact ((Sound.start allocator).run before).truthful
    ((Measured.start allocator).run (.start allocator) before) made later lasting (by omega) found

theorem gauges_truthful_workday : ∃ tenant,
    (workshop.run workday).allocator.pools.find? "wide" = some tenant ∧
      tenant.pool.totalAllocs = 4 ∧ tenant.pool.totalFrees = 1 ∧ tenant.pool.live = 3 ∧
      tenant.pool.peakUsage = 8000 ∧
      ∃ earlier source blockSize elementSize config life,
        workday = earlier ++ .create "wide" source blockSize elementSize config :: life ∧
        .drop "wide" ∉ life ∧
        ((workshop.run earlier).perform
          (.create "wide" source blockSize elementSize config)).Truthful life "wide"
            tenant.pool := by
  have same : workshop = World.start workshop.allocator := rfl
  have honest : workshop.HonestRun workday := by decide +kernel
  have shown : ((workshop.run workday).allocator.pools.find? "wide").map
      (fun tenant => tenant.pool.tally) = some ⟨3, 4, 1, 8000⟩ := by decide +kernel
  rw [same] at honest shown ⊢
  obtain ⟨tenant, found, tally⟩ := Option.map_eq_some_iff.1 shown
  refine ⟨tenant, found, congrArg Tally.totalAllocs tally, congrArg Tally.totalFrees tally,
    congrArg Tally.live tally, congrArg Tally.peakUsage tally, ?_⟩
  exact gauges_truthful honest (by decide) found

end World

end SlabAllocator
