import SlabAllocator.Proofs.BlockPool.Keeping

/-! A block pool at work: blocks are asked for and given back in any order, on a system that
may refuse any request. Blocks out are listed by where they came from, as the record of the
system tells; the pool itself goes by a range test when a block comes back. -/
namespace SlabAllocator

/-- A block pool with the blocks it has handed out. -/
structure Depot where
  pool : BlockPool
  system : System
  /-- Blocks out that the system was not asked for. -/
  cached : List Nat
  /-- Blocks out that the system has granted. -/
  lent : List Nat
  /-- Requests that were answered with a block. -/
  served : Nat

namespace Depot

/-- What can happen to a block pool. -/
inductive Act
  /-- A block is asked for. -/
  | take
  /-- An address is given back. -/
  | give (address : Nat)
  /-- The system serves others, or changes its policy. -/
  | outside (system : System)

/-- A block pool that has handed out nothing. -/
def opening (pool : BlockPool) (system : System) : Depot :=
  ⟨pool, system, [], [], 0⟩

/-- Carries out an act. A block is one of the system if the record of grants has grown. -/
def perform (depot : Depot) : Act → Depot
  | .take =>
    match depot.pool.alloc depot.system with
    | .error _ => depot
    | .ok taken =>
      if taken.system.granted = depot.system.granted then
        ⟨taken.source, taken.system, taken.block :: depot.cached, depot.lent, depot.served + 1⟩
      else
        ⟨taken.source, taken.system, depot.cached, taken.block :: depot.lent, depot.served + 1⟩
  | .give address =>
    match depot.pool.release depot.system address with
    | .error _ => depot
    | .ok (pool, system) =>
      ⟨pool, system, depot.cached.erase address, depot.lent.erase address, depot.served⟩
  | .outside system => { depot with system := system }

/-- Carries out acts one after the other. -/
def run (depot : Depot) : List Act → Depot
  | [] => depot
  | act :: rest => (depot.perform act).run rest

/-- The regions of the system that are in use: that of the cache and the blocks it has lent. -/
def regions (depot : Depot) : List Region :=
  depot.pool.region.toList ++ depot.lent.map depot.pool.range

/-- A block that begins at a page and overlaps nothing in use. -/
def Fresh (depot : Depot) (block : Nat) : Prop :=
  block % pageSize = 0 ∧ ∀ held ∈ depot.regions, (depot.pool.range block).Apart held

/-- The block that the system would grant for the next request. -/
def granted (depot : Depot) : Option Nat :=
  match depot.pool.alloc depot.system with
  | .error _ => none
  | .ok taken => if taken.system.granted = depot.system.granted then none else some taken.block

/-- The system grants fresh blocks only, and what is given back is out, or is an address
in the cache region off its boundaries. -/
def Honest (depot : Depot) : Act → Prop
  | .take => ∀ block ∈ depot.granted, depot.Fresh block
  | .give address => address ∈ depot.cached ++ depot.lent ∨
      depot.pool.contains address = true ∧ depot.pool.isBoundary address = false
  | .outside _ => True

/-- Every one of these acts is honest. -/
def HonestRun (depot : Depot) : List Act → Prop
  | [] => True
  | act :: rest => depot.Honest act ∧ (depot.perform act).HonestRun rest

instance (depot : Depot) (block : Nat) : Decidable (depot.Fresh block) :=
  inferInstanceAs (Decidable (_ ∧ _))

instance (depot : Depot) (act : Act) : Decidable (depot.Honest act) :=
  match act with
  | .take => inferInstanceAs (Decidable (∀ block ∈ depot.granted, depot.Fresh block))
  | .give address => inferInstanceAs (Decidable (address ∈ depot.cached ++ depot.lent ∨
      depot.pool.contains address = true ∧ depot.pool.isBoundary address = false))
  | .outside _ => inferInstanceAs (Decidable True)

instance decideHonestRun : ∀ (depot : Depot) (acts : List Act), Decidable (depot.HonestRun acts)
  | _, [] => inferInstanceAs (Decidable True)
  | depot, act :: rest =>
    have := decideHonestRun (depot.perform act) rest
    inferInstanceAs (Decidable (_ ∧ _))

/-- What holds of a pool of so many cache blocks whatever is taken and given. -/
structure Ordered (count : Nat) (depot : Depot) : Prop where
  keeps : depot.pool.Keeps depot.cached depot.lent
  ready : depot.pool.ready = true
  count : depot.pool.cacheBlocks = count
  apart : depot.regions.Pairwise Region.Apart
  paged : ∀ region ∈ depot.pool.region, region.start % pageSize = 0
  loans : ∀ block ∈ depot.lent, block % pageSize = 0
  answered : depot.pool.cacheHits + depot.pool.fallbackAllocs = depot.served

variable {depot : Depot} {count : Nat}

/-! ## One act -/

/-- A request fails and nothing changes, or it is answered from the cache, or by the system
when nothing is left of the cache. -/
theorem take_cases (depot : Depot) :
    (depot.perform .take = depot) ∨
    (∃ block rest, depot.pool.free = block :: rest ∧
      depot.perform .take =
        ⟨{ depot.pool with free := rest, cacheHits := depot.pool.cacheHits + 1 }, depot.system,
          block :: depot.cached, depot.lent, depot.served + 1⟩) ∨
    ∃ block system, depot.pool.free = [] ∧ depot.granted = some block ∧
      depot.pool.blockLayout = .ok ⟨depot.pool.blockSize, pageSize⟩ ∧
      system.granted = depot.pool.range block :: depot.system.granted ∧
      depot.perform .take =
        ⟨{ depot.pool with fallbackAllocs := depot.pool.fallbackAllocs + 1 }, system,
          depot.cached, block :: depot.lent, depot.served + 1⟩ := by
  unfold perform granted
  simp only
  cases took : depot.pool.alloc depot.system with
  | error fault => exact .inl rfl
  | ok taken =>
    simp only
    obtain ⟨-, ⟨rest, free, source, system⟩ | ⟨free, shaped, source, system⟩⟩ :=
      BlockPool.alloc_cases took
    · rw [source, system, if_pos rfl]
      exact .inr (.inl ⟨_, rest, free, rfl⟩)
    -- The depot tells a loan from a cache block by what the system has granted since.
    · have grown : taken.system.granted =
          depot.pool.range taken.block :: depot.system.granted := by rw [system]
      have new : ¬ taken.system.granted = depot.system.granted := by
        rw [grown]
        exact List.cons_ne_self _ _
      rw [source, if_neg new, if_neg new]
      exact .inr (.inr ⟨_, taken.system, free, rfl, shaped, grown, rfl⟩)

/-- A rejected address changes nothing. -/
theorem give_rejected {address : Nat} (inside : depot.pool.contains address = true)
    (off : depot.pool.isBoundary address = false) :
    depot.pool.release depot.system address = .error (.foreignPointer address) ∧
      depot.perform (.give address) = depot := by
  have refused : depot.pool.release depot.system address = .error (.foreignPointer address) := by
    unfold BlockPool.release
    rw [if_pos inside, if_neg (Bool.eq_false_iff.1 off)]
  refine ⟨refused, ?_⟩
  unfold perform
  simp only [refused]

namespace Ordered

/-- A block comes back to where it came from. -/
theorem give_cases (ordered : depot.Ordered count) {address : Nat}
    (out : address ∈ depot.cached ++ depot.lent) :
    ∃ pool system, depot.pool.release depot.system address = .ok (pool, system) ∧
      (address ∈ depot.cached ∧ pool = { depot.pool with free := address :: depot.pool.free } ∧
          depot.perform (.give address) =
            ⟨pool, depot.system, depot.cached.erase address, depot.lent, depot.served⟩ ∨
        address ∈ depot.lent ∧
          pool = { depot.pool with fallbackFrees := depot.pool.fallbackFrees + 1 } ∧
          depot.perform (.give address) =
            ⟨pool, depot.system.release (depot.pool.range address), depot.cached,
              depot.lent.erase address, depot.served⟩) := by
  -- The range test keeps the two lists apart, so only one of them gets shorter.
  rcases List.mem_append.1 out with mine | loan
  · have inside := (ordered.keeps.contains_of_cached (List.mem_append_right _ mine)).1
    have own : address ∉ depot.lent := fun member => by
      rw [ordered.keeps.apart address member] at inside
      cases inside
    have taken := (ordered.keeps.give_cached depot.system mine).1
    refine ⟨_, _, taken, .inl ⟨mine, rfl, ?_⟩⟩
    unfold perform
    simp only [taken]
    rw [List.erase_of_not_mem own]
  · have foreign : address ∉ depot.cached := fun member => by
      have inside := (ordered.keeps.contains_of_cached (List.mem_append_right _ member)).1
      rw [ordered.keeps.apart address loan] at inside
      cases inside
    have taken := (ordered.keeps.give_lent depot.system loan).1
    refine ⟨_, _, taken, .inr ⟨loan, rfl, ?_⟩⟩
    unfold perform
    simp only [taken]
    rw [List.erase_of_not_mem foreign]

/-- Whoever the system serves, the pool is in order. -/
theorem outside (ordered : depot.Ordered count) (system : System) :
    { depot with system := system }.Ordered count :=
  { ordered with }

theorem take (ordered : depot.Ordered count) (honest : depot.Honest .take) :
    (depot.perform .take).Ordered count := by
  rcases depot.take_cases with same | ⟨block, rest, free, performed⟩ |
    ⟨block, system, -, granted, shaped, -, performed⟩
  · rwa [same]
  · rw [performed]
    refine { ordered with keeps := ordered.keeps.take_cached free _, answered := ?_ }
    exact (Nat.succ_add _ _).trans (congrArg Nat.succ ordered.answered)
  · obtain ⟨page, fresh⟩ := honest block granted
    rw [performed]
    -- What is fresh is apart from the cache region, so it will not pass for a cache block.
    have outer := BlockPool.not_contains_of_apart (ordered.keeps.blockSize_pos ordered.ready)
      fun region set => fresh region (List.mem_append_left _ (Option.mem_toList.2 set))
    refine { ordered with
      keeps := ordered.keeps.take_lent ordered.ready shaped outer
      apart := ?_, loans := ?_, answered := ?_ }
    · have grown : (depot.pool.range block :: depot.regions).Pairwise Region.Apart :=
        List.pairwise_cons.2 ⟨fresh, ordered.apart⟩
      exact Region.apart_of_perm List.perm_middle.symm grown
    · intro other member
      rcases List.mem_cons.1 member with rfl | old
      · exact page
      · exact ordered.loans other old
    · exact (Nat.add_succ _ _).trans (congrArg Nat.succ ordered.answered)

theorem give (ordered : depot.Ordered count) {address : Nat}
    (honest : depot.Honest (.give address)) : (depot.perform (.give address)).Ordered count := by
  rcases honest with out | ⟨inside, off⟩
  · obtain ⟨pool, system, -, ⟨mine, rfl, performed⟩ | ⟨loan, rfl, performed⟩⟩ :=
      ordered.give_cases out
    · rw [performed]
      exact { ordered with keeps := (ordered.keeps.give_cached system mine).2 }
    · rw [performed]
      refine { ordered with
        keeps := (ordered.keeps.give_lent system loan).2
        apart := ordered.apart.sublist ?_
        loans := fun other old => ordered.loans other (List.mem_of_mem_erase old) }
      exact (List.Sublist.refl _).append (List.erase_sublist.map _)
  · rwa [(give_rejected inside off).2]

/-- Every honest act leaves the pool in order. -/
theorem perform (ordered : depot.Ordered count) {act : Act} (honest : depot.Honest act) :
    (depot.perform act).Ordered count := by
  cases act with
  | take => exact ordered.take honest
  | give address => exact ordered.give honest
  | outside system => exact ordered.outside system

theorem run (ordered : depot.Ordered count) {acts : List Act} (honest : depot.HonestRun acts) :
    (depot.run acts).Ordered count := by
  induction acts generalizing depot with
  | nil => exact ordered
  | cons act rest ih =>
    obtain ⟨here, later⟩ := honest
    exact ih (ordered.perform here) later

end Ordered

/-- An act answers one request at most. -/
theorem served_perform (depot : Depot) (act : Act) :
    (depot.perform act).served ≤ depot.served + 1 := by
  unfold perform
  split
  · split
    · exact Nat.le_succ _
    · split <;> exact Nat.le_refl _
  · split <;> exact Nat.le_succ _
  · exact Nat.le_succ _

theorem served_run (depot : Depot) (acts : List Act) :
    (depot.run acts).served ≤ depot.served + acts.length := by
  induction acts generalizing depot with
  | nil => exact Nat.le_refl _
  | cons act rest ih =>
    have behind := ih (depot.perform act)
    have here := depot.served_perform act
    simp only [run, List.length_cons]
    omega

/-- An act keeps the size of the blocks. -/
theorem blockSize_perform (depot : Depot) (act : Act) :
    (depot.perform act).pool.blockSize = depot.pool.blockSize := by
  cases act with
  | take =>
    rcases depot.take_cases with same | ⟨_, _, _, performed⟩ | ⟨_, _, _, _, _, _, performed⟩
    · rw [same]
    · rw [performed]
    · rw [performed]
  | give address =>
    unfold perform
    simp only
    cases gave : depot.pool.release depot.system address with
    | error fault => rfl
    | ok result =>
      obtain ⟨pool, system⟩ := result
      exact (BlockPool.release_same gave).2
  | outside system => rfl

theorem blockSize_run (depot : Depot) (acts : List Act) :
    (depot.run acts).pool.blockSize = depot.pool.blockSize := by
  induction acts generalizing depot with
  | nil => rfl
  | cons act rest ih => exact (ih (depot.perform act)).trans (depot.blockSize_perform act)

/-! ## A run -/

/-- What is known of a block pool that was set up with `count` blocks, so many acts ago. -/
structure Kept (blockSize count acts : Nat) (depot : Depot) : Prop where
  /-- Blocks out begin at pages. -/
  aligned : ∀ block ∈ depot.cached ++ depot.lent, block % pageSize = 0
  /-- Blocks out do not overlap. -/
  apart : ((depot.cached ++ depot.lent).map fun block => (⟨block, blockSize⟩ : Region)).Pairwise
    Region.Apart
  /-- A block is free once, and not while it is out. -/
  once : (depot.pool.free ++ depot.cached).Nodup
  /-- Free blocks and blocks out of the cache are the blocks of the cache region. -/
  exact : ∀ block, block ∈ depot.pool.free ++ depot.cached ↔
    ∃ region ∈ depot.pool.region, ∃ position < count, block = region.start + position * blockSize
  /-- The range test tells where a block came from. -/
  told : ∀ block ∈ depot.cached ++ depot.lent,
    depot.pool.contains block = true ↔ block ∈ depot.cached
  /-- The system is asked when no block is free, and not before. -/
  asked : (depot.perform .take).system.granted ≠ depot.system.granted → depot.pool.free = []
  /-- A block that is out can come back. -/
  returned : ∀ block ∈ depot.cached ++ depot.lent, ∃ pool system,
    depot.pool.release depot.system block = .ok (pool, system)
  /-- An address in the cache region off its boundaries is rejected and nothing changes. -/
  rejected : ∀ address, depot.pool.contains address = true →
    depot.pool.isBoundary address = false →
      depot.pool.release depot.system address = .error (.foreignPointer address) ∧
        depot.perform (.give address) = depot
  inUse : depot.pool.stats.freeBlocks ≤ depot.pool.stats.cacheBlocks ∧
    depot.pool.stats.cacheInUse = depot.cached.length
  outstanding : depot.pool.stats.fallbackFrees ≤ depot.pool.stats.fallbackAllocs ∧
    depot.pool.stats.fallbackOutstanding = depot.lent.length
  answered : depot.pool.stats.cacheHits + depot.pool.stats.fallbackAllocs = depot.served
  few : depot.served ≤ acts

namespace Ordered

theorem kept {acts : Nat} (ordered : depot.Ordered count) (few : depot.served ≤ acts) :
    depot.Kept depot.pool.blockSize count acts := by
  have keeps := ordered.keeps
  have ranges := keeps.ranges_apart ordered.apart
  have aligned := keeps.aligned ordered.paged ordered.loans
  refine ⟨fun block member => aligned block (List.mem_append_right _ member), ?_,
    keeps.once ordered.ready, fun block => ?_, fun block member => ⟨fun inside => ?_, fun mine =>
      (keeps.contains_of_cached (List.mem_append_right _ mine)).1⟩, fun grown => ?_,
    fun block member => ?_, fun address => give_rejected, ?_, ?_, ordered.answered, few⟩
  · rw [List.map_append] at ranges
    exact (List.pairwise_append.1 ranges).2.1
  · rw [keeps.split.mem_iff, BlockPool.mem_cache, ordered.count]
  · rcases List.mem_append.1 member with mine | loan
    · exact mine
    · rw [keeps.apart block loan] at inside
      cases inside
  -- Of the three ways to take, only the one with nothing free asks the system.
  · rcases depot.take_cases with same | ⟨_, _, _, performed⟩ | ⟨_, _, drained, _⟩
    · rw [same] at grown
      exact absurd rfl grown
    · rw [performed] at grown
      exact absurd rfl grown
    · exact drained
  · obtain ⟨pool, system, gave, -⟩ := ordered.give_cases member
    exact ⟨pool, system, gave⟩
  · have size := keeps.size
    unfold BlockPool.stats BlockPool.Stats.cacheInUse
    simp only
    omega
  · have counted := keeps.counted
    unfold BlockPool.stats BlockPool.Stats.fallbackOutstanding
    simp only
    omega

/-- A pool that was just set up is in order. -/
theorem opening {blockSize : Nat} {pool : BlockPool} {system after : System}
    (made : (BlockPool.new blockSize).init system count = .ok (pool, after))
    (aligned : ∀ region ∈ pool.region, region.start % pageSize = 0) :
    (Depot.opening pool after).Ordered count := by
  obtain ⟨keeps, -, ready, counted, hits, allocs⟩ := (BlockPool.Keeps.new blockSize).init made
  refine ⟨keeps, ready, counted, ?_, aligned, (fun block member => by cases member), ?_⟩
  · show (pool.region.toList ++ []).Pairwise Region.Apart
    rw [List.append_nil]
    cases pool.region with
    | none => exact .nil
    | some region => exact List.pairwise_singleton _ _
  · show pool.cacheHits + pool.fallbackAllocs = 0
    rw [hits, allocs]

end Ordered

/-- **Every block is in one place.** Whatever a pool was set up with, and whatever is taken
from it and given back after that, a block out overlaps no other, the free blocks and the
blocks out of the cache are the blocks of its region, each once, and the counters agree. -/
theorem blocks_kept {blockSize count : Nat} {system after : System} {pool : BlockPool}
    {acts : List Act} (made : (BlockPool.new blockSize).init system count = .ok (pool, after))
    (aligned : ∀ region ∈ pool.region, region.start % pageSize = 0)
    (honest : (opening pool after).HonestRun acts) :
    ((opening pool after).run acts).Kept blockSize count acts.length := by
  have ordered := (Ordered.opening made aligned).run honest
  have few := (opening pool after).served_run acts
  rw [show (opening pool after).served = 0 from rfl, Nat.zero_add] at few
  have kept := ordered.kept few
  have size := (opening pool after).blockSize_run acts
  rw [show (opening pool after).pool.blockSize = blockSize from
    ((BlockPool.Keeps.new blockSize).init made).2.1] at size
  rwa [size] at kept

/-- A system with room for five pages. -/
def fivePages : System :=
  .start (.budgeted 20480)

/-- A pool with two cache blocks in the first region such a system grants. -/
def twoBlocks : BlockPool :=
  (BlockPool.new 4096).withCache 2 (some ⟨Region.spacing, 8192⟩)

/-- The system once it has granted that region. -/
def threePages : System :=
  { fivePages with granted := [⟨Region.spacing, 8192⟩], held := [⟨Region.spacing, 8192⟩] }

/-- The cache is drained and two blocks come from the system. Blocks of both kinds come back,
and so does an address between two boundaries. Later the system refuses everything. -/
def rota : List Act :=
  [.take, .take, .take, .give (Region.spacing + 8), .give (Region.spacing + 4096),
    .take, .take, .give (2 * Region.spacing + 8192), .outside (.start fun _ _ _ => none), .take,
    .give Region.spacing, .take]

theorem blocks_kept_rota :
    (BlockPool.new 4096).init fivePages 2 = .ok (twoBlocks, threePages) ∧
      (opening twoBlocks threePages).HonestRun rota ∧
      ((opening twoBlocks threePages).run rota).served = 6 ∧
      ((opening twoBlocks threePages).run rota).lent.length = 1 ∧
      ((opening twoBlocks threePages).run rota).Kept 4096 2 rota.length := by
  have made : (BlockPool.new 4096).init fivePages 2 = .ok (twoBlocks, threePages) := rfl
  have honest : (opening twoBlocks threePages).HonestRun rota := by decide +kernel
  exact ⟨made, honest, by decide +kernel, by decide +kernel,
    blocks_kept made (by decide +kernel) honest⟩

end Depot

end SlabAllocator
