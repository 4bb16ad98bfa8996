import Mathlib.Data.List.Nodup
import Mathlib.Data.List.Perm.Basic
import Mathlib.Data.Nat.ModEq
import SlabAllocator.BlockPool
import SlabAllocator.Proofs.Frame

/-! Where the blocks of a block pool are. `Keeps` says that every cache block is either
free or out, and that the counters account for the blocks from the system. An operation is
inverted once, and the invariant is carried over each of its cases. -/
namespace SlabAllocator

section layouts

variable {size align : Nat} {layout : Layout}

/-- A layout has the size that was asked for. -/
theorem Layout.of?_eq (shaped : Layout.of? size align = some layout) : layout = ⟨size, align⟩ := by
  unfold Layout.of? at shaped
  split at shaped
  · exact (Option.some.inj shaped).symm
  · cases shaped

/-- A request that is granted is written down, and nothing else changes. -/
theorem System.request_cases {system after : System} {start : Nat}
    (granted : system.request layout = .ok (start, after)) :
    after = { system with
      granted := ⟨start, layout.size⟩ :: system.granted
      held := ⟨start, layout.size⟩ :: system.held } := by
  unfold System.request at granted
  split at granted
  · cases granted
  · cases granted
    rfl

end layouts

namespace BlockPool

/-- The blocks of the cache, in the order of their addresses. -/
def cache (pool : BlockPool) : List Nat :=
  match pool.region with
  | some region => pool.cacheBlocksFrom region.start pool.cacheBlocks
  | none => []

/-- The range of a block. -/
def range (pool : BlockPool) (block : Nat) : Region :=
  ⟨block, pool.blockSize⟩

/-- A pool whose cache blocks are free or in `cached`, each once, and which has blocks of the
system in `lent`. A pool that is not set up has nothing. -/
structure Keeps (pool : BlockPool) (cached lent : List Nat) : Prop where
  paged : pool.ready = true → 0 < pool.blockSize ∧ pool.blockSize % pageSize = 0
  blank : pool.ready = false → pool = .new pool.blockSize ∧ cached = [] ∧ lent = []
  sized : ∀ region ∈ pool.region, region.size = pool.blockSize * pool.cacheBlocks
  stocked : pool.region = none ↔ pool.cacheBlocks = 0
  split : (pool.free ++ cached).Perm pool.cache
  apart : ∀ block ∈ lent, pool.contains block = false
  counted : pool.fallbackAllocs = pool.fallbackFrees + lent.length
  shaped : lent ≠ [] → pool.blockLayout = .ok ⟨pool.blockSize, pageSize⟩

variable {pool next : BlockPool} {cached lent : List Nat} {system after : System} {block : Nat}

/-! ## What operations do -/

theorem blockLayout_eq {layout : Layout} (shaped : pool.blockLayout = .ok layout) :
    layout = ⟨pool.blockSize, pageSize⟩ := by
  unfold blockLayout at shaped
  split at shaped
  · next found =>
    cases shaped
    exact Layout.of?_eq found
  · cases shaped

theorem cacheLayout_size {count : Nat} {layout : Layout}
    (shaped : pool.cacheLayout count = .ok layout) : layout.size = pool.blockSize * count := by
  unfold cacheLayout at shaped
  simp only at shaped
  split at shaped
  · cases shaped
  · split at shaped
    · next found =>
      cases shaped
      rw [Layout.of?_eq found]
    · cases shaped

/-- A pool that is set up keeps no region for an empty cache; otherwise the system grants one. -/
theorem init_cases {count : Nat} (made : pool.init system count = .ok (next, after)) :
    pool.ready = false ∧ pageSize ≤ pool.blockSize ∧ pool.blockSize % pageSize = 0 ∧
      (count = 0 ∧ next = pool.withCache 0 none ∧ after = system ∨
        count ≠ 0 ∧ ∃ start, next =
            pool.withCache count (some ⟨start, pool.blockSize * count⟩) ∧
          after = { system with
            granted := ⟨start, pool.blockSize * count⟩ :: system.granted
            held := ⟨start, pool.blockSize * count⟩ :: system.held }) := by
  unfold init at made
  split at made
  · cases made
  · next valid =>
    rw [not_or, Nat.not_lt, not_not] at valid
    split at made
    · cases made
    · next unready =>
      refine ⟨Bool.eq_false_iff.2 unready, valid.1, valid.2, ?_⟩
      split at made
      · next empty =>
        cases made
        subst empty
        exact .inl ⟨rfl, rfl, rfl⟩
      · next some =>
        refine .inr ⟨some, ?_⟩
        cases shaped : pool.cacheLayout count with
        | error fault =>
          rw [shaped] at made
          cases made
        | ok layout =>
          rw [shaped] at made
          cases granted : system.request layout with
          | error fault =>
            simp only [bind, Except.bind, granted] at made
            cases made
          | ok result =>
            obtain ⟨start, changed⟩ := result
            simp only [bind, Except.bind, granted] at made
            cases made
            rw [System.request_cases granted, cacheLayout_size shaped]
            exact ⟨start, rfl, rfl⟩

/-- A block is the next one of the cache, or the system grants it because the cache is empty. -/
theorem alloc_cases {taken : Taken BlockPool} (took : pool.alloc system = .ok taken) :
    pool.ready = true ∧
      ((∃ rest, pool.free = taken.block :: rest ∧
          taken.source = { pool with free := rest, cacheHits := pool.cacheHits + 1 } ∧
          taken.system = system) ∨
        pool.free = [] ∧ pool.blockLayout = .ok ⟨pool.blockSize, pageSize⟩ ∧
          taken.source = { pool with fallbackAllocs := pool.fallbackAllocs + 1 } ∧
          taken.system = { system with
            granted := pool.range taken.block :: system.granted
            held := pool.range taken.block :: system.held }) := by
  unfold alloc at took
  split at took
  · cases took
  · next ready =>
    refine ⟨not_not.1 ready, ?_⟩
    split at took
    · next stocked =>
      cases took
      exact .inl ⟨_, stocked, rfl, rfl⟩
    · next drained =>
      refine .inr ⟨drained, ?_⟩
      cases shaped : pool.blockLayout with
      | error fault =>
        rw [shaped] at took
        cases took
      | ok layout =>
        obtain rfl := blockLayout_eq shaped
        rw [shaped] at took
        cases granted : system.request ⟨pool.blockSize, pageSize⟩ with
        | error fault =>
          simp only [bind, Except.bind, granted] at took
          cases took
        | ok result =>
          obtain ⟨start, changed⟩ := result
          simp only [bind, Except.bind, granted] at took
          cases took
          exact ⟨rfl, rfl, System.request_cases granted⟩

/-- A block in the cache region on a boundary is put back; another one goes to the system. -/
theorem release_cases (gave : pool.release system block = .ok (next, after)) :
    (pool.contains block = true ∧ pool.isBoundary block = true ∧
        next = { pool with free := block :: pool.free } ∧ after = system) ∨
      (pool.contains block = false ∧ next = { pool with fallbackFrees := pool.fallbackFrees + 1 } ∧
        after = system.release (pool.range block)) := by
  unfold release at gave
  split at gave
  · next inside =>
    split at gave
    · next boundary =>
      cases gave
      exact .inl ⟨inside, boundary, rfl, rfl⟩
    · cases gave
  · next outside =>
    refine .inr ⟨Bool.eq_false_iff.2 outside, ?_⟩
    cases shaped : pool.blockLayout with
    | error fault =>
      rw [shaped] at gave
      cases gave
    | ok layout =>
      obtain rfl := blockLayout_eq shaped
      rw [shaped] at gave
      cases gave
      exact ⟨rfl, rfl⟩

/-- Blocks come and go, but the cache region and the size of blocks stay. -/
theorem alloc_same {taken : Taken BlockPool} (took : pool.alloc system = .ok taken) :
    taken.source.region = pool.region ∧ taken.source.blockSize = pool.blockSize := by
  obtain ⟨-, ⟨rest, -, source, -⟩ | ⟨-, -, source, -⟩⟩ := alloc_cases took
  · rw [source]
    exact ⟨rfl, rfl⟩
  · rw [source]
    exact ⟨rfl, rfl⟩

theorem release_same (gave : pool.release system block = .ok (next, after)) :
    next.region = pool.region ∧ next.blockSize = pool.blockSize := by
  obtain ⟨-, -, source, -⟩ | ⟨-, source, -⟩ := release_cases gave
  · rw [source]
    exact ⟨rfl, rfl⟩
  · rw [source]
    exact ⟨rfl, rfl⟩

/-! ## Cache blocks -/

theorem mem_cacheBlocksFrom {start count : Nat} :
    block ∈ pool.cacheBlocksFrom start count ↔
      ∃ position < count, block = start + position * pool.blockSize := by
  unfold cacheBlocksFrom
  rw [List.mem_map]
  refine exists_congr fun position => ?_
  rw [List.mem_range]
  exact and_congr_right fun _ => eq_comm

theorem mem_cache : block ∈ pool.cache ↔ ∃ region ∈ pool.region, ∃ position < pool.cacheBlocks,
    block = region.start + position * pool.blockSize := by
  unfold cache
  cases pool.region with
  | none => simp
  | some region => simp [mem_cacheBlocksFrom]

/-- Blocks in a row lie one behind the other. -/
theorem cacheBlocksFrom_apart (pool : BlockPool) (start count : Nat) :
    ((pool.cacheBlocksFrom start count).map pool.range).Pairwise Region.Apart := by
  unfold cacheBlocksFrom
  rw [List.map_map, List.pairwise_map]
  refine List.pairwise_lt_range.imp fun {first second} before => .inl ?_
  show start + first * pool.blockSize + pool.blockSize ≤ start + second * pool.blockSize
  have step := Nat.mul_le_mul_right pool.blockSize (Nat.succ_le_of_lt before)
  rw [Nat.succ_mul] at step
  omega

theorem cache_apart (pool : BlockPool) : (pool.cache.map pool.range).Pairwise Region.Apart := by
  unfold cache
  cases pool.region with
  | none => exact .nil
  | some region => exact pool.cacheBlocksFrom_apart region.start pool.cacheBlocks

/-- Cache blocks are listed from the lowest address to the highest. -/
theorem cache_sorted (size : 0 < pool.blockSize) :
    pool.cache.Pairwise (· < ·) := by
  unfold cache
  cases pool.region with
  | none => exact .nil
  | some region =>
    refine List.pairwise_map.2 (List.pairwise_lt_range.imp fun {first second} before => ?_)
    exact Nat.add_lt_add_left (Nat.mul_lt_mul_of_pos_right before size) _

/-- Blocks of some size that lie apart are different. -/
theorem nodup_of_apart {blocks : List Nat} (size : 0 < pool.blockSize)
    (apart : (blocks.map pool.range).Pairwise Region.Apart) : blocks.Nodup := by
  refine (List.pairwise_map.1 apart).imp fun {first second} lies => ?_
  rintro rfl
  have same : first + pool.blockSize ≤ first ∨ first + pool.blockSize ≤ first := lies
  omega

namespace Keeps

theorem new (blockSize : Nat) : (BlockPool.new blockSize).Keeps [] [] where
  paged := fun ready => by cases ready
  blank := fun _ => ⟨rfl, rfl, rfl⟩
  sized := fun region member => by cases member
  stocked := iff_of_true rfl rfl
  split := .refl _
  apart := fun block member => by cases member
  counted := rfl
  shaped := fun lent => absurd rfl lent

section

variable (keeps : pool.Keeps cached lent)
include keeps

theorem perm {others loans : List Nat} (cachedSame : cached.Perm others) (lentSame : lent.Perm loans) :
    pool.Keeps others loans where
  paged := keeps.paged
  blank unready := by
    obtain ⟨new, rfl, rfl⟩ := keeps.blank unready
    exact ⟨new, cachedSame.symm.eq_nil, lentSame.symm.eq_nil⟩
  sized := keeps.sized
  stocked := keeps.stocked
  split := (cachedSame.symm.append_left _).trans keeps.split
  apart block member := keeps.apart block (lentSame.mem_iff.2 member)
  counted := keeps.counted.trans (by rw [lentSame.length_eq])
  shaped some := keeps.shaped fun none => some (by
    subst none
    exact lentSame.symm.eq_nil)

/-! ## Where blocks lie -/

/-- Every cache block lies in the cache region, on a boundary. -/
theorem within {region : Region} (set : pool.region = some region) (member : block ∈ pool.cache) :
    (pool.range block).Within region ∧ pool.isBoundary block = true := by
  obtain ⟨own, here, position, below, rfl⟩ := mem_cache.1 member
  obtain rfl : region = own := Option.some.inj (set.symm.trans here)
  refine ⟨⟨Nat.le_add_right _ _, ?_⟩, ?_⟩
  · have size := keeps.sized region set
    have step := Nat.mul_le_mul_right pool.blockSize (Nat.succ_le_of_lt below)
    rw [Nat.succ_mul, Nat.mul_comm pool.cacheBlocks, ← size] at step
    show region.start + position * pool.blockSize + pool.blockSize ≤ region.start + region.size
    omega
  · unfold isBoundary
    rw [set]
    show ((region.start + position * pool.blockSize - region.start) % pool.blockSize == 0) = true
    rw [Nat.add_sub_cancel_left, Nat.mul_mod_left]
    rfl

theorem ready_of_cached (member : block ∈ pool.free ++ cached) : pool.ready = true := by
  by_contra unready
  obtain ⟨new, rfl, -⟩ := keeps.blank (Bool.eq_false_iff.2 unready)
  rw [new] at member
  cases member

theorem ready_of_lent (member : block ∈ lent) : pool.ready = true := by
  by_contra unready
  obtain ⟨-, -, rfl⟩ := keeps.blank (Bool.eq_false_iff.2 unready)
  cases member

theorem blockSize_pos (ready : pool.ready = true) : 0 < pool.blockSize :=
  (keeps.paged ready).1

/-- The range test tells cache blocks from others. -/
theorem contains_of_cached (member : block ∈ pool.free ++ cached) :
    pool.contains block = true ∧ pool.isBoundary block = true := by
  have listed := keeps.split.mem_iff.1 member
  obtain ⟨region, set, -⟩ := mem_cache.1 listed
  obtain ⟨⟨low, high⟩, boundary⟩ := keeps.within set listed
  have size := keeps.blockSize_pos (keeps.ready_of_cached member)
  refine ⟨?_, boundary⟩
  unfold contains
  rw [show pool.region = some region from set]
  refine (region.contains_iff block).2 ⟨low, ?_⟩
  have finish : (pool.range block).finish = block + pool.blockSize := rfl
  omega

/-- All blocks lie apart if the cache region and the blocks of the system do. -/
theorem ranges_apart
    (regions : (pool.region.toList ++ lent.map pool.range).Pairwise Region.Apart) :
    ((pool.free ++ (cached ++ lent)).map pool.range).Pairwise Region.Apart := by
  obtain ⟨-, lentApart, between⟩ := List.pairwise_append.1 regions
  have split : (pool.cache ++ lent).Perm (pool.free ++ (cached ++ lent)) := by
    rw [← List.append_assoc]
    exact keeps.split.symm.append_right lent
  refine Region.apart_of_perm (split.map pool.range) ?_
  rw [List.map_append]
  refine List.pairwise_append.2 ⟨pool.cache_apart, lentApart, fun inner mine outer its => ?_⟩
  -- A cache block lies in the region, so it is apart from whatever the region is apart from.
  obtain ⟨block, member, rfl⟩ := List.mem_map.1 mine
  obtain ⟨region, set, -⟩ := mem_cache.1 member
  have held : region ∈ pool.region.toList := Option.mem_toList.2 set
  exact (between region held outer its).of_within (keeps.within set member).1

/-- All blocks start at a page if the cache region and the blocks of the system do. -/
theorem aligned (region : ∀ region ∈ pool.region, region.start % pageSize = 0)
    (loans : ∀ block ∈ lent, block % pageSize = 0) :
    ∀ block ∈ pool.free ++ (cached ++ lent), block % pageSize = 0 := by
  intro block member
  rw [← List.append_assoc] at member
  rcases List.mem_append.1 member with own | loan
  · obtain ⟨-, multiple⟩ := keeps.paged (keeps.ready_of_cached own)
    obtain ⟨home, set, position, -, rfl⟩ := mem_cache.1 (keeps.split.mem_iff.1 own)
    rw [Nat.add_mod, region home set, Nat.mul_mod, multiple]
    rfl
  · exact loans block loan

/-- No block is in two places, and none is there twice. -/
theorem once (ready : pool.ready = true) : (pool.free ++ cached).Nodup :=
  keeps.split.nodup_iff.2 (nodup_of_apart (keeps.blockSize_pos ready) pool.cache_apart)

/-- Free blocks and blocks out make up the cache. -/
theorem size : pool.free.length + cached.length = pool.cacheBlocks := by
  have whole := keeps.split.length_eq
  rw [List.length_append] at whole
  rw [whole]
  unfold cache
  cases set : pool.region with
  | none => exact (keeps.stocked.1 set).symm
  | some region => simp [cacheBlocksFrom]

/-! ## Operations -/

/-- A pool that is set up has all its blocks. -/
theorem init {count : Nat} (made : pool.init system count = .ok (next, after)) :
    next.Keeps [] [] ∧ next.blockSize = pool.blockSize ∧ next.ready = true ∧
      next.cacheBlocks = count ∧ next.cacheHits = 0 ∧ next.fallbackAllocs = 0 := by
  obtain ⟨unready, large, multiple, outcome⟩ := init_cases made
  obtain ⟨new, -, -⟩ := keeps.blank unready
  have size : 0 < pool.blockSize := Nat.lt_of_lt_of_le (by decide) large
  -- With or without a region, all blocks of the cache are free and none is lent.
  have kept (region : Option Region)
      (sized : ∀ own ∈ region, own.size = pool.blockSize * count)
      (stocked : region = none ↔ count = 0) :
      (pool.withCache count region).Keeps [] [] := by
    refine ⟨fun _ => ⟨size, multiple⟩, (fun broken => by cases broken), sized, stocked, ?_,
      (fun block member => by cases member), ?_, fun lent => absurd rfl lent⟩
    · rw [List.append_nil]
      unfold withCache cache
      cases region <;> exact .refl _
    · rw [new]
      rfl
  rcases outcome with ⟨rfl, rfl, -⟩ | ⟨some, start, rfl, -⟩
  · refine ⟨kept none (fun own set => by cases set) (iff_of_true rfl rfl), rfl, rfl, rfl, ?_, ?_⟩ <;>
      · rw [new]
        rfl
  · refine ⟨kept _ (fun own set => ?_) (iff_of_false (fun set => by cases set) some), rfl, rfl, rfl,
      ?_, ?_⟩
    · cases set
      rfl
    · rw [new]
      rfl
    · rw [new]
      rfl

omit keeps in
/-- A pool at work keeps its size, its region and the number of its cache blocks. -/
theorem moved {others loans : List Nat} (keeps : pool.Keeps cached lent)
    (ready : pool.ready = true ∧ next.ready = true) (size : next.blockSize = pool.blockSize)
    (cache : next.region = pool.region ∧ next.cacheBlocks = pool.cacheBlocks)
    (split : (next.free ++ others).Perm (pool.free ++ cached))
    (apart : ∀ block ∈ loans, pool.contains block = false)
    (counted : next.fallbackAllocs = next.fallbackFrees + loans.length)
    (shaped : loans ≠ [] → pool.blockLayout = .ok ⟨pool.blockSize, pageSize⟩) :
    next.Keeps others loans := by
  obtain ⟨ready, still⟩ := ready
  obtain ⟨region, count⟩ := cache
  refine ⟨fun _ => ?_, fun unready => ?_, ?_, ?_, ?_, fun block member => ?_, counted,
    fun some => ?_⟩
  · rw [size]
    exact keeps.paged ready
  · rw [still] at unready
    cases unready
  · rw [region, size, count]
    exact keeps.sized
  · rw [region, count]
    exact keeps.stocked
  · refine (split.trans keeps.split).trans (.of_eq ?_)
    unfold BlockPool.cache cacheBlocksFrom
    rw [region, size, count]
  · unfold contains
    rw [region]
    exact apart block member
  · have layout := shaped some
    unfold blockLayout at layout ⊢
    rwa [size]

/-- The next block of the cache goes out. -/
theorem take_cached {rest : List Nat} (free : pool.free = block :: rest) (hits : Nat) :
    { pool with free := rest, cacheHits := hits }.Keeps (block :: cached) lent := by
  have next : block ∈ pool.free ++ cached := by
    rw [free]
    exact List.mem_cons_self
  have ready := keeps.ready_of_cached next
  refine keeps.moved ⟨ready, ready⟩ rfl ⟨rfl, rfl⟩ ?_ keeps.apart keeps.counted keeps.shaped
  rw [free]
  exact List.perm_middle

/-- A block of the system goes out. -/
theorem take_lent (ready : pool.ready = true)
    (shaped : pool.blockLayout = .ok ⟨pool.blockSize, pageSize⟩)
    (fresh : pool.contains block = false) :
    { pool with fallbackAllocs := pool.fallbackAllocs + 1 }.Keeps cached (block :: lent) := by
  refine keeps.moved ⟨ready, ready⟩ rfl ⟨rfl, rfl⟩ (.refl _) (fun other member => ?_)
    (congrArg (· + 1) keeps.counted) fun _ => shaped
  rcases List.mem_cons.1 member with rfl | old
  · exact fresh
  · exact keeps.apart other old

/-- A cache block comes back. -/
theorem give_cached (system : System) (member : block ∈ cached) :
    pool.release system block = .ok ({ pool with free := block :: pool.free }, system) ∧
      { pool with free := block :: pool.free }.Keeps (cached.erase block) lent := by
  have listed : block ∈ pool.free ++ cached := List.mem_append_right _ member
  have ready := keeps.ready_of_cached listed
  obtain ⟨inside, boundary⟩ := keeps.contains_of_cached listed
  refine ⟨?_, ?_⟩
  · unfold release
    rw [if_pos inside, if_pos boundary]
  · refine keeps.moved ⟨ready, ready⟩ rfl ⟨rfl, rfl⟩ ?_ keeps.apart keeps.counted keeps.shaped
    have moved := (List.perm_cons_erase member).append_left pool.free
    exact List.perm_middle.symm.trans moved.symm

/-- A block of the system comes back. -/
theorem give_lent (system : System) (member : block ∈ lent) :
    pool.release system block = .ok ({ pool with fallbackFrees := pool.fallbackFrees + 1 },
        system.release (pool.range block)) ∧
      { pool with fallbackFrees := pool.fallbackFrees + 1 }.Keeps cached (lent.erase block) := by
  have some : lent ≠ [] := List.ne_nil_of_mem member
  have ready := keeps.ready_of_lent member
  refine ⟨?_, ?_⟩
  · unfold release
    rw [if_neg (Bool.eq_false_iff.1 (keeps.apart block member)), keeps.shaped some]
    rfl
  · refine keeps.moved ⟨ready, ready⟩ rfl ⟨rfl, rfl⟩ (.refl _)
      (fun other old => keeps.apart other (List.mem_of_mem_erase old)) ?_ fun _ => keeps.shaped some
    have fewer := List.length_erase_of_mem member
    have many := List.length_pos_of_mem member
    have counted := keeps.counted
    simp only
    omega

end

end Keeps

/-! ## Blocks out, wherever they came from -/

/-- The blocks that lie in the cache region. -/
def inside (pool : BlockPool) (blocks : List Nat) : List Nat :=
  blocks.filter pool.contains

/-- The blocks that do not. -/
def outside (pool : BlockPool) (blocks : List Nat) : List Nat :=
  blocks.filter fun block => !pool.contains block

/-- A pool that has handed out these blocks and not taken them back. -/
def Tracks (pool : BlockPool) (blocks : List Nat) : Prop :=
  pool.Keeps (pool.inside blocks) (pool.outside blocks)

theorem contains_congr (region : next.region = pool.region) : next.contains = pool.contains := by
  funext address
  unfold contains
  rw [region]

theorem inside_congr (region : next.region = pool.region) : next.inside = pool.inside := by
  unfold inside
  rw [contains_congr region]

theorem outside_congr (region : next.region = pool.region) : next.outside = pool.outside := by
  unfold outside
  rw [contains_congr region]

theorem inside_outside (pool : BlockPool) (blocks : List Nat) :
    (pool.inside blocks ++ pool.outside blocks).Perm blocks :=
  List.filter_append_perm _ blocks

/-- A block of a pool is one of the cache, or it is out and was granted by the system. -/
theorem mem_cases {blocks : List Nat} (member : block ∈ pool.free ++ blocks) :
    block ∈ pool.free ++ pool.inside blocks ∨ block ∈ pool.outside blocks := by
  rw [← List.mem_append, List.append_assoc]
  exact ((pool.inside_outside blocks).append_left pool.free).mem_iff.2 member

theorem inside_cons_inner (inner : pool.contains block = true) (blocks : List Nat) :
    pool.inside (block :: blocks) = block :: pool.inside blocks :=
  List.filter_cons_of_pos inner

theorem inside_cons_outer (outer : pool.contains block = false) (blocks : List Nat) :
    pool.inside (block :: blocks) = pool.inside blocks :=
  List.filter_cons_of_neg (Bool.eq_false_iff.1 outer)

theorem outside_cons_inner (inner : pool.contains block = true) (blocks : List Nat) :
    pool.outside (block :: blocks) = pool.outside blocks :=
  List.filter_cons_of_neg (by simp [inner])

theorem outside_cons_outer (outer : pool.contains block = false) (blocks : List Nat) :
    pool.outside (block :: blocks) = block :: pool.outside blocks :=
  List.filter_cons_of_pos (by simp [outer])

theorem inside_erase_outer (outer : pool.contains block = false) (blocks : List Nat) :
    pool.inside (blocks.erase block) = pool.inside blocks := by
  unfold inside
  rw [← List.erase_filter]
  exact List.erase_of_not_mem fun member => by simp [outer] at member

theorem outside_erase_inner (inner : pool.contains block = true) (blocks : List Nat) :
    pool.outside (blocks.erase block) = pool.outside blocks := by
  unfold outside
  rw [← List.erase_filter]
  exact List.erase_of_not_mem fun member => by simp [inner] at member

/-- A block apart from the cache region does not pass for one of the cache. -/
theorem not_contains_of_apart (size : 0 < pool.blockSize)
    (apart : ∀ region ∈ pool.region, (pool.range block).Apart region) :
    pool.contains block = false := by
  unfold contains
  cases set : pool.region with
  | none => rfl
  | some region =>
    refine (apart region set).not_contains (((pool.range block).contains_iff block).2 ?_)
    exact ⟨Nat.le_refl _, Nat.lt_add_of_pos_right size⟩

namespace Tracks

variable {blocks others : List Nat}

/-- Where the cache lies does not change, so the old pool tells as well what is inside. -/
theorem of_keeps (pool : BlockPool) (region : next.region = pool.region)
    (kept : next.Keeps (pool.inside blocks) (pool.outside blocks)) : next.Tracks blocks := by
  unfold Tracks
  rwa [inside_congr region, outside_congr region]

theorem perm (tracks : pool.Tracks blocks) (same : blocks.Perm others) : pool.Tracks others :=
  Keeps.perm tracks (same.filter _) (same.filter _)

/-- The next block of the cache passes for one of the cache. -/
theorem contains_next {rest : List Nat} (tracks : pool.Tracks blocks)
    (free : pool.free = block :: rest) : pool.contains block = true := by
  refine (Keeps.contains_of_cached tracks (List.mem_append_left _ ?_)).1
  rw [free]
  exact List.mem_cons_self

/-- A block that is handed out is out. -/
theorem alloc {taken : Taken BlockPool} (tracks : pool.Tracks blocks)
    (took : pool.alloc system = .ok taken)
    (fresh : pool.free = [] → pool.contains taken.block = false) :
    taken.source.Tracks (taken.block :: blocks) := by
  obtain ⟨ready, ⟨rest, free, source, -⟩ | ⟨free, shaped, source, -⟩⟩ := alloc_cases took
  · have inner := tracks.contains_next free
    rw [source]
    refine of_keeps pool rfl ?_
    rw [inside_cons_inner inner, outside_cons_inner inner]
    exact Keeps.take_cached tracks free _
  · have outer := fresh free
    rw [source]
    refine of_keeps pool rfl ?_
    rw [inside_cons_outer outer, outside_cons_outer outer]
    exact Keeps.take_lent tracks ready shaped outer

/-- A block that is out can be given back. -/
theorem release (tracks : pool.Tracks blocks) (out : block ∈ blocks) (system : System) :
    ∃ next after, pool.release system block = .ok (next, after) ∧
      next.Tracks (blocks.erase block) := by
  cases place : pool.contains block with
  | true =>
    obtain ⟨gave, kept⟩ := Keeps.give_cached tracks system (List.mem_filter.2 ⟨out, place⟩)
    refine ⟨_, system, gave, of_keeps pool rfl ?_⟩
    rw [outside_erase_inner place]
    unfold inside at kept ⊢
    rwa [← List.erase_filter]
  | false =>
    obtain ⟨gave, kept⟩ :=
      Keeps.give_lent tracks system (List.mem_filter.2 ⟨out, by simp [place]⟩)
    refine ⟨_, _, gave, of_keeps pool rfl ?_⟩
    rw [inside_erase_outer place]
    unfold outside at kept ⊢
    rwa [← List.erase_filter]

end Tracks

/-! ## A block out and back -/

/-- A pool is as it was but for its counters of requests: the same blocks are free, in the same
order, and as many blocks of the system are out. -/
structure Evened (pool next : BlockPool) : Prop where
  fields : next = { pool with
    cacheHits := next.cacheHits
    fallbackAllocs := next.fallbackAllocs
    fallbackFrees := next.fallbackFrees }
  outstanding : next.fallbackAllocs + pool.fallbackFrees = pool.fallbackAllocs + next.fallbackFrees

theorem Evened.refl (pool : BlockPool) : pool.Evened pool :=
  ⟨rfl, rfl⟩

/-- A block that was just handed out goes back where it came from. -/
theorem Tracks.alloc_release {blocks : List Nat} {taken : Taken BlockPool}
    (tracks : pool.Tracks blocks) (took : pool.alloc system = .ok taken)
    (fresh : pool.free = [] → pool.contains taken.block = false) :
    ∃ next after, taken.source.release taken.system taken.block = .ok (next, after) ∧
      pool.Evened next ∧ after.held = system.held := by
  obtain ⟨next, after, gave, -⟩ :=
    (tracks.alloc took fresh).release List.mem_cons_self taken.system
  refine ⟨next, after, gave, ?_⟩
  obtain ⟨region, size⟩ := alloc_same took
  -- Where the block goes is told by where it came from, since both tests read the same region.
  have place := release_cases gave
  rw [contains_congr region] at place
  obtain ⟨-, ⟨rest, free, source, same⟩ | ⟨drained, -, source, grown⟩⟩ := alloc_cases took
  · have inner := tracks.contains_next free
    obtain ⟨-, -, rfl, rfl⟩ | ⟨outer, -⟩ := place
    · rw [source, same]
      refine ⟨⟨?_, rfl⟩, rfl⟩
      simp only [← free]
    · rw [inner] at outer
      cases outer
  · obtain ⟨inner, -⟩ | ⟨-, rfl, rfl⟩ := place
    · rw [fresh drained] at inner
      cases inner
    · have range : taken.source.range taken.block = pool.range taken.block := by
        unfold range
        rw [size]
      rw [range, source, grown]
      refine ⟨⟨rfl, ?_⟩, List.erase_cons_head _ _⟩
      simp only
      omega

end BlockPool

end SlabAllocator
