import SlabAllocator.Proofs.Allocator.Soundness
import SlabAllocator.Proofs.Allocator.Ledger
import SlabAllocator.Proofs.BlockPool.Keeping
import SlabAllocator.Session

/-! What block pools hold of the system. `Funded` says that the regions in use are those of
the caches, those of the blocks the system has lent, and some others, and that every region
ever granted is in use or came back. All else follows from the regions lying apart: a block
that is handed out overlaps no other block and none of the other regions. -/
namespace SlabAllocator

/-- The regions a source holds of the system when it has handed out these blocks. -/
def holdings (out : List (String × Nat)) (entry : String × Supplier) : List Region :=
  match entry.2 with
  | .ofPool pool =>
    pool.region.toList ++ (pool.outside (blocksAt entry.1 out)).map pool.range
  | .ofShelf _ => []

/-- Block sizes by source. -/
def blockSizes (sources : Table Supplier) : List (String × Nat) :=
  sources.entries.map fun entry => (entry.1, entry.2.blockSize)

/-- The cache region of a source. -/
def cacheOf (entry : String × Supplier) : List (String × Region) :=
  match entry.2 with
  | .ofPool pool => pool.region.toList.map fun region => (entry.1, region)
  | .ofShelf _ => []

/-- Cache regions by source. -/
def cacheRegions (sources : Table Supplier) : List (String × Region) :=
  sources.entries.flatMap cacheOf

/-- The sources are the same, with blocks of the same sizes and caches in the same place. -/
structure SameFooting (first second : Table Supplier) : Prop where
  blockSizes : blockSizes first = blockSizes second
  cacheRegions : cacheRegions first = cacheRegions second

/-- All sources are block pools that have handed out `out`, and all that is in use of the
system are their holdings and `others`. -/
structure Funded (sources : Table Supplier) (system : System) (out : List (String × Nat))
    (others : List Region) : Prop where
  names : sources.names.Nodup
  tracked : ∀ name supplier, sources.find? name = some supplier →
    ∃ pool, supplier = .ofPool pool ∧ pool.Tracks (blocksAt name out)
  known : ∀ entry ∈ out, entry.1 ∈ sources.names
  held : system.held.Perm (sources.entries.flatMap (holdings out) ++ others)
  laid : Region.Laid system.held
  returned : system.granted.Perm (system.held ++ system.released)

section blocksAt

variable {source other : String} {block : Nat} {entries : List (String × Nat)}

theorem mem_blocksAt : block ∈ blocksAt source entries ↔ (source, block) ∈ entries := by
  unfold blocksAt
  rw [List.mem_map]
  constructor
  · rintro ⟨⟨name, found⟩, member, rfl⟩
    obtain ⟨listed, same⟩ := List.mem_filter.1 member
    obtain rfl : name = source := by simpa using same
    exact listed
  · intro member
    exact ⟨(source, block), List.mem_filter.2 ⟨member, by simp⟩, rfl⟩

theorem blocksAt_erase_self (member : (source, block) ∈ entries) :
    (blocksAt source (entries.erase (source, block))).Perm ((blocksAt source entries).erase block) := by
  have moved := blocksAt_perm source (List.perm_cons_erase member)
  rw [blocksAt_cons_self] at moved
  have less := moved.symm.erase block
  rwa [List.erase_cons_head] at less

theorem blocksAt_erase_of_ne (different : other ≠ source) :
    blocksAt other (entries.erase (source, block)) = blocksAt other entries := by
  unfold blocksAt
  rw [← List.erase_filter, List.erase_of_not_mem]
  intro member
  have same := (List.mem_filter.1 member).2
  simp only [decide_eq_true_eq] at same
  exact different same.symm

theorem blocksAt_filter_of_ne (different : other ≠ source) :
    blocksAt other (entries.filter fun entry => entry.1 ≠ source) = blocksAt other entries := by
  unfold blocksAt
  rw [List.filter_filter]
  congr 1
  refine List.filter_congr fun entry _ => ?_
  by_cases same : entry.1 = other
  · simp [same, different]
  · simp [same]

end blocksAt

/-- A block pool that changes keeps the size of its blocks. -/
theorem blockSizes_insert {sources : Table Supplier} {name : String} {pool next : BlockPool}
    (once : sources.names.Nodup) (found : sources.find? name = some (.ofPool pool))
    (size : next.blockSize = pool.blockSize) :
    blockSizes (sources.insert name (.ofPool next)) = blockSizes sources := by
  obtain ⟨front, back, parts, -, inserted⟩ := Table.split once found
  have sizes : (Supplier.ofPool next).blockSize = (Supplier.ofPool pool).blockSize := size
  unfold blockSizes
  rw [parts, inserted, List.map_append, List.map_append, List.map_cons, List.map_cons, sizes]

namespace SameFooting

variable {first second third : Table Supplier}

theorem refl (sources : Table Supplier) : SameFooting sources sources :=
  ⟨rfl, rfl⟩

theorem trans (one : SameFooting first second) (other : SameFooting second third) :
    SameFooting first third :=
  ⟨one.blockSizes.trans other.blockSizes, one.cacheRegions.trans other.cacheRegions⟩

theorem insert {name : String} {pool next : BlockPool} (once : first.names.Nodup)
    (found : first.find? name = some (.ofPool pool)) (region : next.region = pool.region)
    (size : next.blockSize = pool.blockSize) :
    SameFooting (first.insert name (.ofPool next)) first := by
  refine ⟨blockSizes_insert once found size, ?_⟩
  obtain ⟨front, back, parts, -, inserted⟩ := Table.split once found
  have homes : cacheOf (name, .ofPool next) = cacheOf (name, .ofPool pool) := by
    show next.region.toList.map _ = pool.region.toList.map _
    rw [region]
  unfold SlabAllocator.cacheRegions
  rw [parts, inserted, List.flatMap_append, List.flatMap_append, List.flatMap_cons,
    List.flatMap_cons, homes]

end SameFooting

theorem mem_blockSizes {sources : Table Supplier} {name : String} {supplier : Supplier}
    (found : sources.find? name = some supplier) :
    (name, supplier.blockSize) ∈ blockSizes sources :=
  List.mem_map_of_mem (f := fun entry : String × Supplier => (entry.1, entry.2.blockSize))
    (Table.mem_of_find? found)

theorem holdings_congr {next : BlockPool} {name : String} {out : List (String × Nat)}
    (pool : BlockPool) (region : next.region = pool.region) (size : next.blockSize = pool.blockSize) :
    holdings out (name, .ofPool next) =
      pool.region.toList ++ (pool.outside (blocksAt name out)).map pool.range := by
  unfold holdings BlockPool.range
  simp only
  rw [region, size, BlockPool.outside_congr region]

theorem find?_of_blockSizes {sources : Table Supplier} {name : String} {size : Nat}
    (once : sources.names.Nodup) (known : (name, size) ∈ blockSizes sources) :
    ∃ supplier, sources.find? name = some supplier ∧ supplier.blockSize = size := by
  obtain ⟨⟨same, supplier⟩, member, equal⟩ := List.mem_map.1 known
  cases equal
  exact ⟨supplier, Table.find?_of_mem once member, rfl⟩

/-- A region that comes back is among those that came back. -/
theorem System.release_returned {system : System} {region : Region}
    (returned : system.granted.Perm (system.held ++ system.released))
    (member : region ∈ system.held) :
    (system.release region).granted.Perm
      ((system.release region).held ++ (system.release region).released) := by
  refine returned.trans (((List.perm_cons_erase member).append_right _).trans ?_)
  exact List.perm_middle.symm

namespace Funded

variable {sources : Table Supplier} {system after : System} {out changed : List (String × Nat)}
  {others : List Region} {name : String} {pool next : BlockPool} {block : Nat}

section

variable (funded : Funded sources system out others)
include funded

theorem tracks (found : sources.find? name = some (.ofPool pool)) :
    pool.Tracks (blocksAt name out) := by
  obtain ⟨owner, same, tracked⟩ := funded.tracked name _ found
  cases same
  exact tracked

theorem pool_of_known (known : name ∈ sources.names) :
    ∃ pool, sources.find? name = some (.ofPool pool) := by
  cases found : sources.find? name with
  | none => exact absurd known (Table.find?_eq_none_iff.1 found)
  | some supplier =>
    obtain ⟨pool, rfl, -⟩ := funded.tracked name supplier found
    exact ⟨pool, rfl⟩

/-! ## Where blocks lie -/

theorem all_laid : Region.Laid (sources.entries.flatMap (holdings out) ++ others) :=
  funded.laid.perm funded.held.symm

theorem mem_held (found : sources.find? name = some (.ofPool pool)) {region : Region}
    (mine : region ∈ holdings out (name, .ofPool pool)) : region ∈ system.held := by
  refine funded.held.mem_iff.2 (List.mem_append_left _ ?_)
  exact List.mem_flatMap.2 ⟨_, Table.mem_of_find? found, mine⟩

/-- Every block of a pool lies in one of its holdings. -/
theorem within (found : sources.find? name = some (.ofPool pool))
    (member : block ∈ pool.free ++ blocksAt name out) :
    ∃ region ∈ holdings out (name, .ofPool pool), (pool.range block).Within region := by
  have tracks := funded.tracks found
  rcases BlockPool.mem_cases member with cached | lent
  · have known := tracks.split.mem_iff.1 cached
    obtain ⟨region, set, -⟩ := BlockPool.mem_cache.1 known
    refine ⟨region, List.mem_append_left _ (Option.mem_toList.2 set), ?_⟩
    exact (BlockPool.Keeps.within tracks set known).1
  · refine ⟨pool.range block, List.mem_append_right _ (List.mem_map_of_mem lent), ?_⟩
    exact ⟨Nat.le_refl _, Nat.le_refl _⟩

/-- The blocks of one pool lie apart. -/
theorem siblings (found : sources.find? name = some (.ofPool pool)) :
    ((pool.free ++ blocksAt name out).map pool.range).Pairwise Region.Apart := by
  have listed := Table.mem_of_find? found
  have mine : (holdings out (name, .ofPool pool)).Pairwise Region.Apart :=
    (List.pairwise_flatMap.1 (List.pairwise_append.1 funded.all_laid.apart).1).1 _ listed
  have ranges := BlockPool.Keeps.ranges_apart (funded.tracks found) mine
  exact Region.apart_of_perm (((pool.inside_outside _).append_left _).map _) ranges

/-- Blocks of different pools lie apart. -/
theorem strangers {other : String} {owner : BlockPool} {foreign : Nat}
    (found : sources.find? name = some (.ofPool pool))
    (member : block ∈ pool.free ++ blocksAt name out)
    (also : sources.find? other = some (.ofPool owner))
    (its : foreign ∈ owner.free ++ blocksAt other out) (different : name ≠ other) :
    (pool.range block).Apart (owner.range foreign) := by
  obtain ⟨region, mine, within⟩ := funded.within found member
  obtain ⟨beyond, theirs, inside⟩ := funded.within also its
  have across := (List.pairwise_flatMap.1 (List.pairwise_append.1 funded.all_laid.apart).1).2
  -- It does not matter which of the two pools is listed first.
  have symmetric : Std.Symm fun first second : String × Supplier =>
      ∀ left ∈ holdings out first, ∀ right ∈ holdings out second, left.Apart right :=
    ⟨fun _ _ apart left mine right its => (apart right its left mine).symm⟩
  have apart := across.forall (Table.mem_of_find? found) (Table.mem_of_find? also)
    (fun same => different (congrArg Prod.fst same))
  exact (apart region mine beyond theirs).within within inside

/-- Blocks lie apart from the other regions. -/
theorem apart_others (found : sources.find? name = some (.ofPool pool))
    (member : block ∈ pool.free ++ blocksAt name out) {region : Region} (other : region ∈ others) :
    (pool.range block).Apart region := by
  obtain ⟨home, mine, within⟩ := funded.within found member
  refine Region.Apart.of_within ?_ within
  refine funded.all_laid.append_apart ?_ other
  exact List.mem_flatMap.2 ⟨_, Table.mem_of_find? found, mine⟩

theorem ready_of_block (found : sources.find? name = some (.ofPool pool))
    (member : block ∈ pool.free ++ blocksAt name out) : pool.ready = true := by
  have tracks := funded.tracks found
  rcases BlockPool.mem_cases member with cached | lent
  · exact BlockPool.Keeps.ready_of_cached tracks cached
  · exact BlockPool.Keeps.ready_of_lent tracks lent

/-- A slab can be made of any block. -/
theorem placed (found : sources.find? name = some (.ofPool pool))
    (member : block ∈ pool.free ++ blocksAt name out) : (pool.range block).Placed := by
  have tracks := funded.tracks found
  have place (region : Region) (mine : region ∈ holdings out (name, .ofPool pool)) :
      region.Placed := funded.laid.placed region (funded.mem_held found mine)
  -- A block of the cache is whole pages behind an aligned start; a lent one was aligned when it was
  -- granted.
  have aligned : block % wordBytes = 0 := by
    rcases BlockPool.mem_cases member with cached | lent
    · obtain ⟨region, set, position, -, rfl⟩ := BlockPool.mem_cache.1 (tracks.split.mem_iff.1 cached)
      have whole := (tracks.paged (funded.ready_of_block found member)).2
      have start := (place region (List.mem_append_left _ (Option.mem_toList.2 set))).2.1
      have words : pool.blockSize % wordBytes = 0 := by
        unfold pageSize at whole
        unfold wordBytes
        omega
      rw [Nat.add_mod, start, Nat.mul_mod, words]
      rfl
    · exact (place _ (List.mem_append_right _ (List.mem_map_of_mem lent))).2.1
  obtain ⟨region, mine, low, high⟩ := funded.within found member
  obtain ⟨positive, -, below⟩ := place region mine
  exact ⟨Nat.lt_of_lt_of_le positive low, aligned, Nat.lt_of_le_of_lt high below⟩

/-! ## Changes -/

theorem perm {entries : List (String × Nat)} {regions : List Region} (same : out.Perm entries)
    (also : others.Perm regions) : Funded sources system entries regions where
  names := funded.names
  tracked name supplier found := by
    obtain ⟨pool, rfl, tracks⟩ := funded.tracked name supplier found
    exact ⟨pool, rfl, tracks.perm (blocksAt_perm name same)⟩
  known entry member := funded.known entry (same.mem_iff.2 member)
  held := by
    refine funded.held.trans (List.Perm.append ?_ also)
    refine List.Perm.flatMap_left _ fun entry _ => ?_
    unfold holdings
    split
    · exact (((blocksAt_perm _ same).filter _).map _).append_left _
    · exact .refl _
  laid := funded.laid
  returned := funded.returned

/-- The system may change its mind about what it grants. -/
theorem exchange (policy : Policy) : Funded sources { system with policy := policy } out others :=
  { funded with }

/-- The system grants a region to somebody else. -/
theorem grant {region : Region} (placed : region.Placed)
    (apart : ∀ held ∈ system.held, region.Apart held)
    (granted : after.granted = region :: system.granted)
    (held : after.held = region :: system.held) (released : after.released = system.released) :
    Funded sources after out (region :: others) := by
  refine ⟨funded.names, funded.tracked, funded.known, ?_, ?_, ?_⟩
  · rw [held]
    exact (funded.held.cons region).trans List.perm_middle.symm
  · rw [held]
    exact funded.laid.cons placed apart
  · rw [granted, held, released]
    exact funded.returned.cons region

/-- Somebody else gives a region back. -/
theorem restore {region : Region} (other : region ∈ others) :
    Funded sources (system.release region) out (others.erase region) := by
  have member : region ∈ system.held := funded.held.mem_iff.2 (List.mem_append_right _ other)
  refine ⟨funded.names, funded.tracked, funded.known, ?_, ?_,
    System.release_returned funded.returned member⟩
  · refine List.Perm.cons_inv (a := region) ?_
    refine (List.perm_cons_erase member).symm.trans (funded.held.trans ?_)
    exact ((List.perm_cons_erase other).append_left _).trans List.perm_middle
  · exact funded.laid.subperm (List.erase_subperm _ _)

/-- One pool changes, and what is in use of the system changes as its holdings do. -/
theorem replace (found : sources.find? name = some (.ofPool pool))
    (elsewhere : ∀ other, other ≠ name → blocksAt other changed = blocksAt other out)
    (known : ∀ entry ∈ changed, entry.1 ∈ sources.names)
    (tracks : next.Tracks (blocksAt name changed))
    (held : ∀ rest, system.held.Perm (holdings out (name, .ofPool pool) ++ rest) →
      after.held.Perm (holdings changed (name, .ofPool next) ++ rest))
    (laid : Region.Laid after.held) (returned : after.granted.Perm (after.held ++ after.released)) :
    Funded (sources.insert name (.ofPool next)) after changed others := by
  have names := Table.names_insert funded.names found (.ofPool next)
  obtain ⟨rest, before, erased, -⟩ := Table.flatMap_split funded.names found (holdings out)
  obtain ⟨same, -, left, behind⟩ := Table.flatMap_split funded.names found (holdings changed)
  -- The holdings of every other source depend on its own blocks only.
  have untouched : same = rest := by
    rw [← erased, ← left]
    refine List.flatMap_congr fun entry member => ?_
    have different : entry.1 ≠ name := bne_iff_ne.1 (List.mem_filter.1 member).2
    unfold holdings
    rw [elsewhere entry.1 different]
  refine ⟨?_, fun other supplier present => ?_, ?_, ?_, laid, returned⟩
  · rw [names]
    exact funded.names
  · obtain ⟨rfl, rfl⟩ | ⟨different, before⟩ := Table.find?_insert_cases present
    · exact ⟨next, rfl, tracks⟩
    · rw [elsewhere other different]
      exact funded.tracked other supplier before
  · rw [names]
    exact known
  · rw [untouched] at behind
    refine (held (rest ++ others) ?_).trans ?_
    · rw [← List.append_assoc]
      exact funded.held.trans (before.append_right others)
    · rw [← List.append_assoc]
      exact (behind (.ofPool next)).symm.append_right others

end

/-! ## Blocks -/

/-- A block that the system grants does not pass for one of the cache. -/
theorem outer_of_drained {taken : Taken BlockPool} (funded : Funded sources system out others)
    (found : sources.find? name = some (.ofPool pool)) (took : pool.alloc system = .ok taken)
    (fresh : ∀ region, taken.system.granted = region :: system.granted →
      region.Placed ∧ ∀ held ∈ system.held, region.Apart held) (drained : pool.free = []) :
    pool.contains taken.block = false := by
  obtain ⟨ready, ⟨rest, free, -⟩ | ⟨-, -, -, grown⟩⟩ := BlockPool.alloc_cases took
  · rw [drained] at free
    cases free
  · obtain ⟨-, apart⟩ := fresh (pool.range taken.block) (by rw [grown])
    refine BlockPool.not_contains_of_apart
      (BlockPool.Keeps.blockSize_pos (funded.tracks found) ready)
      fun region set => apart region (funded.mem_held found ?_)
    exact List.mem_append_left _ (Option.mem_toList.2 set)

/-- A block that a pool hands out is one more that is out. What the system grants for it has
to be a range of its own. -/
theorem alloc {taken : Taken BlockPool} (funded : Funded sources system out others)
    (found : sources.find? name = some (.ofPool pool)) (took : pool.alloc system = .ok taken)
    (fresh : ∀ region, taken.system.granted = region :: system.granted →
      region.Placed ∧ ∀ held ∈ system.held, region.Apart held) :
    Funded (sources.insert name (.ofPool taken.source)) taken.system ((name, taken.block) :: out)
      others := by
  have tracks := funded.tracks found
  have outer := funded.outer_of_drained found took fresh
  have next := tracks.alloc took outer
  obtain ⟨region, size⟩ := BlockPool.alloc_same took
  have elsewhere (other : String) (different : other ≠ name) :
      blocksAt other ((name, taken.block) :: out) = blocksAt other out :=
    blocksAt_cons_of_ne different
  have known : ∀ entry ∈ (name, taken.block) :: out, entry.1 ∈ sources.names := by
    intro entry member
    rcases List.mem_cons.1 member with rfl | old
    · exact Table.mem_names found
    · exact funded.known entry old
  obtain ⟨-, ⟨rest, free, source, same⟩ | ⟨free, shaped, source, grown⟩⟩ :=
    BlockPool.alloc_cases took
  -- A block of the cache was held before it was lent, as part of the region.
  · rw [same]
    refine funded.replace found elsewhere known (by rwa [blocksAt_cons_self]) (fun others held => ?_)
      funded.laid funded.returned
    have kept : holdings ((name, taken.block) :: out) (name, .ofPool taken.source) =
        holdings out (name, .ofPool pool) := by
      rw [holdings_congr pool region size, blocksAt_cons_self,
        BlockPool.outside_cons_inner (tracks.contains_next free)]
      rfl
    rwa [kept]
  -- A block from the system is held from now on.
  · obtain ⟨placed, apart⟩ := fresh (pool.range taken.block) (by rw [grown])
    rw [grown]
    refine funded.replace found elsewhere known (by rwa [blocksAt_cons_self]) (fun others held => ?_)
      (funded.laid.cons placed apart) (funded.returned.cons _)
    have more : (pool.range taken.block :: holdings out (name, .ofPool pool)).Perm
        (holdings ((name, taken.block) :: out) (name, .ofPool taken.source)) := by
      rw [holdings_congr pool region size, blocksAt_cons_self,
        BlockPool.outside_cons_outer (outer free)]
      exact List.perm_middle.symm
    exact (held.cons _).trans (more.append_right others)

/-- A block that is out is taken back when it is given back. -/
theorem release (funded : Funded sources system out others)
    (found : sources.find? name = some (.ofPool pool)) (member : (name, block) ∈ out) :
    ∃ next after, pool.release system block = .ok (next, after) ∧
      Funded (sources.insert name (.ofPool next)) after (out.erase (name, block)) others ∧
      SameFooting (sources.insert name (.ofPool next)) sources ∧ after.granted = system.granted := by
  obtain ⟨next, after, gave, tracks⟩ :=
    (funded.tracks found).release (mem_blocksAt.2 member) system
  obtain ⟨region, size⟩ := BlockPool.release_same gave
  have elsewhere (other : String) (different : other ≠ name) :
      blocksAt other (out.erase (name, block)) = blocksAt other out :=
    blocksAt_erase_of_ne different
  have known : ∀ entry ∈ out.erase (name, block), entry.1 ∈ sources.names :=
    fun entry old => funded.known entry (List.mem_of_mem_erase old)
  have left := blocksAt_erase_self member
  have tracked := tracks.perm left.symm
  have footing := SameFooting.insert funded.names found region size
  refine ⟨next, after, gave, ?_⟩
  obtain ⟨inner, -, -, same⟩ | ⟨outer, -, same⟩ := BlockPool.release_cases gave
  -- A block of the region goes back into the cache: what is held stays.
  · refine ⟨?_, footing, by rw [same]⟩
    rw [same]
    refine funded.replace found elsewhere known tracked (fun others held => ?_) funded.laid
      funded.returned
    have kept : (holdings out (name, .ofPool pool)).Perm
        (holdings (out.erase (name, block)) (name, .ofPool next)) := by
      rw [holdings_congr pool region size]
      have fewer := left.filter fun block => !pool.contains block
      have untouched := BlockPool.outside_erase_inner inner (blocksAt name out)
      unfold BlockPool.outside at untouched
      rw [untouched] at fewer
      exact (fewer.symm.map _).append_left _
    exact held.trans (kept.append_right others)
  -- A block from the system is handed on to it, and is held no longer.
  · have listed : block ∈ pool.outside (blocksAt name out) :=
      List.mem_filter.2 ⟨mem_blocksAt.2 member, by simp [outer]⟩
    have inUse : pool.range block ∈ system.held :=
      funded.mem_held found (List.mem_append_right _ (List.mem_map_of_mem listed))
    refine ⟨?_, footing, by rw [same]; rfl⟩
    rw [same]
    refine funded.replace found elsewhere known tracked (fun others held => ?_)
      (funded.laid.subperm (List.erase_subperm _ _)) (System.release_returned funded.returned inUse)
    have fewer : (holdings out (name, .ofPool pool)).Perm (pool.range block ::
        holdings (out.erase (name, block)) (name, .ofPool next)) := by
      rw [holdings_congr pool region size]
      have split : (pool.outside (blocksAt name out)).Perm
          (block :: pool.outside (blocksAt name (out.erase (name, block)))) := by
        refine (List.perm_cons_erase listed).trans (List.Perm.cons _ ?_)
        unfold BlockPool.outside
        rw [List.erase_filter]
        exact (left.filter _).symm
      exact ((split.map pool.range).append_left _).trans List.perm_middle
    refine List.Perm.cons_inv (a := pool.range block) ?_
    exact (List.perm_cons_erase inUse).symm.trans (held.trans (fewer.append_right others))

/-! ## Pools -/

/-- A block pool is made. -/
theorem open_ (funded : Funded sources system out others) (absent : name ∉ sources.names)
    (blockSize : Nat) :
    Funded (sources.insert name (.ofPool (.new blockSize))) system out others := by
  -- No block is out from a source that was not known.
  have none : blocksAt name out = [] := by
    refine List.eq_nil_iff_forall_not_mem.2 fun block member => ?_
    exact absent (funded.known _ (mem_blocksAt.1 member))
  have names := Table.names_insert_absent absent (Supplier.ofPool (.new blockSize))
  refine ⟨?_, fun other supplier present => ?_, fun entry member => ?_, ?_, funded.laid,
    funded.returned⟩
  · rw [names]
    refine List.nodup_append.2 ⟨funded.names, List.nodup_singleton _, ?_⟩
    rintro old member new last rfl
    rw [List.mem_singleton] at last
    subst last
    exact absent member
  · obtain ⟨rfl, rfl⟩ | ⟨-, before⟩ := Table.find?_insert_cases present
    · refine ⟨_, rfl, ?_⟩
      rw [none]
      exact .new blockSize
    · exact funded.tracked other supplier before
  · rw [names]
    exact List.mem_append_left _ (funded.known entry member)
  · rw [Table.entries_insert_absent absent, List.flatMap_append, List.flatMap_singleton]
    refine funded.held.trans (.of_eq ?_)
    unfold holdings
    simp only
    rw [none]
    simp [BlockPool.new, BlockPool.outside]

/-- A block pool is set up. If it gets a cache region, that has to be a range of its own. -/
theorem setUp {count : Nat} (funded : Funded sources system out others)
    (found : sources.find? name = some (.ofPool pool))
    (made : pool.init system count = .ok (next, after))
    (fresh : ∀ region, after.granted = region :: system.granted →
      region.Placed ∧ ∀ held ∈ system.held, region.Apart held) :
    Funded (sources.insert name (.ofPool next)) after out others := by
  have tracks := funded.tracks found
  obtain ⟨unready, -, -, outcome⟩ := BlockPool.init_cases made
  obtain ⟨new, inner, outer⟩ := tracks.blank unready
  -- A pool that was not ready has lent nothing.
  have none : blocksAt name out = [] := by
    refine List.Perm.eq_nil ?_
    have whole := pool.inside_outside (blocksAt name out)
    rw [inner, outer] at whole
    exact whole.symm
  have bare : holdings out (name, .ofPool pool) = [] := by
    unfold holdings
    simp only
    rw [none, new]
    rfl
  have kept : next.Tracks (blocksAt name out) := by
    have fresh : pool.Keeps [] [] := by
      rw [new]
      exact .new _
    rw [none]
    exact (fresh.init made).1
  rcases outcome with ⟨-, source, same⟩ | ⟨-, start, source, grown⟩
  · rw [same]
    refine funded.replace found (fun _ _ => rfl) funded.known kept (fun rest held => ?_) funded.laid
      funded.returned
    have still : holdings out (name, .ofPool next) = [] := by
      unfold holdings
      simp only
      rw [none, source]
      rfl
    rwa [still, ← bare]
  · obtain ⟨placed, apart⟩ := fresh ⟨start, pool.blockSize * count⟩ (by rw [grown])
    rw [grown]
    refine funded.replace found (fun _ _ => rfl) funded.known kept (fun rest held => ?_)
      (funded.laid.cons placed apart) (funded.returned.cons _)
    have cache : holdings out (name, .ofPool next) = [⟨start, pool.blockSize * count⟩] := by
      unfold holdings
      simp only
      rw [none, source]
      rfl
    rw [cache]
    rw [bare] at held
    exact held.cons _

/-- What is in use of the system, with one pool set apart. -/
theorem held_apart (funded : Funded sources system out others)
    (found : sources.find? name = some (.ofPool pool)) :
    system.held.Perm (pool.region.toList ++
      ((sources.erase name).entries.flatMap (holdings (out.filter fun entry => entry.1 ≠ name)) ++
        ((pool.outside (blocksAt name out)).map pool.range ++ others))) := by
  obtain ⟨rest, before, erased, -⟩ := Table.flatMap_split funded.names found (holdings out)
  have untouched : (sources.erase name).entries.flatMap
      (holdings (out.filter fun entry => entry.1 ≠ name)) = rest := by
    rw [← erased]
    refine List.flatMap_congr fun entry member => ?_
    have different : entry.1 ≠ name := bne_iff_ne.1 (List.mem_filter.1 member).2
    unfold holdings
    rw [blocksAt_filter_of_ne different]
  rw [untouched]
  refine (funded.held.trans (before.append_right others)).trans ?_
  unfold holdings
  simp only
  rw [List.append_assoc, List.append_assoc]
  refine List.Perm.append_left _ ?_
  rw [← List.append_assoc, ← List.append_assoc]
  exact List.perm_append_comm.append_right others

/-- A block pool ends. The blocks it has lent of the system stay in use. -/
theorem close (funded : Funded sources system out others)
    (found : sources.find? name = some (.ofPool pool)) :
    Funded (sources.erase name) (pool.drop system) (out.filter fun entry => entry.1 ≠ name)
      ((pool.outside (blocksAt name out)).map pool.range ++ others) := by
  have whole := funded.held_apart found
  have names : (sources.erase name).names.Nodup := by
    rw [Table.names_erase]
    exact funded.names.filter _
  have tracked : ∀ other supplier, (sources.erase name).find? other = some supplier →
      ∃ pool, supplier = .ofPool pool ∧
        pool.Tracks (blocksAt other (out.filter fun entry => entry.1 ≠ name)) := by
    intro other supplier present
    obtain ⟨different, before⟩ := Table.find?_erase_cases present
    rw [blocksAt_filter_of_ne different]
    exact funded.tracked other supplier before
  have known : ∀ entry ∈ out.filter (fun entry => entry.1 ≠ name),
      entry.1 ∈ (sources.erase name).names := by
    intro entry member
    obtain ⟨old, different⟩ := List.mem_filter.1 member
    rw [Table.names_erase]
    exact List.mem_filter.2 ⟨funded.known entry old, by simpa using different⟩
  unfold BlockPool.drop
  -- The region is released with the pool; blocks outside it stay held, as nobody can give them
  -- back.
  cases set : pool.region with
  | none =>
    rw [set] at whole
    exact ⟨names, tracked, known, whole, funded.laid, funded.returned⟩
  | some region =>
    rw [set] at whole
    have member : region ∈ system.held := whole.mem_iff.2 List.mem_cons_self
    refine ⟨names, tracked, known, ?_, funded.laid.subperm (List.erase_subperm _ _),
      System.release_returned funded.returned member⟩
    exact List.Perm.cons_inv ((List.perm_cons_erase member).symm.trans whole)

end Funded

/-! ## Requests and offers -/

/-- Every block pool is there still, as it was but for its counters of requests. -/
def SameStock (before after : Table Supplier) : Prop :=
  ∀ name pool, before.find? name = some (.ofPool pool) →
    ∃ next, after.find? name = some (.ofPool next) ∧ pool.Evened next

theorem SameStock.refl (sources : Table Supplier) : SameStock sources sources :=
  fun _ pool found => ⟨pool, found, .refl pool⟩

namespace Funded

variable {session after : Session} {out : List (String × Nat)} {others : List Region}
  {source : String} {block : Nat}

/-- A source that hands out a block is a block pool, and it is the pool that does so. -/
theorem takeBlock_cases (funded : Funded session.sources session.system out others)
    (took : session.takeBlock source = (.ok block, after)) :
    ∃ pool taken, session.sources.find? source = some (.ofPool pool) ∧
      pool.alloc session.system = .ok taken ∧ taken.block = block ∧
      after = Allocator.note { session with
        sources := session.sources.insert source (.ofPool taken.source)
        system := taken.system } taken.events := by
  obtain ⟨supplier, result, found, answered, rfl, rfl⟩ := Allocator.takeBlock_ok took
  obtain ⟨pool, rfl, -⟩ := funded.tracked source supplier found
  simp only [BlockSource.take, Supplier.take] at answered
  cases drawn : pool.alloc session.system with
  | error fault =>
    simp only [drawn, Except.map] at answered
    cases answered
  | ok taken =>
    simp only [drawn, Except.map] at answered
    cases answered
    exact ⟨pool, taken, found, drawn, rfl, rfl⟩

/-- A block taken from a source. -/
theorem takeBlock (funded : Funded session.sources session.system out others)
    (took : session.takeBlock source = (.ok block, after))
    (fresh : ∀ region, after.system.granted = region :: session.system.granted →
      region.Placed ∧ ∀ held ∈ session.system.held, region.Apart held) :
    Funded after.sources after.system ((source, block) :: out) others ∧
      SameFooting after.sources session.sources := by
  obtain ⟨pool, taken, found, drawn, rfl, rfl⟩ := funded.takeBlock_cases took
  obtain ⟨region, size⟩ := BlockPool.alloc_same drawn
  exact ⟨funded.alloc found drawn fresh, .insert funded.names found region size⟩

/-- A block that was just taken goes back where it came from. -/
theorem take_give (funded : Funded session.sources session.system out others)
    (took : session.takeBlock source = (.ok block, after))
    (fresh : ∀ region, after.system.granted = region :: session.system.granted →
      region.Placed ∧ ∀ held ∈ session.system.held, region.Apart held) :
    ∃ back, after.giveBlock source block = (.ok (), back) ∧
      SameStock session.sources back.sources ∧ back.system.held = session.system.held := by
  obtain ⟨pool, taken, found, drawn, rfl, rfl⟩ := funded.takeBlock_cases took
  obtain ⟨next, system, gave, evened, held⟩ :=
    (funded.tracks found).alloc_release drawn (funded.outer_of_drained found drawn fresh)
  let holding := session.sources.insert source (.ofPool taken.source)
  refine ⟨Allocator.note { session with
    sources := holding.insert source (.ofPool next)
    system := system } taken.events, ?_, fun name owner present => ?_, held⟩
  · let drawn : Session := Allocator.note
      { session with sources := holding, system := taken.system } taken.events
    have here : drawn.sources.find? source = some (.ofPool taken.source) :=
      Table.find?_insert_self _ _ _
    have back : BlockSource.give (Supplier.ofPool taken.source) drawn.system taken.block =
        .ok (.ofPool next, system) := by
      simp only [drawn, Allocator.note, BlockSource.give, Supplier.give, gave, Except.map]
    exact Allocator.giveBlock_given here back
  · show ∃ after, (holding.insert source _).find? name = _ ∧ _
    -- Only the stock of this source was touched, and its cache is what it was up to order.
    by_cases same : name = source
    · subst same
      cases found.symm.trans present
      exact ⟨next, Table.find?_insert_self _ _ _, evened⟩
    · rw [Table.find?_insert_of_ne _ _ same, Table.find?_insert_of_ne _ _ same]
      exact ⟨owner, present, .refl owner⟩

/-- A block that is out can be given back. -/
theorem giveBlock (funded : Funded session.sources session.system out others)
    (member : (source, block) ∈ out) :
    ∃ after, session.giveBlock source block = (.ok (), after) ∧
      Funded after.sources after.system (out.erase (source, block)) others ∧
      SameFooting after.sources session.sources ∧
      after.system.granted = session.system.granted := by
  obtain ⟨pool, found⟩ := funded.pool_of_known (funded.known _ member)
  obtain ⟨next, system, gave, funds, footing, granted⟩ := funded.release found member
  have back : BlockSource.give (Supplier.ofPool pool) session.system block =
      .ok (.ofPool next, system) := by
    simp only [BlockSource.give, Supplier.give, gave, Except.map]
  exact ⟨_, Allocator.giveBlock_given found back, funds, footing, granted⟩

/-- Blocks that are out are all taken back. -/
theorem offerAll {blocks : List Nat} (funded : Funded session.sources session.system out others)
    (known : (blocks.map fun block => (source, block)).Subperm out) :
    Offer.taken (session.offerAll source blocks).1 = blocks.map (fun block => (source, block)) ∧
      (∀ left, out.Perm (left ++ blocks.map fun block => (source, block)) →
        Funded (session.offerAll source blocks).2.sources (session.offerAll source blocks).2.system
          left others) ∧
      SameFooting (session.offerAll source blocks).2.sources session.sources ∧
      (session.offerAll source blocks).2.system.granted = session.system.granted := by
  -- By induction on the blocks: each was out, so it is taken back, and the rest is still out.
  induction blocks generalizing session out with
  | nil =>
    refine ⟨rfl, fun left same => ?_, .refl _, rfl⟩
    rw [List.map_nil, List.append_nil] at same
    exact funded.perm same (.refl _)
  | cons block rest ih =>
    have member : (source, block) ∈ out := known.subset List.mem_cons_self
    obtain ⟨after, gave, funds, footing, granted⟩ := funded.giveBlock member
    have listed : (rest.map fun block => (source, block)).Subperm (out.erase (source, block)) := by
      have less := known.erase (source, block)
      rwa [List.map_cons, List.erase_cons_head] at less
    obtain ⟨accepted, remaining, footingRest, grantedRest⟩ := ih funds listed
    unfold Allocator.offerAll
    simp only [gave]
    refine ⟨?_, fun left same => ?_, footingRest.trans footing, grantedRest.trans granted⟩
    · have first : Offer.taken (⟨source, block, .ok ()⟩ :: (after.offerAll source rest).1) =
          (source, block) :: Offer.taken (after.offerAll source rest).1 := rfl
      rw [first, accepted]
      rfl
    · refine remaining left (List.Perm.cons_inv (a := (source, block)) ?_)
      refine (List.perm_cons_erase member).symm.trans (same.trans ?_)
      exact List.perm_middle

end Funded

end SlabAllocator
