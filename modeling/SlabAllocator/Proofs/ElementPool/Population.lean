import Mathlib.Data.Finset.Sort
import Mathlib.Data.List.Flatten
import Mathlib.Data.List.Nodup
import SlabAllocator.Proofs.ElementPool.Counters

/-! How many elements of a pool are live, counted slab by slab. What the headers say adds
up to the number of live addresses, and the elements with the headers of their slabs fit in
the bytes of the slabs. Ranges apart from each other share one address space, so none of
these sums outgrows a word. -/
namespace SlabAllocator

/-- Ranges apart from each other below a limit do not add up to more than the limit. -/
theorem Region.sum_size_le {regions : List Region} {limit : Nat}
    (apart : regions.Pairwise Region.Apart) (below : ∀ region ∈ regions, region.finish ≤ limit) :
    (regions.map Region.size).sum ≤ limit := by
  have once : (regions.flatMap fun region => List.range' region.start region.size).Nodup := by
    refine List.nodup_flatMap.2 ⟨fun region _ => List.nodup_range', apart.imp ?_⟩
    intro first second apart address inFirst inSecond
    rw [List.mem_range'_1] at inFirst inSecond
    unfold Region.Apart Region.finish at apart
    omega
  have within : (regions.flatMap fun region => List.range' region.start region.size) ⊆
      List.range limit := by
    intro address member
    obtain ⟨region, known, inside⟩ := List.mem_flatMap.1 member
    have ends := below region known
    rw [List.mem_range'_1] at inside
    unfold Region.finish at ends
    exact List.mem_range.2 (by omega)
  have fewer := (once.subperm within).length_le
  rw [List.length_flatMap, List.length_range] at fewer
  simpa only [List.length_range'] using fewer

namespace ElementPool

namespace Piece

/-- The live addresses of a slab, ascending. -/
def elements (piece : Piece) : List Nat :=
  piece.stack.live.sort.map piece.shape.slot

variable {piece : Piece} {memory : Memory} {address : Nat}

theorem mem_elements : address ∈ piece.elements ↔ piece.Live address := by
  unfold elements Live
  simp only [List.mem_map, Finset.mem_sort, eq_comm]

theorem length_elements (piece : Piece) : piece.elements.length = piece.count := by
  unfold elements count
  rw [List.length_map, Finset.length_sort]

theorem Held.nodup_elements (held : piece.Held memory) : piece.elements.Nodup :=
  (Finset.sort_nodup _ _).map fun _ _ same => held.usable.slot_inj.1 same

/-- The live elements of a slab and its header fit in the slab. -/
theorem Held.count_fits (held : piece.Held memory) :
    piece.count * piece.shape.elementSize + Slab.headerBytes ≤ piece.shape.size := by
  have most := Nat.mul_le_mul_right piece.shape.elementSize held.count_le
  have fits : piece.capacity * piece.shape.elementSize + Slab.headerBytes ≤ piece.shape.size :=
    held.usable.slots_fit
  omega

end Piece

namespace View

/-- The live addresses of an arrangement, slab by slab. -/
def elements (view : View) : List Nat :=
  view.pieces.flatMap Piece.elements

/-- Live elements of an arrangement. -/
def population (view : View) : Nat :=
  (view.pieces.map Piece.count).sum

/-- Bytes of all slabs of an arrangement. -/
def bytes (view : View) : Nat :=
  (view.regions.map Region.size).sum

variable {view : View} {memory : Memory} {address : Nat}

theorem mem_elements : address ∈ view.elements ↔ view.Live address := by
  unfold elements Live
  simp only [List.mem_flatMap, Piece.mem_elements]

theorem length_elements (view : View) : view.elements.length = view.population := by
  unfold elements population
  rw [List.length_flatMap]
  exact congrArg List.sum (List.map_congr_left fun piece _ => piece.length_elements)

namespace Sound

/-- No address is a live element of two slabs. -/
theorem nodup_elements (sound : view.Sound memory) : view.elements.Nodup := by
  refine List.nodup_flatMap.2
    ⟨fun piece member => (sound.held piece member).nodup_elements, ?_⟩
  refine (List.pairwise_map.1 sound.apart).imp_of_mem ?_
  intro piece other member beside apart address here there
  have inside := (sound.held piece member).contains_of_live (Piece.mem_elements.1 here)
  have also := (sound.held other beside).contains_of_live (Piece.mem_elements.1 there)
  rw [apart.not_contains inside] at also
  cases also

/-- A list of the live addresses is as long as the slabs say. -/
theorem length_eq_population (sound : view.Sound memory) {addresses : List Nat}
    (once : addresses.Nodup) (live : ∀ address, address ∈ addresses ↔ view.Live address) :
    addresses.length = view.population := by
  rw [← view.length_elements]
  refine (List.Perm.length_eq ?_)
  refine (List.perm_ext_iff_of_nodup once sound.nodup_elements).2 fun address => ?_
  rw [live, mem_elements]

/-- Live elements and headers fit in the slabs. -/
theorem population_fits (sound : view.Sound memory) :
    view.population * view.elementSize + Slab.headerBytes * view.pieces.length ≤ view.bytes := by
  have fits : ∀ pieces : List Piece, (∀ piece ∈ pieces, piece ∈ view.pieces) →
      (pieces.map Piece.count).sum * view.elementSize + Slab.headerBytes * pieces.length ≤
        (pieces.map fun piece => piece.shape.size).sum := by
    intro pieces mine
    induction pieces with
    | nil => simp
    | cons piece rest ih =>
      obtain ⟨member, others⟩ := List.forall_mem_cons.1 mine
      have here := (sound.held piece member).count_fits
      have there := ih others
      rw [sound.sorted.elements piece member] at here
      rw [List.map_cons, List.map_cons, List.sum_cons, List.sum_cons, List.length_cons,
        Nat.add_mul, Nat.mul_succ]
      omega
  unfold population bytes regions
  rw [List.map_map]
  exact fits view.pieces fun _ member => member

theorem elementSize_pos (sound : view.Sound memory) (some : view.population ≠ 0) :
    0 < view.elementSize := by
  cases pieces : view.pieces with
  | nil =>
    unfold population at some
    rw [pieces] at some
    exact absurd rfl some
  | cons piece rest =>
    have member : piece ∈ view.pieces := by simp [pieces]
    rw [← sound.sorted.elements piece member]
    exact (sound.held piece member).usable.elementSize_pos

/-- There are no more live elements than bytes in the slabs. -/
theorem population_le_bytes (sound : view.Sound memory) : view.population ≤ view.bytes := by
  by_cases nothing : view.population = 0
  · omega
  · have fits := sound.population_fits
    have wide := Nat.le_mul_of_pos_right view.population (sound.elementSize_pos nothing)
    omega

end Sound

end View

namespace Shows

variable {pool : ElementPool} {memory : Memory} {view : View}

/-- The resident slab and as many blocks as slabs are indexed make up the bytes of a pool. -/
theorem bytes_eq (shows : pool.Shows memory view) :
    view.bytes = (pool.resident.map Resident.size).getD 0 + pool.slabCount * pool.blockSize := by
  have blocks : (view.carved.map fun piece => piece.shape.size).sum =
      pool.slabCount * pool.blockSize := by
    rw [shows.slabCount_eq, shows.blockSize, List.map_congr_left shows.sound.sorted.blocks,
      List.map_const', List.sum_replicate_nat]
  unfold View.bytes View.regions View.pieces
  rw [List.map_map, List.map_append, List.sum_append]
  show _ + (view.carved.map fun piece => piece.shape.size).sum = _
  rw [blocks, shows.resident]
  cases view.resident <;> rfl

theorem length_pieces (shows : pool.Shows memory view) :
    view.pieces.length = pool.resident.toList.length + pool.slabCount := by
  unfold View.pieces
  rw [List.length_append, shows.slabCount_eq, shows.resident]
  cases view.resident <;> rfl

end Shows

theorem Measured.allocatedBlockBytes_eq {pool : ElementPool} (measured : pool.Measured) :
    pool.allocatedBlockBytes =
      (pool.resident.map Resident.size).getD 0 + pool.slabCount * pool.blockSize := by
  unfold allocatedBlockBytes
  rw [measured.carved, Nat.mul_comm]
  cases pool.resident <;> rfl

end ElementPool

end SlabAllocator
