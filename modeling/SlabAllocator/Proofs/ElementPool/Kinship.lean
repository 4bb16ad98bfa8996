import Mathlib.Data.List.Perm.Basic
import SlabAllocator.Proofs.ElementPool.Counters

/-! Two arrangements of the same slabs in which the same elements are live. A carved slab is
there as long as one of its elements is live, and the number of these tells whether it has
room. So the live elements tell which slabs there are and in which row each of them stands,
and only the order of the rows is left open. -/
namespace SlabAllocator.ElementPool

namespace Piece

variable {piece one other : Piece} {memory also : Memory} {address : Nat}

/-- The same slab with the same live slots. -/
structure Peer (one other : Piece) : Prop where
  shape : other.shape = one.shape
  live : other.stack.live = one.stack.live

theorem Peer.base (peer : one.Peer other) : other.base = one.base :=
  congrArg Slab.Shape.base peer.shape

theorem Peer.count (peer : one.Peer other) : other.count = one.count :=
  congrArg Finset.card peer.live

theorem Peer.capacity (peer : one.Peer other) : other.capacity = one.capacity :=
  congrArg Slab.Shape.capacity peer.shape

/-- Every slab has an address. -/
theorem Held.exists_inside (held : piece.Held memory) :
    ∃ address, piece.shape.region.contains address = true :=
  ⟨_, held.contains_slot held.usable.capacity_pos⟩

end Piece

namespace View

variable {view one other : View} {memory mine its : Memory} {first second : Piece} {address : Nat}

/-- Slabs of one arrangement begin at different places. -/
theorem Sound.nodup_bases (sound : view.Sound memory) : (view.pieces.map Piece.base).Nodup := by
  refine List.pairwise_map.2 ((List.pairwise_map.1 sound.apart).imp_of_mem ?_)
  intro first second member beside apart
  exact ((sound.held first member).usable.different_of_apart
    (sound.held second beside).usable apart).1

theorem Sound.nodup_rows (sound : view.Sound memory) :
    (view.roomy.map Piece.base).Nodup ∧ (view.full.map Piece.base).Nodup := by
  have bases := sound.nodup_bases
  unfold View.pieces View.carved at bases
  rw [List.map_append, List.map_append] at bases
  exact ⟨bases.of_append_right.of_append_left, bases.of_append_right.of_append_right⟩

/-- Arrangements of the same slabs: where two slabs overlap they are the same one, and the
resident slab is in both. -/
structure Kin (one other : View) : Prop where
  blockSize : other.blockSize = one.blockSize
  elementSize : other.elementSize = one.elementSize
  resident : other.resident.map Piece.shape = one.resident.map Piece.shape
  shape : ∀ first ∈ one.pieces, ∀ second ∈ other.pieces, ∀ address,
    first.shape.region.contains address = true → second.shape.region.contains address = true →
      second.shape = first.shape

theorem Kin.symm (kin : one.Kin other) : other.Kin one where
  blockSize := kin.blockSize.symm
  elementSize := kin.elementSize.symm
  resident := kin.resident.symm
  shape first member second beside address inside also :=
    (kin.shape second beside first member address also inside).symm

/-- Two arrangements differ in the order of the two rows and in the vacant slots of slabs. -/
structure Matched (one other : View) : Prop where
  blockSize : other.blockSize = one.blockSize
  elementSize : other.elementSize = one.elementSize
  resident : other.resident.map Piece.shape = one.resident.map Piece.shape
  pieces : ∀ piece ∈ one.pieces, ∃ peer ∈ other.pieces, piece.Peer peer
  roomy : (other.roomy.map Piece.base).Perm (one.roomy.map Piece.base)
  full : (other.full.map Piece.base).Perm (one.full.map Piece.base)

namespace Kin

section

variable (kin : one.Kin other) (here : one.Sound mine) (there : other.Sound its)
include here there

/-- What is live in a slab is live in the other state of the slab. -/
theorem live_subset (live : ∀ address, one.Live address → other.Live address)
    (member : first ∈ one.pieces) (beside : second ∈ other.pieces)
    (shape : second.shape = first.shape) : first.stack.live ⊆ second.stack.live := by
  intro slot alive
  have held := here.held first member
  have mineLive : first.Live (first.shape.slot slot) := ⟨slot, alive, rfl⟩
  obtain ⟨third, its, itsLive⟩ := live _ ⟨first, member, mineLive⟩
  have inside : second.shape.region.contains (first.shape.slot slot) = true := by
    rw [shape]
    exact held.contains_of_live mineLive
  -- The piece that holds the element on the other side stands on the same bytes, so it is the one
  -- of this shape.
  obtain rfl := there.unique beside its inside ((there.held third its).contains_of_live itsLive)
  obtain ⟨number, also, equal⟩ := itsLive
  rw [shape, held.usable.slot_inj] at equal
  rwa [equal]

variable (same : ∀ address, one.Live address ↔ other.Live address)
include kin same

/-- Slabs that share an address have the same live slots. -/
theorem peer (member : first ∈ one.pieces) (beside : second ∈ other.pieces)
    (inside : first.shape.region.contains address = true)
    (also : second.shape.region.contains address = true) : first.Peer second := by
  have shape := kin.shape first member second beside address inside also
  refine ⟨shape, Finset.Subset.antisymm ?_ ?_⟩
  · exact live_subset there here (fun address => (same address).2) beside member shape.symm
  · exact live_subset here there (fun address => (same address).1) member beside shape

/-- The resident slab is still there. -/
theorem peer_resident (resident : one.resident = some first) :
    ∃ second, other.resident = some second ∧ first.Peer second := by
  have member := mem_of_resident resident
  have shapes := kin.resident
  rw [resident] at shapes
  obtain ⟨second, known, shape⟩ := Option.map_eq_some_iff.1 shapes
  obtain ⟨address, inside⟩ := (here.held first member).exists_inside
  refine ⟨second, known, ?_⟩
  apply kin.peer here there same member (mem_of_resident known) inside
  rwa [shape]

/-- A carved slab is there as long as an element of it is live. -/
theorem peer_carved (carved : first ∈ one.carved) :
    ∃ second ∈ other.carved, first.Peer second := by
  have member := mem_of_carved carved
  have held := here.held first member
  -- An element that is live in the slab finds its peer.
  obtain ⟨address, live⟩ := here.exists_live carved
  have inside := held.contains_of_live live
  obtain ⟨second, beside, liveToo⟩ := (same _).1 ⟨first, member, live⟩
  have also := (there.held second beside).contains_of_live liveToo
  refine ⟨second, ?_, kin.peer here there same member beside inside also⟩
  rcases List.mem_append.1 beside with resident | carvedToo
  · -- The resident slab would have to be the carved one as well.
    have shapes := kin.resident.symm
    rw [Option.mem_toList.1 resident] at shapes
    obtain ⟨third, residentToo, shape⟩ := Option.map_eq_some_iff.1 shapes
    rw [← shape] at also
    have outside := (here.resident_apart residentToo carved).not_contains also
    rw [inside] at outside
    cases outside
  · exact carvedToo

/-- A slab with room has room whatever the order. -/
theorem roomy_subset {base : Nat} (known : base ∈ one.roomy.map Piece.base) :
    base ∈ other.roomy.map Piece.base := by
  obtain ⟨first, roomy, rfl⟩ := List.mem_map.1 known
  obtain ⟨second, carved, peer⟩ := kin.peer_carved here there same (carved_of_roomy roomy)
  rw [← peer.base]
  rcases List.mem_append.1 carved with roomyToo | full
  · exact List.mem_map_of_mem roomyToo
  · have spent := there.sorted.full second full
    rw [peer.count, peer.capacity] at spent
    exact absurd spent (Nat.ne_of_lt (here.sorted.roomy first roomy).2)

/-- A slab without room has none whatever the order. -/
theorem full_subset {base : Nat} (known : base ∈ one.full.map Piece.base) :
    base ∈ other.full.map Piece.base := by
  obtain ⟨first, full, rfl⟩ := List.mem_map.1 known
  obtain ⟨second, carved, peer⟩ := kin.peer_carved here there same (carved_of_full full)
  rw [← peer.base]
  rcases List.mem_append.1 carved with roomy | fullToo
  · have spent := here.sorted.full first full
    rw [← peer.count, ← peer.capacity] at spent
    exact absurd spent (Nat.ne_of_lt (there.sorted.roomy second roomy).2)
  · exact List.mem_map_of_mem fullToo

end

/-- **What is live tells the slabs**, and the row of each. -/
theorem matched (kin : one.Kin other) (here : one.Sound mine) (there : other.Sound its)
    (same : ∀ address, one.Live address ↔ other.Live address) : one.Matched other where
  blockSize := kin.blockSize
  elementSize := kin.elementSize
  resident := kin.resident
  pieces piece member := by
    rcases List.mem_append.1 member with resident | carved
    · obtain ⟨second, known, peer⟩ :=
        kin.peer_resident here there same (Option.mem_toList.1 resident)
      exact ⟨second, mem_of_resident known, peer⟩
    · obtain ⟨second, known, peer⟩ := kin.peer_carved here there same carved
      exact ⟨second, mem_of_carved known, peer⟩
  roomy := by
    refine (List.perm_ext_iff_of_nodup there.nodup_rows.1 here.nodup_rows.1).2 fun base => ⟨?_, ?_⟩
    · exact kin.symm.roomy_subset there here fun address => (same address).symm
    · exact kin.roomy_subset here there same
  full := by
    refine (List.perm_ext_iff_of_nodup there.nodup_rows.2 here.nodup_rows.2).2 fun base => ⟨?_, ?_⟩
    · exact kin.symm.full_subset there here fun address => (same address).symm
    · exact kin.full_subset here there same

end Kin

end View

/-! ## Pools -/

namespace Shows

variable {one other : ElementPool} {memory also : Memory} {first second : View}

section

variable (shows : one.Shows memory first) (shown : other.Shows also second)
  (matched : first.Matched second)
include shows shown matched

/-- Ascending lists of the same ends are the same list. -/
theorem index_of_matched : other.index = one.index := by
  have bases : (second.carved.map Piece.base).Perm (first.carved.map Piece.base) := by
    unfold View.carved
    rw [List.map_append, List.map_append]
    exact matched.roomy.append matched.full
  have ends : second.ends.Perm first.ends := by
    have moved := bases.map (· + first.blockSize)
    rw [List.map_map, List.map_map] at moved
    unfold View.ends
    rw [matched.blockSize]
    exact moved
  have same := (shown.indexed.trans ends).trans shows.indexed.symm
  -- Both indices are ascending, and two ascending lists of the same numbers are one list.
  exact same.eq_of_pairwise (fun _ _ _ _ less more => absurd more (Nat.lt_asymm less))
    shown.ascending shows.ascending

theorem resident_of_matched : other.resident = one.resident := by
  have told (view : View) :
      (view.resident.map fun piece => (⟨piece.base, piece.shape.size⟩ : Resident)) =
        (view.resident.map Piece.shape).map fun shape => ⟨shape.base, shape.size⟩ := by
    cases view.resident <;> rfl
  rw [shown.resident, shows.resident, told, told, matched.resident]

theorem sizes_of_matched :
    other.blockSize = one.blockSize ∧ other.elementSize = one.elementSize :=
  ⟨(shown.blockSize.trans matched.blockSize).trans shows.blockSize.symm,
    (shown.elementSize.trans matched.elementSize).trans shows.elementSize.symm⟩

theorem rows_of_matched :
    (other.partialSlabs also).Perm (one.partialSlabs memory) ∧
      (other.fullSlabs also).Perm (one.fullSlabs memory) := by
  rw [shown.partialSlabs_eq, shows.partialSlabs_eq, shown.fullSlabs_eq, shows.fullSlabs_eq]
  exact ⟨matched.roomy, matched.full⟩

/-- The carved bytes are those of as many slabs. -/
theorem carvedBytes_of_matched (measured : one.Measured) (measuredToo : other.Measured) :
    other.carvedBytes = one.carvedBytes := by
  have index := shows.index_of_matched shown matched
  rw [measured.carved, measuredToo.carved, (shows.sizes_of_matched shown matched).1]
  exact congrArg (fun index => one.blockSize * List.length index) index

/-- A slab keeps the bookkeeping of the slots that are live. -/
theorem header_of_matched {base : Nat} (known : base ∈ one.bases) :
    Slab.Header.load also base = { Slab.Header.load memory base with
      nextOffset := (Slab.Header.load also base).nextOffset
      freeHead := (Slab.Header.load also base).freeHead } := by
  obtain ⟨piece, member, rfl⟩ := shows.piece_of_base known
  obtain ⟨twin, beside, peer⟩ := matched.pieces piece member
  have load := (shown.sound.held twin beside).load
  rw [peer.base] at load
  rw [load, (shows.sound.held piece member).load]
  unfold Slab.Shape.header
  rw [peer.shape, peer.live]

end

end Shows

end SlabAllocator.ElementPool
