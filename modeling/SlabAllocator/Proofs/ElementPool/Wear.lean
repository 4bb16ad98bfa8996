import SlabAllocator.Proofs.ElementPool.Kinship

/-! What releases leave of a pool, whatever their order. A release wears a slab down and
may make it go, but no slab comes and none is filled. So what is left of a slab is told by
the elements that are live still, and only two orders are left open: that of the slabs with
room, and that of the vacant slots of a slab. -/
namespace SlabAllocator.ElementPool

namespace Piece

variable {piece one other : Piece} {memory also : Memory} {address : Nat}

/-- The same slab later on, with no slot handed out for the first time in between. -/
structure Wears (before after : Piece) : Prop where
  shape : after.shape = before.shape
  unused : after.stack.unused = before.stack.unused

/-- The same slab with the same live slots, and with the same vacant slots in some order. -/
structure Twin (one other : Piece) : Prop extends Peer one other where
  unused : other.stack.unused = one.stack.unused
  freed : other.stack.freed.Perm one.stack.freed

/-- What is live is taken back. -/
theorem free_of_live (held : piece.Held memory) (live : piece.Live address) :
    ∃ transition fresh, piece.free address = .ok (transition, fresh) := by
  obtain ⟨slot, member, rfl⟩ := live
  unfold free Slab.Stack.free
  simp only [held.usable.number_slot, member, and_self, ↓reduceIte]
  exact ⟨_, _, rfl⟩

theorem wears_of_free {transition : Slab.Transition}
    (taken : piece.free address = .ok (transition, other)) : piece.Wears other := by
  obtain ⟨slot, -, -, rfl, -⟩ := free_cases taken
  exact ⟨rfl, rfl⟩

/-- The vacant slots are told by the live ones. -/
theorem Peer.twin (peer : one.Peer other) (held : one.Held memory) (heldToo : other.Held also)
    (unused : other.stack.unused = one.stack.unused) : one.Twin other := by
  have parts := held.partition
  have partsToo := heldToo.partition
  rw [peer.shape] at partsToo
  refine ⟨peer, unused, (List.perm_ext_iff_of_nodup partsToo.once parts.once).2 ?_⟩
  intro slot
  have here := parts.used_iff slot
  have there := partsToo.used_iff slot
  unfold Slab.Stack.used at here there
  rw [unused, peer.live, here] at there
  -- Freed slots are the used ones that are not live, on both sides.
  have apart := parts.apart slot
  have apartToo := partsToo.apart slot
  rw [peer.live] at apartToo
  tauto

end Piece

/-- Two parts of a list without repetitions are the same if they have the same members. -/
theorem eq_of_sublists {α : Type} {whole one other : List α} (once : whole.Nodup)
    (part : one.Sublist whole) (partToo : other.Sublist whole)
    (same : ∀ item, item ∈ one ↔ item ∈ other) : one = other := by
  -- By induction on the list both are drawn from: its head is in both or in neither.
  induction whole generalizing one other with
  | nil => rw [List.sublist_nil.1 part, List.sublist_nil.1 partToo]
  | cons head rest ih =>
    obtain ⟨fresh, once⟩ := List.nodup_cons.1 once
    cases part with
    | cons _ part =>
      cases partToo with
      | cons _ partToo => exact ih once part partToo same
      | cons_cons _ partToo => exact absurd (part.subset ((same head).2 List.mem_cons_self)) fresh
    | cons_cons _ part =>
      cases partToo with
      | cons _ partToo => exact absurd (partToo.subset ((same head).1 List.mem_cons_self)) fresh
      | cons_cons _ partToo =>
        refine congrArg (head :: ·) (ih once part partToo fun item => ?_)
        have here := same item
        rw [List.mem_cons, List.mem_cons] at here
        constructor
        · intro member
          refine (here.1 (.inr member)).resolve_left ?_
          rintro rfl
          exact fresh (part.subset member)
        · intro member
          refine (here.2 (.inr member)).resolve_left ?_
          rintro rfl
          exact fresh (partToo.subset member)

namespace View

variable {view after last : View} {piece fresh : Piece} {memory : Memory} {address : Nat}

/-! ## One release -/

/-- What is live in a pool is taken back. -/
theorem Sound.free_of_live (sound : view.Sound memory) (live : view.Live address) :
    ∃ gone after, view.free address = .ok (gone, after) := by
  obtain ⟨piece, member, live⟩ := live
  have held := sound.held piece member
  have inside := held.contains_of_live live
  obtain ⟨transition, fresh, taken⟩ := Piece.free_of_live held live
  -- Slabs are apart, so the piece the search finds is the one that holds the element.
  rcases view.free_located address with ⟨other, resident, also, answer⟩ |
    ⟨other, carved, also, answer⟩ | ⟨outside, -⟩
  · obtain rfl := sound.unique member (mem_of_resident resident) inside also
    rw [taken] at answer
    exact ⟨_, _, answer⟩
  · obtain rfl := sound.unique member (mem_of_carved carved) inside also
    rw [taken] at answer
    exact ⟨_, _, answer⟩
  · rw [outside piece member] at inside
    cases inside

/-- What is live does not wait in a chain. -/
theorem Sound.visible_of_live (sound : view.Sound memory) (live : view.Live address) :
    ¬ view.Hidden address := by
  rintro ⟨other, beside, hidden⟩
  obtain ⟨piece, member, live⟩ := live
  have held := sound.held piece member
  have heldToo := sound.held other beside
  obtain ⟨slot, freed, rfl⟩ := List.mem_map.1 (List.mem_of_mem_tail hidden)
  have also := heldToo.contains_slot
    (Nat.lt_of_lt_of_le (heldToo.partition.lt_used_of_freed freed) heldToo.partition.used_le)
  -- A slot that is both freed and live would be one slot of one piece.
  obtain rfl := sound.unique member beside (held.contains_of_live live) also
  obtain ⟨number, alive, same⟩ := live
  rw [held.usable.slot_inj.1 same] at freed
  exact held.partition.apart number freed alive

/-- The same pool later on, with nothing handed out in between. -/
structure Worn (before after : View) : Prop where
  blockSize : after.blockSize = before.blockSize
  elementSize : after.elementSize = before.elementSize
  resident : after.resident.map Piece.shape = before.resident.map Piece.shape
  pieces : ∀ piece ∈ after.pieces, ∃ old ∈ before.pieces, old.Wears piece
  full : after.full.Sublist before.full

theorem Worn.refl (view : View) : view.Worn view where
  blockSize := rfl
  elementSize := rfl
  resident := rfl
  pieces := fun piece member => ⟨piece, member, rfl, rfl⟩
  full := .refl _

theorem Worn.trans (first : view.Worn after) (second : after.Worn last) : view.Worn last where
  blockSize := second.blockSize.trans first.blockSize
  elementSize := second.elementSize.trans first.elementSize
  resident := second.resident.trans first.resident
  pieces piece member := by
    obtain ⟨middle, beside, shape, unused⟩ := second.pieces piece member
    obtain ⟨old, its, shapeToo, unusedToo⟩ := first.pieces middle beside
    exact ⟨old, its, shape.trans shapeToo, unused.trans unusedToo⟩
  full := second.full.trans first.full

/-- A release wears one slab down. -/
theorem Returned.worn {gone : Option Nat} (returned : Returned view piece fresh address gone after) :
    view.Worn after := by
  obtain ⟨transition, taken⟩ := returned.taken
  have wears := Piece.wears_of_free taken
  have pieces : ∀ other ∈ after.pieces, ∃ old ∈ view.pieces, old.Wears other := by
    intro other member
    have stays (old : other ∈ view.pieces) : ∃ old ∈ view.pieces, old.Wears other :=
      ⟨other, old, rfl, rfl⟩
    cases gone with
    | none =>
      obtain ⟨others, exchange⟩ := returned.exchange
      rcases List.mem_cons.1 (exchange.after.mem_iff.1 member) with rfl | beside
      · exact ⟨piece, exchange.mem, wears⟩
      · exact stays (exchange.before.mem_iff.2 (List.mem_cons_of_mem _ beside))
    | some base =>
      obtain ⟨-, -, -, split⟩ := returned.departure
      exact stays (split.mem_iff.2 (List.mem_cons_of_mem _ member))
  cases returned with
  | resident found taken =>
    refine ⟨rfl, rfl, ?_, pieces, .refl _⟩
    rw [found]
    exact congrArg some wears.shape
  | emptiedRoomy row taken => exact ⟨rfl, rfl, rfl, pieces, .refl _⟩
  | emptiedFull row taken =>
    refine ⟨rfl, rfl, rfl, pieces, ?_⟩
    rw [row]
    exact (List.Sublist.refl _).append (List.sublist_cons_self _ _)
  | reopened row taken =>
    refine ⟨rfl, rfl, rfl, pieces, ?_⟩
    rw [row]
    exact (List.Sublist.refl _).append (List.sublist_cons_self _ _)
  | stayed row taken => exact ⟨rfl, rfl, rfl, pieces, .refl _⟩

/-! ## Whatever the order -/

/-- Two arrangements that differ in the order of the slabs with room, and in the order of
the vacant slots of slabs. -/
structure Alike (one other : View) : Prop extends Matched one other where
  twins : ∀ piece ∈ one.pieces, ∃ twin ∈ other.pieces, piece.Twin twin
  untouched : other.full = one.full

namespace Worn

variable {one other : View} {mine its : Memory} {first second : Piece}

/-- Slabs that share an address are what became of the same slab. -/
theorem same_slab (sound : view.Sound memory) (worn : view.Worn one) (wornToo : view.Worn other)
    (member : first ∈ one.pieces) (beside : second ∈ other.pieces)
    (inside : first.shape.region.contains address = true)
    (also : second.shape.region.contains address = true) :
    second.shape = first.shape ∧ second.stack.unused = first.stack.unused := by
  obtain ⟨old, known, shape, unused⟩ := worn.pieces first member
  obtain ⟨past, knownToo, shapeToo, unusedToo⟩ := wornToo.pieces second beside
  rw [shape] at inside
  rw [shapeToo] at also
  obtain rfl := sound.unique known knownToo inside also
  exact ⟨shapeToo.trans shape.symm, unusedToo.trans unused.symm⟩

/-- What became of a pool in two ways consists of the same slabs. -/
theorem kin (sound : view.Sound memory) (worn : view.Worn one) (wornToo : view.Worn other) :
    one.Kin other where
  blockSize := wornToo.blockSize.trans worn.blockSize.symm
  elementSize := wornToo.elementSize.trans worn.elementSize.symm
  resident := wornToo.resident.trans worn.resident.symm
  shape _ member _ beside _ inside also :=
    (same_slab sound worn wornToo member beside inside also).1

/-- A slab that was not touched in the one way was not touched in the other. -/
theorem full_subset (sound : view.Sound memory) (worn : view.Worn one) (wornToo : view.Worn other)
    (bases : (one.full.map Piece.base).Perm (other.full.map Piece.base))
    (full : first ∈ one.full) : first ∈ other.full := by
  obtain ⟨second, fullToo, same⟩ :=
    List.mem_map.1 (bases.mem_iff.1 (List.mem_map_of_mem full))
  have known : first ∈ view.pieces := mem_of_carved (carved_of_full (worn.full.subset full))
  have knownToo : second ∈ view.pieces := mem_of_carved (carved_of_full (wornToo.full.subset fullToo))
  rwa [← List.inj_on_of_nodup_map sound.nodup_bases knownToo known same]

/-- **What is live tells the arrangement**, up to the two orders. -/
theorem alike (sound : view.Sound memory) (worn : view.Worn one) (wornToo : view.Worn other)
    (here : one.Sound mine) (there : other.Sound its)
    (same : ∀ address, one.Live address ↔ other.Live address) : one.Alike other := by
  have matched := (worn.kin sound wornToo).matched here there same
  refine ⟨matched, fun piece member => ?_, ?_⟩
  · obtain ⟨twin, beside, peer⟩ := matched.pieces piece member
    have held := here.held piece member
    obtain ⟨address, inside⟩ := held.exists_inside
    have also := inside
    rw [← peer.shape] at also
    have unused := (same_slab sound worn wornToo member beside inside also).2
    exact ⟨twin, beside, peer.twin held (there.held twin beside) unused⟩
  · refine eq_of_sublists (sound.nodup_rows.2.of_map _) wornToo.full worn.full fun piece => ⟨?_, ?_⟩
    · exact wornToo.full_subset sound worn matched.full
    · exact worn.full_subset sound wornToo matched.full.symm

end Worn

end View

/-! ## Pools -/

/-- Two states of a pool, each in its memory, that show the same but for two orders: that of
the slabs with room, and that of the vacant slots in the chains of slabs. -/
structure Reordered (one other : ElementPool) (memory also : Memory) : Prop where
  /-- All gauges, all counters and the index are the same. -/
  fields : other = { one with sentinels := other.sentinels }
  roomy : (other.partialSlabs also).Perm (one.partialSlabs memory)
  full : other.fullSlabs also = one.fullSlabs memory
  /-- Headers are the same but for where the chain begins. -/
  headers : ∀ base ∈ one.bases, Slab.Header.load also base =
    { Slab.Header.load memory base with freeHead := (Slab.Header.load also base).freeHead }
  vacant : ∀ base ∈ one.bases, (Slab.freeList also base).Perm (Slab.freeList memory base)

namespace Reordered

variable {one other : ElementPool} {memory also : Memory}

/-- The statistics do not tell the orders apart. -/
theorem stats (reordered : one.Reordered other memory also) :
    other.stats? also = one.stats? memory := by
  have roomy := reordered.roomy.length_eq
  unfold stats?
  rw [roomy, reordered.full, reordered.fields]
  rfl

end Reordered

namespace Shows

variable {pool one other : ElementPool} {memory also : Memory} {view first second : View}
  {address : Nat}

/-- A pool takes back what is live in it. -/
theorem free_live (shows : pool.Shows memory view) (live : view.Live address) :
    ∃ piece fresh arranged freed, view.Returned piece fresh address freed.retired arranged ∧
      pool.free memory address = .ok freed ∧ freed.pool.Shows freed.memory arranged ∧
      memory.ChangedAmong freed.memory (piece.shape.region :: view.links) := by
  obtain ⟨gone, arranged, answer⟩ := shows.sound.free_of_live live
  obtain ⟨piece, fresh, freed, returned, taken, rfl, shown, within⟩ :=
    shows.free_ok (shows.sound.visible_of_live live) answer
  exact ⟨piece, fresh, arranged, freed, returned, taken, shown, within⟩

/-- What is live waits in no chain of the pool. -/
theorem unchained_of_live (shows : pool.Shows memory view) (live : view.Live address) :
    ∀ base ∈ pool.bases, address ∉ (Slab.freeList memory base).tail := by
  intro base known waits
  obtain ⟨piece, member, rfl⟩ := shows.piece_of_base known
  rw [(shows.sound.held piece member).freeList_eq] at waits
  exact shows.sound.visible_of_live live ⟨piece, member, waits⟩

/-- Arrangements that are told apart by their orders only are those of pools that are. -/
theorem reordered (shows : one.Shows memory first) (shown : other.Shows also second)
    (alike : first.Alike second) (config : other.config = one.config)
    (ready : other.ready = one.ready) (tally : other.tally = one.tally)
    (measured : one.Measured) (measuredToo : other.Measured) : one.Reordered other memory also where
  fields := by
    have matched := alike.toMatched
    obtain ⟨block, element⟩ := shows.sizes_of_matched shown matched
    have resident := shows.resident_of_matched shown matched
    have index := shows.index_of_matched shown matched
    have carved := shows.carvedBytes_of_matched shown matched measured measuredToo
    obtain ⟨⟩ := other
    obtain ⟨⟩ := one
    simp only [ElementPool.tally, Tally.mk.injEq] at *
    grind
  roomy := (shows.rows_of_matched shown alike.toMatched).1
  full := by rw [shown.fullSlabs_eq, shows.fullSlabs_eq, alike.untouched]
  headers := by
    intro base known
    obtain ⟨piece, member, rfl⟩ := shows.piece_of_base known
    obtain ⟨twin, beside, same⟩ := alike.twins piece member
    have load := (shown.sound.held twin beside).load
    rw [same.base] at load
    rw [load, (shows.sound.held piece member).load]
    unfold Slab.Shape.header Slab.Stack.used
    rw [same.shape, same.live, same.unused]
  vacant := by
    intro base known
    obtain ⟨piece, member, rfl⟩ := shows.piece_of_base known
    obtain ⟨twin, beside, same⟩ := alike.twins piece member
    have listed := (shown.sound.held twin beside).freeList_eq
    rw [same.base, same.shape] at listed
    rw [listed]
    refine (same.freed.map _).trans (.of_eq ?_)
    exact (shows.sound.held piece member).freeList_eq.symm

end Shows

end SlabAllocator.ElementPool
