import SlabAllocator.Proofs.ElementPool.Wear

/-! A pool that takes back the element it has just handed out. Whichever slab served the
request, the slabs are the ones they were, the same elements are live, and all slabs but
that one are in the order they were in. `Dealt` is all that matters of the way the element
was handed out. -/
namespace SlabAllocator.ElementPool

/-- A live element begins at this address, as far as memory tells: a slot of the pool that was
handed out at some time, and is not among those that were given back. -/
def InUse (pool : ElementPool) (memory : Memory) (address : Nat) : Prop :=
  ∃ base ∈ pool.bases, Slab.IsSlot memory base address ∧ address ∉ Slab.freeList memory base

theorem Piece.Held.live_iff {piece : Piece} {memory : Memory} (held : piece.Held memory)
    (address : Nat) : piece.Live address ↔
      Slab.IsSlot memory piece.base address ∧ address ∉ Slab.freeList memory piece.base := by
  rw [held.isSlot_iff, held.freeList_eq]
  constructor
  · rintro ⟨slot, live, rfl⟩
    refine ⟨⟨slot, held.partition.lt_used_of_live live, rfl⟩, fun waits => ?_⟩
    obtain ⟨number, freed, same⟩ := List.mem_map.1 waits
    rw [held.usable.slot_inj.1 same] at freed
    exact held.partition.apart slot freed live
  · rintro ⟨⟨slot, used, rfl⟩, taken⟩
    -- A slot in use is live or waits in the free list; this one does not wait.
    rcases (held.partition.used_iff slot).1 used with live | freed
    · exact ⟨slot, live, rfl⟩
    · exact absurd (List.mem_map_of_mem freed) taken

theorem Shows.inUse_iff {pool : ElementPool} {memory : Memory} {view : View}
    (shows : pool.Shows memory view) (address : Nat) :
    pool.InUse memory address ↔ view.Live address := by
  constructor
  · rintro ⟨base, known, use⟩
    obtain ⟨piece, member, rfl⟩ := shows.piece_of_base known
    exact ⟨piece, member, ((shows.sound.held piece member).live_iff address).2 use⟩
  · rintro ⟨piece, member, live⟩
    exact ⟨piece.base, shows.base_of_piece member,
      ((shows.sound.held piece member).live_iff address).1 live⟩

namespace View

variable {view after last : View} {piece fresh : Piece} {memory mid changed : Memory}
  {address slab block : Nat} {come gone : Option Nat}

/-! ## The order of the other slabs -/

/-- Where the slabs of a row begin, but for one of them. -/
def beside (slab : Nat) (row : List Piece) : List Nat :=
  (row.map Piece.base).filter (· ≠ slab)

theorem beside_append (slab : Nat) (front back : List Piece) :
    beside slab (front ++ back) = beside slab front ++ beside slab back := by
  unfold beside
  rw [List.map_append, List.filter_append]

theorem beside_cons_self (piece : Piece) (row : List Piece) :
    beside piece.base (piece :: row) = beside piece.base row := by
  unfold beside
  rw [List.map_cons, List.filter_cons_of_neg (by simp)]

/-- All slabs but one keep their rows, and their order in them. -/
structure OrderBut (slab : Nat) (before after : View) : Prop where
  roomy : beside slab after.roomy = beside slab before.roomy
  full : beside slab after.full = beside slab before.full

theorem OrderBut.trans (first : OrderBut slab view after) (second : OrderBut slab after last) :
    OrderBut slab view last :=
  ⟨second.roomy.trans first.roomy, second.full.trans first.full⟩

theorem Placed.orderBut (placed : view.Placed piece fresh address after) :
    OrderBut piece.base view after := by
  have same : fresh.base = piece.base :=
    congrArg Slab.Shape.base (Piece.shape_of_alloc placed.handed)
  -- Leaving the slab that served out, the two orders agree wherever it ended up.
  have cons (row : List Piece) : beside piece.base (fresh :: row) = beside piece.base row := by
    rw [← same, beside_cons_self]
  cases placed with
  | resident found handed => exact ⟨rfl, rfl⟩
  | filled busy row handed spent =>
    refine ⟨?_, ?_⟩
    · rw [row, beside_cons_self]
    · show beside piece.base (view.full ++ [fresh]) = _
      rw [beside_append, cons]
      exact List.append_nil _
  | stayed busy row handed left =>
    refine ⟨?_, rfl⟩
    show beside piece.base (fresh :: _) = _
    rw [row, beside_cons_self, cons]

theorem Returned.orderBut (returned : view.Returned piece fresh address gone after) :
    OrderBut piece.base view after := by
  obtain ⟨transition, taken⟩ := returned.taken
  have same : fresh.base = piece.base := congrArg Slab.Shape.base (Piece.shape_of_free taken)
  have cons (row : List Piece) : beside piece.base (fresh :: row) = beside piece.base row := by
    rw [← same, beside_cons_self]
  -- The slab that took the element leaves its row, or stays in its place.
  have left (front back : List Piece) : beside piece.base (front ++ back) =
      beside piece.base (front ++ piece :: back) := by
    rw [beside_append, beside_append, beside_cons_self]
  cases returned with
  | resident found taken => exact ⟨rfl, rfl⟩
  | emptiedRoomy row taken => exact ⟨by rw [row]; exact left _ _, rfl⟩
  | emptiedFull row taken => exact ⟨rfl, by rw [row]; exact left _ _⟩
  | reopened row taken =>
    refine ⟨?_, by rw [row]; exact left _ _⟩
    show beside piece.base (view.roomy ++ [fresh]) = _
    rw [beside_append, cons]
    exact List.append_nil _
  | stayed row taken =>
    refine ⟨?_, rfl⟩
    show beside piece.base (_ ++ fresh :: _) = _
    rw [row, ← left, beside_append, cons, ← beside_append]

theorem adopt_orderBut (adopted : view.adopt block = some (address, after)) :
    OrderBut block view after := by
  obtain ⟨fresh, handed, new⟩ := adopt_cases adopted
  obtain rfl : fresh.base = block := congrArg Slab.Shape.base (Piece.shape_of_alloc handed)
  rcases new with ⟨-, rfl⟩ | ⟨-, rfl⟩
  · exact ⟨rfl, beside_cons_self fresh view.full⟩
  · exact ⟨beside_cons_self fresh view.roomy, rfl⟩

/-! ## Handing out -/

/-- An element was handed out by the slab at `slab`, for which a block may have come. -/
structure Dealt (view after : View) (slab address : Nat) (come : Option Nat) : Prop where
  blockSize : after.blockSize = view.blockSize
  elementSize : after.elementSize = view.elementSize
  resident : after.resident.map Piece.shape = view.resident.map Piece.shape
  /-- Every slab was there before, or it lies apart from all that were. -/
  pieces : ∀ piece ∈ after.pieces, (∃ old ∈ view.pieces, piece.shape = old.shape) ∨
    ∀ region ∈ view.regions, piece.shape.region.Apart region
  owner : ∃ piece ∈ after.pieces, piece.base = slab ∧ piece.Live address
  order : OrderBut slab view after
  ends : after.ends.Perm ((come.map (· + view.blockSize)).toList ++ view.ends)
  live : ¬ view.Live address ∧ ∀ other, after.Live other ↔ other = address ∨ view.Live other

theorem Placed.dealt (placed : view.Placed piece fresh address after) (sound : view.Sound memory) :
    view.Dealt after piece.base address none := by
  obtain ⟨others, exchange⟩ := placed.exchange
  have held := sound.held piece placed.mem
  have handed := (held.alloc?_live placed.handed).2.1 address
  refine ⟨placed.blockSize, ?_, ?_, fun other member => .inl ?_,
    ⟨fresh, exchange.after.mem_iff.2 List.mem_cons_self, congrArg Slab.Shape.base exchange.shape,
      handed.2 (.inl rfl)⟩, placed.orderBut, placed.ends, placed.live sound⟩
  · cases placed <;> rfl
  · cases placed with
    | resident found handed =>
      rw [found]
      exact congrArg some exchange.shape
    | filled => rfl
    | stayed => rfl
  · rcases List.mem_cons.1 (exchange.after.mem_iff.1 member) with rfl | old
    · exact ⟨piece, placed.mem, exchange.shape⟩
    · exact ⟨other, exchange.before.mem_iff.2 (List.mem_cons_of_mem _ old), rfl⟩

theorem adopt_dealt {formatted : Memory} (adopted : view.adopt block = some (address, after))
    (sound : view.Sound memory) (made : (view.blank block).Held formatted)
    (apart : ∀ region ∈ view.regions, (view.blank block).shape.region.Apart region) :
    view.Dealt after block address (some block) := by
  obtain ⟨fresh, handed, shape, split⟩ := adopt_perm adopted
  refine ⟨adopt_blockSize adopted, ?_, ?_, fun other member => ?_,
    ⟨fresh, split.mem_iff.2 List.mem_cons_self, congrArg Slab.Shape.base shape,
      ((made.alloc?_live handed).2.1 address).2 (.inl rfl)⟩,
    adopt_orderBut adopted, adopt_ends adopted, adopt_live adopted sound made apart⟩
  · obtain ⟨_, -, ⟨-, rfl⟩ | ⟨-, rfl⟩⟩ := adopt_cases adopted <;> rfl
  · obtain ⟨_, -, ⟨-, rfl⟩ | ⟨-, rfl⟩⟩ := adopt_cases adopted <;> rfl
  · rcases List.mem_cons.1 (split.mem_iff.1 member) with rfl | old
    · rw [shape]
      exact .inr apart
    · exact .inl ⟨other, old, rfl⟩

/-! ## Taking back -/

namespace Dealt

variable (dealt : view.Dealt after slab address come) (sound : view.Sound memory)
  (here : after.Sound mid) (returned : after.Returned piece fresh address gone last)
include dealt here returned

/-- The slab that takes the element back is the one it came from. -/
theorem owner_eq : piece.base = slab := by
  obtain ⟨own, member, rfl, live⟩ := dealt.owner
  obtain ⟨transition, taken⟩ := returned.taken
  have also := ((here.held piece returned.mem).free_live taken).1
  rw [here.unique returned.mem member ((here.held piece returned.mem).contains_of_live also)
    ((here.held own member).contains_of_live live)]

theorem live_iff (other : Nat) : view.Live other ↔ last.Live other := by
  obtain ⟨vacant, handed⟩ := dealt.live
  rw [(returned.live here).2, handed]
  constructor
  · intro live
    refine ⟨?_, .inr live⟩
    rintro rfl
    exact vacant live
  · rintro ⟨different, same | live⟩
    · exact absurd same different
    · exact live

theorem orderBut : OrderBut slab view last := by
  have second := returned.orderBut
  rw [dealt.owner_eq here returned] at second
  exact dealt.order.trans second

include sound

omit here in
/-- The slabs that are left are slabs that were there. -/
theorem kin : view.Kin last where
  blockSize := returned.blockSize.trans dealt.blockSize
  elementSize := returned.worn.elementSize.trans dealt.elementSize
  resident := returned.worn.resident.trans dealt.resident
  shape first member second beside address inside also := by
    obtain ⟨middle, between, shape, -⟩ := returned.worn.pieces second beside
    rw [shape] at also ⊢
    rcases dealt.pieces middle between with ⟨old, known, same⟩ | apart
    · rw [same] at also ⊢
      rw [sound.unique known member also inside]
    · have outside := (apart _ (List.mem_map_of_mem member)).not_contains also
      rw [inside] at outside
      cases outside

/-- The arrangement is the one it was, but for vacant slots and the order of rows. -/
theorem matched (there : last.Sound changed) : view.Matched last :=
  (dealt.kin sound returned).matched sound there (dealt.live_iff here returned)

/-- The block that goes is the one that came. -/
theorem gone_eq (there : last.Sound changed) : gone = come := by
  have matched := dealt.matched sound here returned there
  have left : last.ends.Perm view.ends := by
    have bases := (matched.roomy.append matched.full).map (· + view.blockSize)
    rw [← List.map_append, ← List.map_append, List.map_map, List.map_map] at bases
    unfold View.ends
    rw [matched.blockSize]
    exact bases
  have ends := (returned.ends.symm.trans dealt.ends).trans (left.symm.append_left _)
  rw [dealt.blockSize] at ends
  -- The carved blocks before and after are the same, so what came in is what went out.
  have blocks := (List.perm_append_right_iff _).1 ends
  cases gone with
  | none =>
    cases come with
    | none => rfl
    | some block => exact absurd blocks.length_eq (by simp)
  | some base =>
    cases come with
    | none => exact absurd blocks.length_eq (by simp)
    | some block =>
      have same : base + view.blockSize = block + view.blockSize := by simpa using blocks
      rw [Nat.add_right_cancel same]

end Dealt

end View

/-! ## Pools -/

/-- A pool shows the same again in another memory, but for vacant slots and the place of one
slab in its row. -/
structure Restored (one other : ElementPool) (memory also : Memory) (slab : Nat) : Prop where
  live : ∀ address, other.InUse also address ↔ one.InUse memory address
  resident : other.resident = one.resident
  index : other.index = one.index
  /-- Every slab has the size it had and as many live elements. -/
  headers : ∀ base ∈ one.bases, Slab.Header.load also base = { Slab.Header.load memory base with
    nextOffset := (Slab.Header.load also base).nextOffset
    freeHead := (Slab.Header.load also base).freeHead }
  roomy : (other.partialSlabs also).Perm (one.partialSlabs memory)
  full : (other.fullSlabs also).Perm (one.fullSlabs memory)
  /-- The other slabs are in the order they were in. -/
  roomyOrder :
    (other.partialSlabs also).filter (· ≠ slab) = (one.partialSlabs memory).filter (· ≠ slab)
  fullOrder : (other.fullSlabs also).filter (· ≠ slab) = (one.fullSlabs memory).filter (· ≠ slab)
  allocatedBytes : other.allocatedBytes = one.allocatedBytes
  allocatedBlockBytes : other.allocatedBlockBytes = one.allocatedBlockBytes

namespace Shows

variable {one middle : ElementPool} {freed : Freed} {memory mid : Memory} {view after last : View}
  {piece fresh : Piece} {slab address : Nat} {come : Option Nat} {tally : Tally}

/-- **Handing out and taking back restores a pool.** The block that goes is the one that came. -/
theorem restored (shows : one.Shows memory view) (dealt : view.Dealt after slab address come)
    (counted : one.Counted middle tally (one.carvedBytes + if come.isSome then one.blockSize else 0))
    (handed : tally.live = one.live + 1) (served : middle.Shows mid after)
    (taken : middle.free mid address = .ok freed)
    (returned : after.Returned piece fresh address freed.retired last)
    (shown : freed.pool.Shows freed.memory last) :
    freed.retired = come ∧ one.Restored freed.pool memory freed.memory slab := by
  have gone := dealt.gone_eq shows.sound served.sound returned shown.sound
  have matched := dealt.matched shows.sound served.sound returned shown.sound
  have order := dealt.orderBut served.sound returned
  obtain ⟨roomy, full⟩ := shows.rows_of_matched shown matched
  have resident := shows.resident_of_matched shown matched
  have size := (shows.sizes_of_matched shown matched).2
  -- The counters go up once and down once; neither subtraction is cut short at zero.
  have back := free_counted taken
  have live : freed.pool.live = one.live := by
    have less := congrArg Tally.live back.tally
    rw [Tally.live_free] at less
    have more := (congrArg Tally.live counted.tally).trans handed
    show freed.pool.tally.live = one.live
    omega
  have carved : freed.pool.carvedBytes = one.carvedBytes := by
    rw [back.carvedBytes, counted.carvedBytes, counted.same.blockSize, gone]
    cases come with
    | none => rfl
    | some block => exact Nat.add_sub_cancel _ _
  refine ⟨gone, fun address => ?_, resident, shows.index_of_matched shown matched,
    fun base known => shows.header_of_matched shown matched known, roomy, full, ?_, ?_, ?_, ?_⟩
  · rw [shown.inUse_iff, shows.inUse_iff, dealt.live_iff served.sound returned]
  · rw [shown.partialSlabs_eq, shows.partialSlabs_eq]
    exact order.roomy
  · rw [shown.fullSlabs_eq, shows.fullSlabs_eq]
    exact order.full
  · unfold allocatedBytes
    rw [live, size]
  · unfold allocatedBlockBytes
    rw [resident, carved]

end Shows

end SlabAllocator.ElementPool
