import SlabAllocator.Proofs.ElementPool.Placement

/-! Everything a request can do to the arrangement of a pool. `Placed` lists the
ways an element is handed out by the slabs a pool has, `Returned` the ways one is
taken back. Both exchange a single slab or let one go, so an arrangement stays
sound when memory changes in that slab only. -/
namespace SlabAllocator.ElementPool.View

variable {view after : View} {memory changed : Memory} {piece fresh : Piece} {address : Nat}

/-- Handing out an element of `piece`, which is `fresh` then. -/
inductive Placed (view : View) (piece fresh : Piece) (address : Nat) : View → Prop
  | resident (found : view.resident = some piece)
      (handed : piece.alloc? = some (address, fresh)) :
      Placed view piece fresh address { view with resident := some fresh }
  | filled {rest : List Piece} (busy : view.resident.bind Piece.alloc? = none)
      (row : view.roomy = piece :: rest) (handed : piece.alloc? = some (address, fresh))
      (spent : fresh.count = fresh.capacity) :
      Placed view piece fresh address { view with roomy := rest, full := view.full ++ [fresh] }
  | stayed {rest : List Piece} (busy : view.resident.bind Piece.alloc? = none)
      (row : view.roomy = piece :: rest) (handed : piece.alloc? = some (address, fresh))
      (left : fresh.count ≠ fresh.capacity) :
      Placed view piece fresh address { view with roomy := fresh :: rest }

/-- Taking an element of `piece` back, which is `fresh` then, with the slab whose
block goes back if there is one. -/
inductive Returned (view : View) (piece fresh : Piece) (address : Nat) : Option Nat → View → Prop
  | resident {transition : Slab.Transition} (found : view.resident = some piece)
      (taken : piece.free address = .ok (transition, fresh)) :
      Returned view piece fresh address none { view with resident := some fresh }
  | emptiedRoomy {front back : List Piece} (row : view.roomy = front ++ piece :: back)
      (taken : piece.free address = .ok (.emptied, fresh)) :
      Returned view piece fresh address (some piece.base) { view with roomy := front ++ back }
  | emptiedFull {front back : List Piece} (row : view.full = front ++ piece :: back)
      (taken : piece.free address = .ok (.emptied, fresh)) :
      Returned view piece fresh address (some piece.base) { view with full := front ++ back }
  | reopened {front back : List Piece} (row : view.full = front ++ piece :: back)
      (taken : piece.free address = .ok (.reopened, fresh)) :
      Returned view piece fresh address none
        { view with roomy := view.roomy ++ [fresh], full := front ++ back }
  | stayed {front back : List Piece} (row : view.roomy = front ++ piece :: back)
      (taken : piece.free address = .ok (.unchanged, fresh)) :
      Returned view piece fresh address none { view with roomy := front ++ fresh :: back }

/-- The first slab with a vacant slot, in the order resident slab, slabs with room,
hands out the element. -/
theorem attempt_placed (served : view.attempt = some (address, after)) :
    ∃ piece fresh, Placed view piece fresh address after := by
  unfold attempt at served
  -- The cases follow the order of the attempt: the resident slab, then the first slab with room.
  cases busy : view.resident.bind Piece.alloc? with
  | some result =>
    obtain ⟨found, fresh⟩ := result
    rw [busy] at served
    cases served
    obtain ⟨piece, resident, handed⟩ := Option.bind_eq_some_iff.1 busy
    exact ⟨piece, fresh, .resident resident handed⟩
  | none =>
    rw [busy] at served
    simp only at served
    cases row : view.roomy with
    | nil =>
      rw [row] at served
      cases served
    | cons first rest =>
      rw [row] at served
      simp only at served
      cases handed : first.alloc? with
      | none =>
        rw [handed] at served
        cases served
      | some result =>
        obtain ⟨found, fresh⟩ := result
        rw [handed] at served
        simp only at served
        split at served
        · next spent =>
          cases served
          exact ⟨first, fresh, .filled busy row handed spent⟩
        · next left =>
          cases served
          exact ⟨first, fresh, .stayed busy row handed left⟩

/-! ## One slab for another -/

/-- Two arrangements differ in one slab, which keeps its place. -/
structure Exchange (before after : View) (piece fresh : Piece) (others : List Piece) : Prop where
  shape : fresh.shape = piece.shape
  before : before.pieces.Perm (piece :: others)
  after : after.pieces.Perm (fresh :: others)

theorem perm_roomy (view : View) {front back : List Piece}
    (row : view.roomy = front ++ piece :: back) :
    view.pieces.Perm (piece :: { view with roomy := front ++ back : View }.pieces) := by
  unfold pieces carved
  rw [row]
  simp only [List.append_assoc, List.cons_append]
  rw [← List.append_assoc, ← List.append_assoc]
  exact List.perm_middle

private theorem perm_first (view : View) {rest : List Piece} (row : view.roomy = piece :: rest) :
    view.pieces.Perm (piece :: { view with roomy := rest : View }.pieces) :=
  perm_roomy view (show view.roomy = [] ++ piece :: rest from row)

theorem perm_full (view : View) {front back : List Piece}
    (row : view.full = front ++ piece :: back) :
    view.pieces.Perm (piece :: { view with full := front ++ back : View }.pieces) := by
  unfold pieces carved
  rw [row]
  simp only [← List.append_assoc]
  exact List.perm_middle

theorem Placed.handed (placed : Placed view piece fresh address after) :
    piece.alloc? = some (address, fresh) := by
  cases placed <;> assumption

theorem Returned.taken {gone : Option Nat} (returned : Returned view piece fresh address gone after) :
    ∃ transition, piece.free address = .ok (transition, fresh) := by
  cases returned <;> exact ⟨_, by assumption⟩

/-- An element that is handed out changes one slab, which stays in its place. -/
theorem Placed.exchange (placed : Placed view piece fresh address after) :
    ∃ others, Exchange view after piece fresh others := by
  have same := Piece.shape_of_alloc placed.handed
  cases placed with
  | resident found handed =>
    refine ⟨view.carved, same, ?_, .refl _⟩
    unfold pieces
    rw [found]
    exact .refl _
  | filled busy row handed spent =>
    refine ⟨_, same, perm_first view row, ?_⟩
    unfold pieces carved
    simp only [← List.append_assoc]
    exact List.perm_append_singleton _ _
  | stayed busy row handed left => exact ⟨_, same, perm_first view row, List.perm_middle⟩

/-- An element that comes back without its slab going away changes that slab. -/
theorem Returned.exchange (returned : Returned view piece fresh address none after) :
    ∃ others, Exchange view after piece fresh others := by
  obtain ⟨transition, taken⟩ := returned.taken
  have same := Piece.shape_of_free taken
  cases returned with
  | resident found taken =>
    refine ⟨view.carved, same, ?_, .refl _⟩
    unfold pieces
    rw [found]
    exact .refl _
  | @reopened front back row taken =>
    refine ⟨_, same, perm_full view row, ?_⟩
    unfold pieces carved
    simp only [List.append_assoc, List.cons_append, List.nil_append]
    rw [← List.append_assoc, ← List.append_assoc]
    exact List.perm_middle
  | stayed row taken =>
    exact ⟨_, same, perm_roomy view row, perm_roomy { view with roomy := _ } rfl⟩

/-- A slab that goes away had given back its last element. -/
theorem Returned.departure {base : Nat}
    (returned : Returned view piece fresh address (some base) after) :
    piece ∈ view.carved ∧ piece.base = base ∧ piece.free address = .ok (.emptied, fresh) ∧
      view.pieces.Perm (piece :: after.pieces) := by
  cases returned with
  | emptiedRoomy row taken => exact ⟨by simp [carved, row], rfl, taken, perm_roomy view row⟩
  | emptiedFull row taken => exact ⟨by simp [carved, row], rfl, taken, perm_full view row⟩

/-- Slabs stay where they are when an element is handed out. -/
theorem Placed.shape_of_mem (placed : Placed view piece fresh address after) {other : Piece}
    (member : other ∈ after.pieces) : ∃ old ∈ view.pieces, other.shape = old.shape := by
  obtain ⟨others, shape, before, now⟩ := placed.exchange
  rcases List.mem_cons.1 (now.mem_iff.1 member) with rfl | beside
  · exact ⟨piece, before.mem_iff.2 (by simp), shape⟩
  · exact ⟨other, before.mem_iff.2 (by simp [beside]), rfl⟩

/-- Slabs stay where they are when an element comes back. -/
theorem Returned.shape_of_mem {gone : Option Nat}
    (returned : Returned view piece fresh address gone after) {other : Piece}
    (member : other ∈ after.pieces) : ∃ old ∈ view.pieces, other.shape = old.shape := by
  cases gone with
  | none =>
    obtain ⟨others, shape, before, now⟩ := returned.exchange
    rcases List.mem_cons.1 (now.mem_iff.1 member) with rfl | beside
    · exact ⟨piece, before.mem_iff.2 (by simp), shape⟩
    · exact ⟨other, before.mem_iff.2 (by simp [beside]), rfl⟩
  | some base =>
    obtain ⟨-, -, -, split⟩ := returned.departure
    exact ⟨other, split.mem_iff.2 (by simp [member]), rfl⟩

namespace Exchange

variable {others : List Piece}

theorem mem (exchange : Exchange view after piece fresh others) : piece ∈ view.pieces :=
  exchange.before.mem_iff.2 (by simp)

theorem regions (exchange : Exchange view after piece fresh others) :
    after.regions.Perm view.regions := by
  apply (exchange.after.map _).trans
  rw [List.map_cons, exchange.shape]
  exact (exchange.before.map fun piece : Piece => piece.shape.region).symm

end Exchange

theorem regions_perm {others : List Piece} (split : view.pieces.Perm (piece :: others)) :
    view.regions.Perm (piece.shape.region :: others.map fun piece => piece.shape.region) :=
  split.map _

/-- The slabs beside one of a sound arrangement are apart from it. -/
theorem Sound.others_apart (sound : view.Sound memory) {others : List Piece}
    (split : view.pieces.Perm (piece :: others)) {other : Piece} (member : other ∈ others) :
    piece.shape.region.Apart other.shape.region := by
  have apart := Region.apart_of_perm (regions_perm split) sound.apart
  rw [List.pairwise_cons] at apart
  exact apart.1 _ (List.mem_map_of_mem member)

/-- An arrangement in which one slab was exchanged is sound if memory changed in
that slab only and holds the new state of it. -/
theorem Exchange.sound {others : List Piece} (exchange : Exchange view after piece fresh others)
    (sound : view.Sound memory) (sorted : after.Sorted) (now : fresh.Held changed)
    (within : memory.ChangedWithin changed piece.shape.region) : after.Sound changed := by
  refine ⟨fun other member => ?_, Region.apart_of_perm exchange.regions.symm sound.apart, sorted⟩
  rcases List.mem_cons.1 (exchange.after.mem_iff.1 member) with rfl | beside
  · exact now
  · have held := sound.held other (exchange.before.mem_iff.2 (by simp [beside]))
    exact Slab.Holds.of_agree held (within.agree (sound.others_apart exchange.before beside))

/-- An arrangement from which one slab went is sound if memory changed in that slab only. -/
theorem Sound.departure (sound : view.Sound memory)
    (split : view.pieces.Perm (piece :: after.pieces)) (sorted : after.Sorted)
    (within : memory.ChangedWithin changed piece.shape.region) : after.Sound changed := by
  refine ⟨fun other member => ?_, ?_, sorted⟩
  · have held := sound.held other (split.mem_iff.2 (by simp [member]))
    exact Slab.Holds.of_agree held (within.agree (sound.others_apart split member))
  · have apart := Region.apart_of_perm (regions_perm split) sound.apart
    rw [List.pairwise_cons] at apart
    exact apart.2

/-! ## Rows -/

theorem Exchange.elements {others : List Piece} (exchange : Exchange view after piece fresh others)
    (sorted : view.Sorted) : ∀ other ∈ after.pieces, other.shape.elementSize = view.elementSize := by
  intro other member
  rcases List.mem_cons.1 (exchange.after.mem_iff.1 member) with rfl | beside
  · rw [exchange.shape]
    exact sorted.elements piece exchange.mem
  · exact sorted.elements other (exchange.before.mem_iff.2 (by simp [beside]))

/-- Carved slabs keep the size they were carved in when an element is handed out. -/
private theorem Placed.blocks (placed : Placed view piece fresh address after)
    (sorted : view.Sorted) : ∀ other ∈ after.carved, other.shape.size = after.blockSize := by
  have same := Piece.shape_of_alloc placed.handed
  have blocks := sorted.blocks
  cases placed with
  | resident found handed => exact blocks
  | filled busy row handed spent | stayed busy row handed left =>
    simp only [carved, row] at blocks ⊢
    grind

/-- Carved slabs keep the size they were carved in when an element comes back. -/
private theorem Returned.blocks {gone : Option Nat}
    (returned : Returned view piece fresh address gone after) (sorted : view.Sorted) :
    ∀ other ∈ after.carved, other.shape.size = after.blockSize := by
  obtain ⟨transition, taken⟩ := returned.taken
  have same := Piece.shape_of_free taken
  have blocks := sorted.blocks
  cases returned with
  | resident found taken => exact blocks
  | emptiedRoomy row taken | emptiedFull row taken | reopened row taken | stayed row taken =>
    simp only [carved, row] at blocks ⊢
    grind

theorem Placed.sorted (placed : Placed view piece fresh address after) (sound : view.Sound memory) :
    after.Sorted := by
  have sorted := sound.sorted
  obtain ⟨-, -, roomy, full⟩ := id sorted
  obtain ⟨others, exchange⟩ := placed.exchange
  have sizes := exchange.elements sorted
  have blocks := placed.blocks sorted
  cases placed with
  | resident found handed => exact ⟨sizes, blocks, roomy, full⟩
  | filled busy row handed spent =>
    rw [row] at roomy
    refine ⟨sizes, blocks, fun other member => roomy other (by simp [member]),
      fun other member => ?_⟩
    -- The slab that was filled went to the back of the full row.
    rcases List.mem_append.1 member with inFull | last
    · exact full other inFull
    · rw [List.mem_singleton.1 last]
      exact spent
  | stayed busy row handed left =>
    -- The slab kept its place: it counts one slot more and is not full, so it still has room.
    have held := sound.held piece (by simp [pieces, carved, row])
    have grown := held.count_of_alloc handed
    rw [row] at roomy
    refine ⟨sizes, blocks, fun other member => ?_, full⟩
    rcases List.mem_cons.1 member with rfl | inRoomy
    · omega
    · exact roomy other (by simp [inRoomy])

theorem Returned.sorted {gone : Option Nat}
    (returned : Returned view piece fresh address gone after) (sound : view.Sound memory) : after.Sorted := by
  have sorted := sound.sorted
  obtain ⟨elements, -, roomy, full⟩ := id sorted
  have sizes : ∀ other ∈ after.pieces, other.shape.elementSize = view.elementSize := by
    cases gone with
    | none =>
      obtain ⟨others, exchange⟩ := returned.exchange
      exact exchange.elements sorted
    | some base =>
      obtain ⟨-, -, -, split⟩ := returned.departure
      exact fun other member => elements other (split.mem_iff.2 (by simp [member]))
  have blocks := returned.blocks sorted
  cases returned with
  | resident found taken => exact ⟨sizes, blocks, roomy, full⟩
  | emptiedRoomy row taken =>
    refine ⟨sizes, blocks, fun other member => roomy other ?_, full⟩
    simp only [row, List.mem_append, List.mem_cons] at member ⊢
    tauto
  | emptiedFull row taken =>
    refine ⟨sizes, blocks, roomy, fun other member => full other ?_⟩
    simp only [row, List.mem_append, List.mem_cons] at member ⊢
    tauto
  | reopened row taken =>
    have held := sound.held piece (by simp [pieces, carved, row])
    have spent := full piece (by simp [row])
    have shrunk := held.count_of_reopened taken
    refine ⟨sizes, blocks, fun other member => ?_, fun other member => full other ?_⟩
    · rcases List.mem_append.1 member with inRoomy | last
      · exact roomy other inRoomy
      · rw [List.mem_singleton.1 last]
        exact shrunk
    · simp only [row, List.mem_append, List.mem_cons] at member ⊢
      tauto
  | stayed row taken =>
    have held := sound.held piece (by simp [pieces, carved, row])
    -- A slab that gave up a slot without becoming empty still has one in use.
    have some := roomy piece (by simp [row])
    have shrunk := held.count_of_unchanged taken
    refine ⟨sizes, blocks, fun other member => ?_, full⟩
    simp only [List.mem_append, List.mem_cons] at member
    rcases member with inFront | rfl | inBack
    · exact roomy other (by simp [row, inFront])
    · exact shrunk
    · exact roomy other (by simp [row, inBack])

/-- Handing out keeps an arrangement sound. -/
theorem Placed.sound (placed : Placed view piece fresh address after) (sound : view.Sound memory)
    (now : fresh.Held changed) (within : memory.ChangedWithin changed piece.shape.region) :
    after.Sound changed := by
  obtain ⟨others, exchange⟩ := placed.exchange
  exact exchange.sound sound (placed.sorted sound) now within

theorem Placed.mem (placed : Placed view piece fresh address after) : piece ∈ view.pieces := by
  obtain ⟨others, exchange⟩ := placed.exchange
  exact exchange.mem

/-- The element that is handed out lies in its slab. -/
theorem Placed.element_within (placed : Placed view piece fresh address after)
    (sound : view.Sound memory) :
    Region.Within ⟨address, view.elementSize⟩ piece.shape.region := by
  obtain ⟨slot, stack, taken, rfl, rfl⟩ := Piece.alloc?_cases placed.handed
  have held := sound.held piece placed.mem
  rw [← sound.sorted.elements piece placed.mem]
  exact (Slab.Holds.slot_within held.usable (held.partition.alloc?_live taken).2.1).trans
    (Slab.Holds.body_within held.usable)

theorem Placed.regions (placed : Placed view piece fresh address after) :
    after.regions.Perm view.regions := by
  obtain ⟨others, exchange⟩ := placed.exchange
  exact exchange.regions

theorem Placed.elementSize (placed : Placed view piece fresh address after) :
    after.elementSize = view.elementSize := by
  cases placed <;> rfl

theorem Placed.blockSize (placed : Placed view piece fresh address after) :
    after.blockSize = view.blockSize := by
  cases placed <;> rfl

theorem Placed.ends (placed : Placed view piece fresh address after) :
    after.ends.Perm view.ends := by
  have same : fresh.base = piece.base := congrArg Slab.Shape.base (Piece.shape_of_alloc placed.handed)
  cases placed with
  | resident found handed => exact .refl _
  | filled busy row handed spent =>
    unfold View.ends carved
    simp only [row, List.map_append, List.map_cons, List.map_nil, same, ← List.append_assoc]
    exact List.perm_append_singleton _ _
  | stayed busy row handed left =>
    unfold View.ends carved
    simp only [row, List.map_append, List.map_cons, same]
    exact .refl _

/-- The pool has as many carved slabs as before. -/
theorem Placed.length_carved (placed : Placed view piece fresh address after) :
    after.carved.length = view.carved.length := by
  rw [← View.length_ends, ← View.length_ends, placed.ends.length_eq]

/-- Taking back keeps an arrangement sound. -/
theorem Returned.sound {gone : Option Nat} (returned : Returned view piece fresh address gone after)
    (sound : view.Sound memory) (now : gone = none → fresh.Held changed)
    (within : memory.ChangedWithin changed piece.shape.region) : after.Sound changed := by
  have sorted := returned.sorted sound
  cases gone with
  | none =>
    obtain ⟨others, exchange⟩ := returned.exchange
    exact exchange.sound sound sorted (now rfl) within
  | some base =>
    obtain ⟨-, -, -, split⟩ := returned.departure
    exact sound.departure split sorted within

theorem Returned.mem {gone : Option Nat} (returned : Returned view piece fresh address gone after) :
    piece ∈ view.pieces := by
  cases gone with
  | none =>
    obtain ⟨others, exchange⟩ := returned.exchange
    exact exchange.mem
  | some base =>
    obtain ⟨carved, -⟩ := returned.departure
    exact mem_of_carved carved

/-- The ranges of the slabs are the same again, but for a slab that went away. -/
theorem Returned.regions {gone : Option Nat}
    (returned : Returned view piece fresh address gone after) (sound : view.Sound memory) :
    view.regions.Perm
      ((gone.map fun base => ⟨base, view.blockSize⟩).toList ++ after.regions) := by
  cases gone with
  | none =>
    obtain ⟨others, exchange⟩ := returned.exchange
    exact exchange.regions.symm
  | some base =>
    obtain ⟨carved, rfl, -, split⟩ := returned.departure
    have size := sound.sorted.blocks piece carved
    rw [← size]
    exact regions_perm split

theorem Returned.blockSize {gone : Option Nat}
    (returned : Returned view piece fresh address gone after) :
    after.blockSize = view.blockSize := by
  cases returned <;> rfl

theorem Returned.ends {gone : Option Nat}
    (returned : Returned view piece fresh address gone after) :
    view.ends.Perm ((gone.map fun base => base + view.blockSize).toList ++ after.ends) := by
  obtain ⟨transition, taken⟩ := returned.taken
  have same : fresh.base = piece.base := congrArg Slab.Shape.base (Piece.shape_of_free taken)
  cases returned with
  | resident found taken => exact .refl _
  | emptiedRoomy row taken =>
    unfold View.ends carved
    simp only [row, List.map_append, List.map_cons, List.append_assoc, List.cons_append]
    exact List.perm_middle
  | emptiedFull row taken =>
    unfold View.ends carved
    simp only [row, List.map_append, List.map_cons, ← List.append_assoc]
    exact List.perm_middle
  | reopened row taken =>
    unfold View.ends carved
    simp only [row, List.map_append, List.map_cons, same, List.append_assoc, List.cons_append,
      List.nil_append]
    apply List.Perm.append_left
    exact List.perm_middle
  | stayed row taken =>
    unfold View.ends carved
    simp only [row, List.map_append, List.map_cons, same]
    exact .refl _

/-! ## Live elements -/

theorem live_iff_of_perm {others : List Piece} (split : view.pieces.Perm (piece :: others))
    (other : Nat) : view.Live other ↔ piece.Live other ∨ ∃ beside ∈ others, beside.Live other := by
  unfold Live
  constructor
  · rintro ⟨owner, member, live⟩
    rcases List.mem_cons.1 (split.mem_iff.1 member) with rfl | beside
    · exact .inl live
    · exact .inr ⟨owner, beside, live⟩
  · rintro (live | ⟨beside, member, live⟩)
    · exact ⟨piece, split.mem_iff.2 (by simp), live⟩
    · exact ⟨beside, split.mem_iff.2 (by simp [member]), live⟩

/-- An address in one slab is no element of the slabs beside it. -/
theorem Sound.not_live_beside (sound : view.Sound memory) {others : List Piece}
    (split : view.pieces.Perm (piece :: others))
    (inside : piece.shape.region.contains address = true) :
    ¬ ∃ beside ∈ others, beside.Live address := by
  rintro ⟨beside, member, live⟩
  have held := sound.held beside (split.mem_iff.2 (by simp [member]))
  have outside := (sound.others_apart split member).not_contains inside
  rw [held.contains_of_live live] at outside
  cases outside

/-- The element handed out was not live, and exactly it becomes live. -/
theorem Placed.live (placed : Placed view piece fresh address after) (sound : view.Sound memory) :
    ¬ view.Live address ∧ ∀ other, after.Live other ↔ other = address ∨ view.Live other := by
  obtain ⟨others, exchange⟩ := placed.exchange
  have handed := placed.handed
  have held := sound.held piece exchange.mem
  obtain ⟨vacant, live, -⟩ := held.alloc?_live handed
  have inside := held.contains_of_alloc handed
  constructor
  · rw [live_iff_of_perm exchange.before]
    exact not_or.2 ⟨vacant, sound.not_live_beside exchange.before inside⟩
  · intro other
    rw [live_iff_of_perm exchange.after, live_iff_of_perm exchange.before, live, or_assoc]

/-- The element taken back was live, and exactly it stops being live. -/
theorem Returned.live {gone : Option Nat} (returned : Returned view piece fresh address gone after)
    (sound : view.Sound memory) :
    view.Live address ∧ ∀ other, after.Live other ↔ other ≠ address ∧ view.Live other := by
  -- The slabs are apart, so a live element of another slab is at another address.
  have elsewhere : ∀ {piece : Piece} {others : List Piece}, view.pieces.Perm (piece :: others) →
      piece.Live address → ∀ beside ∈ others, ∀ other, beside.Live other → other ≠ address := by
    rintro piece others split live beside member _ also rfl
    have held := sound.held piece (split.mem_iff.2 (by simp))
    exact sound.not_live_beside split (held.contains_of_live live) ⟨beside, member, also⟩
  cases gone with
  | none =>
    obtain ⟨others, exchange⟩ := returned.exchange
    obtain ⟨transition, taken⟩ := returned.taken
    obtain ⟨live, left, -⟩ := (sound.held piece exchange.mem).free_live taken
    refine ⟨⟨piece, exchange.mem, live⟩, fun other => ?_⟩
    rw [live_iff_of_perm exchange.after, live_iff_of_perm exchange.before, left]
    constructor
    · rintro (⟨different, inside⟩ | ⟨beside, member, also⟩)
      · exact ⟨different, .inl inside⟩
      · exact ⟨elsewhere exchange.before live beside member other also, .inr ⟨beside, member, also⟩⟩
    · rintro ⟨different, inside | also⟩
      · exact .inl ⟨different, inside⟩
      · exact .inr also
  | some base =>
    obtain ⟨-, -, taken, split⟩ := returned.departure
    have member : piece ∈ view.pieces := split.mem_iff.2 (by simp)
    obtain ⟨live, left, -⟩ := (sound.held piece member).free_live taken
    refine ⟨⟨piece, member, live⟩, fun other => ?_⟩
    rw [live_iff_of_perm split]
    constructor
    · rintro ⟨beside, inside, also⟩
      exact ⟨elsewhere split live beside inside other also, .inr ⟨beside, inside, also⟩⟩
    · rintro ⟨different, inside | also⟩
      · exact absurd ((left other).2 ⟨different, inside⟩) (Piece.not_live_of_emptied taken other)
      · exact also

/-- A live element lies in a slab. -/
theorem Sound.live_within (sound : view.Sound memory) (live : view.Live address) :
    ∃ region ∈ view.regions, Region.Within ⟨address, view.elementSize⟩ region := by
  obtain ⟨piece, member, slot, inside, rfl⟩ := live
  have held := sound.held piece member
  refine ⟨piece.shape.region, List.mem_map_of_mem member, ?_⟩
  rw [← sound.sorted.elements piece member]
  exact Slab.Holds.element_within held (held.partition.lt_used_of_live inside)

/-- Live elements of an arrangement do not overlap. -/
theorem Sound.elements_apart {other : Nat} (sound : view.Sound memory) (live : view.Live address)
    (also : view.Live other) (different : address ≠ other) :
    Region.Apart ⟨address, view.elementSize⟩ ⟨other, view.elementSize⟩ := by
  obtain ⟨piece, member, slot, inside, rfl⟩ := live
  obtain ⟨beside, memberToo, slotToo, insideToo, rfl⟩ := also
  have held := sound.held piece member
  have heldToo := sound.held beside memberToo
  -- Two slots of one slab differ in number; two slabs differ in the bytes they stand on.
  by_cases same : piece = beside
  · subst same
    rw [← sound.sorted.elements piece member]
    exact piece.shape.slot_apart fun equal => different (congrArg piece.shape.slot equal)
  · have within := Slab.Holds.element_within held (held.partition.lt_used_of_live inside)
    have withinToo :=
      Slab.Holds.element_within heldToo (heldToo.partition.lt_used_of_live insideToo)
    rw [sound.sorted.elements piece member] at within
    rw [sound.sorted.elements beside memberToo] at withinToo
    exact (Region.apart_of_mem sound.apart member memberToo same).within within withinToo

/-- What an owner writes into an element stays within its slab, behind the links, and the
slab holds what it held. -/
theorem Sound.write_live {region : Region} (sound : view.Sound memory) (live : view.Live address)
    (within : region.Within ⟨address, view.elementSize⟩)
    (written : memory.ChangedWithin changed region) :
    view.Sound changed ∧ ∃ piece ∈ view.pieces, memory.ChangedWithin changed piece.shape.body := by
  obtain ⟨piece, member, slot, inside, rfl⟩ := live
  have held := sound.held piece member
  rw [← sound.sorted.elements piece member] at within
  have confined : memory.ChangedWithin changed piece.shape.body :=
    (written.mono within).mono (Slab.Holds.slot_within held.usable
      (held.lt_capacity (held.partition.lt_used_of_live inside)))
  refine ⟨⟨fun other beside => ?_, sound.apart, sound.sorted⟩, piece, member, confined⟩
  -- The written slab keeps what its header says, every other slab keeps its bytes.
  by_cases same : other = piece
  · subst same
    exact Slab.Holds.write_live held inside within written
  · have apart := Region.apart_of_mem sound.apart member beside fun equal => same equal.symm
    exact Slab.Holds.of_agree (sound.held other beside)
      ((confined.mono (Slab.Holds.body_within held.usable)).agree apart)

/-! ## Taking back, slab by slab -/

private theorem without_absent {base : Nat} {row : List Piece}
    (absent : ∀ piece ∈ row, piece.base ≠ base) : without base row = row := by
  unfold without
  rw [List.filter_eq_self]
  exact fun piece member => decide_eq_true (absent piece member)

private theorem without_split {front back : List Piece}
    (beside : ∀ other ∈ front ++ back, other.base ≠ piece.base) :
    without piece.base (front ++ piece :: back) = front ++ back := by
  have before := without_absent fun other member => beside other (List.mem_append_left back member)
  have behind := without_absent fun other member => beside other (List.mem_append_right front member)
  unfold without at before behind ⊢
  rw [List.filter_append, List.filter_cons_of_neg (by simp), before, behind]

private theorem replace_absent {row : List Piece}
    (absent : ∀ piece ∈ row, piece.base ≠ fresh.base) : replace fresh row = row := by
  unfold replace
  rw [List.map_congr_left fun other member => if_neg (absent other member)]
  exact List.map_id _

private theorem replace_split {front back : List Piece} (same : fresh.base = piece.base)
    (beside : ∀ other ∈ front ++ back, other.base ≠ piece.base) :
    replace fresh (front ++ piece :: back) = front ++ fresh :: back := by
  rw [← same] at beside
  have before := replace_absent fun other member => beside other (List.mem_append_left back member)
  have behind := replace_absent fun other member => beside other (List.mem_append_right front member)
  unfold replace at before behind ⊢
  rw [List.map_append, List.map_cons, if_pos same.symm, before, behind]

/-- The slabs beside one of a sound arrangement begin elsewhere. -/
theorem Sound.other_base (sound : view.Sound memory) {others : List Piece}
    (split : view.pieces.Perm (piece :: others)) {other : Piece} (member : other ∈ others) :
    other.base ≠ piece.base := by
  intro same
  have apart := sound.others_apart split member
  have mine := (sound.held piece (split.mem_iff.2 (by simp))).usable
  have its := (sound.held other (split.mem_iff.2 (by simp [member]))).usable
  exact (mine.different_of_apart its apart).1 same.symm

private theorem settle_roomy {front back : List Piece} {transition : Slab.Transition}
    (sound : view.Sound memory) (row : view.roomy = front ++ piece :: back)
    (taken : piece.free address = .ok (transition, fresh)) :
    Returned view piece fresh address (view.settle fresh transition).1 (view.settle fresh transition).2 := by
  have same : fresh.base = piece.base := congrArg Slab.Shape.base (Piece.shape_of_free taken)
  obtain ⟨slot, live, -, -, kind, -⟩ := Piece.free_cases taken
  have split := perm_roomy view row
  have beside : ∀ other ∈ front ++ back, other.base ≠ piece.base := by
    intro other member
    refine sound.other_base split ?_
    unfold pieces carved
    simp only [List.mem_append] at member ⊢
    tauto
  have elsewhere : ∀ other ∈ view.full, other.base ≠ piece.base := by
    intro other member
    refine sound.other_base split ?_
    simp [pieces, carved, member]
  -- Bases are distinct, so taking a base out of a row takes this slab and no other.
  cases transition with
  | emptied =>
    simp only [settle, same, row, without_split beside, without_absent elsewhere]
    exact .emptiedRoomy row taken
  | reopened =>
    -- Only a full slab is reopened, and this one stood in the row of those with room.
    have room := sound.sorted.roomy piece (by simp [row])
    have full := (Slab.Stack.transition_eq_reopened_iff.1 kind.symm).1
    exact absurd full (Nat.ne_of_lt room.2)
  | unchanged =>
    rw [← same] at elsewhere
    simp only [settle, row, replace_split same beside, replace_absent elsewhere]
    exact .stayed row taken

private theorem settle_full {front back : List Piece} {transition : Slab.Transition}
    (sound : view.Sound memory) (row : view.full = front ++ piece :: back)
    (taken : piece.free address = .ok (transition, fresh)) :
    Returned view piece fresh address (view.settle fresh transition).1 (view.settle fresh transition).2 := by
  have same : fresh.base = piece.base := congrArg Slab.Shape.base (Piece.shape_of_free taken)
  obtain ⟨slot, live, -, -, kind, -⟩ := Piece.free_cases taken
  have split := perm_full view row
  have beside : ∀ other ∈ front ++ back, other.base ≠ piece.base := by
    intro other member
    refine sound.other_base split ?_
    unfold pieces carved
    simp only [List.mem_append] at member ⊢
    tauto
  have elsewhere : ∀ other ∈ view.roomy, other.base ≠ piece.base := by
    intro other member
    refine sound.other_base split ?_
    simp [pieces, carved, member]
  cases transition with
  | emptied =>
    simp only [settle, same, row, without_split beside, without_absent elsewhere]
    exact .emptiedFull row taken
  | reopened =>
    simp only [settle, same, row, without_split beside, without_absent elsewhere]
    exact .reopened row taken
  | unchanged =>
    have spent : piece.stack.live.card = piece.shape.capacity :=
      sound.sorted.full piece (by simp [row])
    unfold Slab.Stack.transition at kind
    rw [if_pos spent] at kind
    split at kind <;> cases kind

/-- Whose element an address is: that of the resident slab, that of a carved slab,
or nobody's. -/
theorem free_located (view : View) (address : Nat) :
    (∃ piece, view.resident = some piece ∧ piece.shape.region.contains address = true ∧
      view.free address = (piece.free address).map fun (_, piece) =>
        (none, { view with resident := some piece })) ∨
    (∃ piece ∈ view.carved, piece.shape.region.contains address = true ∧
      view.free address = (piece.free address).map fun (transition, piece) =>
        view.settle piece transition) ∨
    ((∀ piece ∈ view.pieces, piece.shape.region.contains address = false) ∧
      view.free address = .error (.foreignPointer address)) := by
  unfold free
  cases found : view.resident.filter fun piece => piece.shape.region.contains address with
  | some piece =>
    obtain ⟨resident, inside⟩ := Option.filter_eq_some_iff.1 found
    exact .inl ⟨piece, resident, inside, rfl⟩
  | none =>
    simp only
    cases owner : view.carved.find? fun piece => piece.shape.region.contains address with
    | some piece =>
      have inside : piece.shape.region.contains address = true := by
        simpa using List.find?_some owner
      exact .inr (.inl ⟨piece, List.mem_of_find?_eq_some owner, inside, rfl⟩)
    | none =>
      refine .inr (.inr ⟨fun piece member => ?_, rfl⟩)
      rcases List.mem_append.1 member with resident | carved
      · rw [Option.filter_eq_none_iff] at found
        simpa using found piece (by simpa using resident)
      · simpa using List.find?_eq_none.1 owner piece carved

/-- What the arrangement takes back, it takes back in one of five ways. -/
theorem free_returned {gone : Option Nat} (sound : view.Sound memory)
    (freed : view.free address = .ok (gone, after)) :
    ∃ piece fresh, Returned view piece fresh address gone after := by
  rcases view.free_located address with ⟨piece, resident, -, answer⟩ | ⟨piece, carved, -, answer⟩ |
    ⟨-, answer⟩
  · rw [freed] at answer
    cases taken : piece.free address with
    | error fault =>
      rw [taken] at answer
      cases answer
    | ok result =>
      obtain ⟨transition, fresh⟩ := result
      rw [taken] at answer
      cases answer
      exact ⟨piece, fresh, .resident resident taken⟩
  · rw [freed] at answer
    cases taken : piece.free address with
    | error fault =>
      rw [taken] at answer
      cases answer
    | ok result =>
      obtain ⟨transition, fresh⟩ := result
      rw [taken] at answer
      simp only [Except.map, Except.ok.injEq] at answer
      rcases List.mem_append.1 carved with inRoomy | inFull
      · obtain ⟨front, back, row⟩ := List.append_of_mem inRoomy
        have returned := settle_roomy sound row taken
        rw [← answer] at returned
        exact ⟨piece, fresh, returned⟩
      · obtain ⟨front, back, row⟩ := List.append_of_mem inFull
        have returned := settle_full sound row taken
        rw [← answer] at returned
        exact ⟨piece, fresh, returned⟩
  · rw [freed] at answer
    cases answer

/-! ## New slabs -/

/-- A block becomes a slab in one of the two rows. -/
theorem adopt_cases {block : Nat} (adopted : view.adopt block = some (address, after)) :
    ∃ fresh, (view.blank block).alloc? = some (address, fresh) ∧
      (fresh.count = fresh.capacity ∧ after = { view with full := fresh :: view.full } ∨
        fresh.count ≠ fresh.capacity ∧ after = { view with roomy := fresh :: view.roomy }) := by
  unfold adopt at adopted
  cases handed : (view.blank block).alloc? with
  | none =>
    rw [handed] at adopted
    cases adopted
  | some result =>
    obtain ⟨found, fresh⟩ := result
    rw [handed] at adopted
    simp only [Option.map_some, Option.some.injEq, Prod.mk.injEq] at adopted
    obtain ⟨rfl, rfl⟩ := adopted
    refine ⟨fresh, rfl, ?_⟩
    by_cases spent : fresh.count = fresh.capacity
    · rw [if_pos spent]
      exact .inl ⟨spent, rfl⟩
    · rw [if_neg spent]
      exact .inr ⟨spent, rfl⟩

/-- The resident slab stays, and there is one carved slab more. -/
theorem adopt_carved {block : Nat} (adopted : view.adopt block = some (address, after)) :
    ∃ fresh, (view.blank block).alloc? = some (address, fresh) ∧
      fresh.shape = (view.blank block).shape ∧ after.resident = view.resident ∧
      after.carved.Perm (fresh :: view.carved) := by
  obtain ⟨fresh, handed, ⟨-, rfl⟩ | ⟨-, rfl⟩⟩ := adopt_cases adopted
  · exact ⟨fresh, handed, Piece.shape_of_alloc handed, rfl, List.perm_middle⟩
  · exact ⟨fresh, handed, Piece.shape_of_alloc handed, rfl, .refl _⟩

theorem adopt_perm {block : Nat} (adopted : view.adopt block = some (address, after)) :
    ∃ fresh, (view.blank block).alloc? = some (address, fresh) ∧
      fresh.shape = (view.blank block).shape ∧ after.pieces.Perm (fresh :: view.pieces) := by
  obtain ⟨fresh, handed, shape, resident, carved⟩ := adopt_carved adopted
  refine ⟨fresh, handed, shape, ?_⟩
  unfold pieces
  rw [resident]
  exact (carved.append_left _).trans List.perm_middle

theorem adopt_regions {block : Nat} (adopted : view.adopt block = some (address, after)) :
    after.regions.Perm ((view.blank block).shape.region :: view.regions) := by
  obtain ⟨fresh, handed, shape, split⟩ := adopt_perm adopted
  rw [← shape]
  exact regions_perm split

theorem adopt_blockSize {block : Nat} (adopted : view.adopt block = some (address, after)) :
    after.blockSize = view.blockSize := by
  obtain ⟨fresh, handed, ⟨-, rfl⟩ | ⟨-, rfl⟩⟩ := adopt_cases adopted <;> rfl

theorem adopt_elementSize {block : Nat} (adopted : view.adopt block = some (address, after)) :
    after.elementSize = view.elementSize := by
  obtain ⟨fresh, handed, ⟨-, rfl⟩ | ⟨-, rfl⟩⟩ := adopt_cases adopted <;> rfl

theorem adopt_resident {block : Nat} (adopted : view.adopt block = some (address, after)) :
    after.resident = view.resident := by
  obtain ⟨fresh, handed, ⟨-, rfl⟩ | ⟨-, rfl⟩⟩ := adopt_cases adopted <;> rfl

/-- The first element of a block lies in the block. -/
theorem blank_within {block : Nat} (usable : (view.blank block).shape.Usable)
    (held : (view.blank block).Held memory)
    (handed : (view.blank block).alloc? = some (address, fresh)) :
    Region.Within ⟨address, view.elementSize⟩ ⟨block, view.blockSize⟩ := by
  obtain ⟨slot, stack, taken, rfl, -⟩ := Piece.alloc?_cases handed
  exact (Slab.Holds.slot_within usable (held.partition.alloc?_live taken).2.1).trans
    (Slab.Holds.body_within usable)

/-- The links of the pool are those of its slabs so far and those of the new one. -/
theorem adopt_links {block : Nat} (adopted : view.adopt block = some (address, after)) :
    after.links.Perm (Slab.linkRegion block :: view.links) := by
  obtain ⟨fresh, -, shape, -, carved⟩ := adopt_carved adopted
  have same : fresh.base = block := congrArg Slab.Shape.base shape
  have links := carved.map fun piece => Slab.linkRegion piece.base
  rwa [List.map_cons, same] at links

theorem adopt_ends {block : Nat} (adopted : view.adopt block = some (address, after)) :
    after.ends.Perm ((block + view.blockSize) :: view.ends) := by
  obtain ⟨fresh, -, shape, -, carved⟩ := adopt_carved adopted
  have same : fresh.base = block := congrArg Slab.Shape.base shape
  have ends := carved.map fun piece => piece.base + view.blockSize
  rw [List.map_cons, same] at ends
  unfold View.ends
  rwa [adopt_blockSize adopted]

/-- The pool has one carved slab more. -/
theorem length_carved_of_adopt {block : Nat} (adopted : view.adopt block = some (address, after)) :
    after.carved.length = view.carved.length + 1 := by
  rw [← View.length_ends, ← View.length_ends, (adopt_ends adopted).length_eq, List.length_cons]

theorem adopt_sorted {block : Nat} (adopted : view.adopt block = some (address, after))
    (sorted : view.Sorted) (held : (view.blank block).Held memory) : after.Sorted := by
  obtain ⟨elements, blocks, roomy, full⟩ := sorted
  have elementSize := adopt_elementSize adopted
  have sizes : ∀ other ∈ after.pieces, other.shape.elementSize = after.elementSize := by
    obtain ⟨fresh, -, shape, split⟩ := adopt_perm adopted
    intro other member
    rw [elementSize]
    rcases List.mem_cons.1 (split.mem_iff.1 member) with rfl | old
    · exact congrArg Slab.Shape.elementSize shape
    · exact elements other old
  have whole : ∀ other ∈ after.carved, other.shape.size = after.blockSize := by
    obtain ⟨fresh, -, shape, -, carved⟩ := adopt_carved adopted
    intro other member
    rw [adopt_blockSize adopted]
    rcases List.mem_cons.1 (carved.mem_iff.1 member) with rfl | old
    · exact congrArg Slab.Shape.size shape
    · exact blocks other old
  -- The new slab has a live slot at least, so the row it is in fits how full it is.
  obtain ⟨fresh, handed, ⟨spent, rfl⟩ | ⟨left, rfl⟩⟩ := adopt_cases adopted
  · refine ⟨sizes, whole, roomy, fun other member => ?_⟩
    rcases List.mem_cons.1 member with rfl | old
    · exact spent
    · exact full other old
  · have counted := held.count_of_alloc handed
    refine ⟨sizes, whole, fun other member => ?_, full⟩
    rcases List.mem_cons.1 member with rfl | old
    · omega
    · exact roomy other old

/-- An arrangement with a slab more is sound if the slab lies apart from the others
and memory changed in it only. -/
theorem adopt_sound {block : Nat} {formatted : Memory}
    (adopted : view.adopt block = some (address, after)) (sound : view.Sound memory)
    (made : (view.blank block).Held formatted)
    (now : ∀ fresh, (view.blank block).alloc? = some (address, fresh) → fresh.Held changed)
    (within : memory.ChangedWithin changed (view.blank block).shape.region)
    (apart : ∀ region ∈ view.regions, (view.blank block).shape.region.Apart region) :
    after.Sound changed := by
  obtain ⟨fresh, handed, shape, split⟩ := adopt_perm adopted
  refine ⟨fun other member => ?_, ?_, adopt_sorted adopted sound.sorted made⟩
  · rcases List.mem_cons.1 (split.mem_iff.1 member) with rfl | old
    · exact now _ handed
    · exact Slab.Holds.of_agree (sound.held other old)
        (within.agree (apart _ (List.mem_map_of_mem old)))
  · refine Region.apart_of_perm (regions_perm split).symm ?_
    rw [List.pairwise_cons, shape]
    exact ⟨apart, sound.apart⟩

/-- The first element of a new slab was not live, and exactly it becomes live. -/
theorem adopt_live {block : Nat} (adopted : view.adopt block = some (address, after))
    (sound : view.Sound memory) {formatted : Memory} (made : (view.blank block).Held formatted)
    (apart : ∀ region ∈ view.regions, (view.blank block).shape.region.Apart region) :
    ¬ view.Live address ∧ ∀ other, after.Live other ↔ other = address ∨ view.Live other := by
  obtain ⟨fresh, handed, -, split⟩ := adopt_perm adopted
  obtain ⟨-, live, -⟩ := made.alloc?_live handed
  have inside := made.contains_of_alloc handed
  -- A slab that was just carved has no live slot of its own.
  have blank : ∀ other, ¬ (view.blank block).Live other := by
    rintro other ⟨slot, member, -⟩
    cases member
  constructor
  · rintro ⟨piece, member, also⟩
    have outside := (apart _ (List.mem_map_of_mem member)).not_contains inside
    rw [(sound.held piece member).contains_of_live also] at outside
    cases outside
  · intro other
    rw [live_iff_of_perm split, live]
    have none := blank other
    unfold Live
    tauto

/-! ## The resident slab -/

theorem pieces_of_none (none : view.resident = none) : view.pieces = view.carved := by
  unfold pieces
  rw [none]
  rfl

/-- A resident slab apart from the others completes a sound arrangement. -/
theorem withResident_sound {base size : Nat} (none : view.resident = none)
    (sound : view.Sound memory)
    (held : Slab.Holds changed ⟨base, size, view.elementSize⟩
      (.fresh (Slab.Shape.capacity ⟨base, size, view.elementSize⟩)))
    (within : memory.ChangedWithin changed ⟨base, size⟩)
    (apart : ∀ region ∈ view.regions, Region.Apart ⟨base, size⟩ region) :
    (view.withResident base size).Sound changed := by
  obtain ⟨heldAll, apartAll, elements, blocks, roomy, full⟩ := sound
  unfold regions at apart apartAll
  rw [pieces_of_none none] at heldAll apart apartAll elements
  refine ⟨fun piece member => ?_, List.pairwise_cons.2 ⟨apart, apartAll⟩, fun piece member => ?_,
    blocks, roomy, full⟩
  · rcases List.mem_cons.1 member with rfl | old
    · exact held
    · exact Slab.Holds.of_agree (heldAll piece old)
        (within.agree (apart _ (List.mem_map_of_mem old)))
  · rcases List.mem_cons.1 member with rfl | old
    · rfl
    · exact elements piece old

theorem withResident_live (none : view.resident = none) (base size : Nat) :
    (view.withResident base size).Live address ↔ view.Live address := by
  unfold Live
  rw [pieces_of_none none]
  constructor
  · rintro ⟨piece, member, live⟩
    rcases List.mem_cons.1 member with rfl | old
    · obtain ⟨slot, absurd, -⟩ := live
      cases absurd
    · exact ⟨piece, old, live⟩
  · rintro ⟨piece, member, live⟩
    exact ⟨piece, List.mem_cons_of_mem _ member, live⟩

end SlabAllocator.ElementPool.View
