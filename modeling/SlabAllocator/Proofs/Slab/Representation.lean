import SlabAllocator.Proofs.Frame
import SlabAllocator.Proofs.Slab.Stack

/-! How a stack of slots is kept in memory: counts and cursor in the header, the
slots given back as a chain through their own first words. `Holds` is the whole
relation. There is one lemma for each operation of a slab, which says what the
operation does to the stack and which bytes it may change. -/
namespace SlabAllocator.Slab

/-- From `link` on, the addresses are met one after the other, each through the
word stored at the one before; the last one leads to zero. -/
def Chained (memory : Memory) : Nat → List Nat → Prop
  | link, [] => link = 0
  | link, address :: rest =>
    link = address ∧ address ≠ 0 ∧ Chained memory (memory.word address) rest

/-- The addresses met from a link on, at most `count` of them. -/
def trail (memory : Memory) : Nat → Nat → List Nat
  | 0, _ => []
  | count + 1, link => if link = 0 then [] else link :: trail memory count (memory.word link)

/-- The slots of the slab at `base` that were given back, most recent first. -/
def freeList (memory : Memory) (base : Nat) : List Nat :=
  trail memory (Header.load memory base).maxCount (Header.load memory base).freeHead

/-- A slot of the slab at `base` that was handed out at some time begins at this address. -/
def IsSlot (memory : Memory) (base address : Nat) : Prop :=
  let header := Header.load memory base
  base + header.firstOffset ≤ address ∧ address < base + header.nextOffset ∧
    (address - (base + header.firstOffset)) % header.elementSize = 0

/-- What of the slab at `base` is nobody's element: the header, the slots that were
never handed out, and those that were given back. -/
def reserved (memory : Memory) (base : Nat) : List Region :=
  let header := Header.load memory base
  ⟨base, headerBytes⟩ :: ⟨base + header.nextOffset, header.slabSize - header.nextOffset⟩ ::
    (freeList memory base).map fun slot => ⟨slot, header.elementSize⟩

/-- A chain depends on nothing but the words of its own slots. -/
theorem Chained.congr {before after : Memory} {link : Nat} {addresses : List Nat}
    (chained : Chained before link addresses)
    (same : ∀ address ∈ addresses, after.word address = before.word address) :
    Chained after link addresses := by
  induction addresses generalizing link with
  | nil => exact chained
  | cons address rest ih =>
    obtain ⟨here, present, chained⟩ := chained
    refine ⟨here, present, ?_⟩
    rw [same address (by simp)]
    exact ih chained fun other member => same other (by simp [member])

theorem Chained.trail_eq {memory : Memory} {link : Nat} {addresses : List Nat}
    (chained : Chained memory link addresses) {count : Nat} (enough : addresses.length ≤ count) :
    trail memory count link = addresses := by
  -- Along the chain; the fuel goes down with its length.
  induction addresses generalizing link count with
  | nil =>
    have stop : link = 0 := chained
    cases count with
    | zero => rfl
    | succ count => simp [trail, stop]
  | cons address rest ih =>
    obtain ⟨here, present, chained⟩ := chained
    subst here
    cases count with
    | zero => simp at enough
    | succ count =>
      rw [trail, if_neg present, ih chained (by simpa using enough)]

namespace Header

/-- A header is written behind its links. -/
theorem changedWithin_words (header : Header) (memory : Memory) (base : Nat) :
    memory.ChangedWithin (header.store memory base) ⟨base + 16, 48⟩ := by
  intro address outside
  refine header.byte_store_of_outside memory ?_
  unfold Region.finish at outside
  simp only at outside
  unfold headerBytes
  omega

theorem changedWithin_store (header : Header) (memory : Memory) (base : Nat) :
    memory.ChangedWithin (header.store memory base) ⟨base, headerBytes⟩ :=
  (header.changedWithin_words memory base).mono
    ⟨Nat.le_add_right _ _, Nat.le_of_eq (Nat.add_assoc base 16 48)⟩

/-- A header is read from the last six words of its range. -/
theorem load_congr {before after : Memory} {base : Nat}
    (agree : before.Agree after ⟨base + 16, 48⟩) : load after base = load before base := by
  have word : ∀ offset, 16 ≤ offset → offset ≤ 56 →
      after.word (base + offset) = before.word (base + offset) := by
    intro offset low high
    refine (agree.mono ?_).word_eq
    unfold Region.Within Region.finish wordBytes
    simp only
    omega
  simp only [load, word 16 (by decide) (by decide), word 24 (by decide) (by decide),
    word 32 (by decide) (by decide), word 40 (by decide) (by decide),
    word 48 (by decide) (by decide), word 56 (by decide) (by decide)]

end Header

namespace Shape

/-- Where the chain of slots that were given back begins. -/
def head (shape : Shape) : List Nat → Nat
  | [] => 0
  | number :: _ => shape.slot number

/-- The bookkeeping of a slab of which `used` slots were handed out at some time and
`allocated` are out, with the chain beginning at `head`. -/
def bookkeeping (shape : Shape) (allocated used head : Nat) : Header :=
  ⟨shape.size, shape.elementSize, shape.capacity, allocated,
    shape.firstOffset + used * shape.elementSize, head⟩

/-- The bookkeeping of a slab whose slots are as `stack` says. -/
def header (shape : Shape) (stack : Stack) : Header :=
  ⟨shape.size, shape.elementSize, shape.capacity, stack.live.card,
    shape.firstOffset + stack.used shape.capacity * shape.elementSize, shape.head stack.freed⟩

variable {shape : Shape} {stack : Stack} {allocated used head : Nat}

theorem Usable.slot_lt_wordLimit (usable : shape.Usable) {number : Nat}
    (inside : number < shape.capacity) : shape.slot number < wordLimit := by
  have fits := usable.slot_end_le inside
  have bounded := usable.bounded
  omega

theorem Usable.fits_bookkeeping (usable : shape.Usable) (out : allocated ≤ shape.capacity)
    (below : used ≤ shape.capacity) (first : head < wordLimit) :
    (shape.bookkeeping allocated used head).Fits := by
  have bounded := usable.bounded
  have room := usable.room
  have capacity := usable.capacity_lt_wordLimit
  refine ⟨?_, ?_, capacity, Nat.lt_of_le_of_lt out capacity, ?_, first⟩
  · show shape.size < wordLimit
    omega
  · show shape.elementSize < wordLimit
    omega
  · show shape.firstOffset + used * shape.elementSize < wordLimit
    have whole := usable.firstOffset_add
    have below := Nat.mul_le_mul_right shape.elementSize below
    omega

theorem Usable.fits_header (usable : shape.Usable) (partition : stack.Partition shape.capacity) :
    (shape.header stack).Fits := by
  refine usable.fits_bookkeeping partition.card_le partition.used_le ?_
  cases freed : stack.freed with
  | nil => exact Nat.two_pow_pos 64
  | cons number rest =>
    have waiting : number ∈ stack.freed := by simp [freed]
    have used := partition.lt_used_of_freed waiting
    exact usable.slot_lt_wordLimit (Nat.lt_of_lt_of_le used partition.used_le)

/-- An address is that of one of the first `used` slots unless it lies before or behind
them or in the middle of one. -/
theorem Usable.foreign_iff (usable : shape.Usable) (used address : Nat) :
    (address < shape.base + shape.firstOffset ∨
        shape.base + (shape.firstOffset + used * shape.elementSize) ≤ address ∨
        (address - (shape.base + shape.firstOffset)) % shape.elementSize ≠ 0) ↔
      ¬ ∃ slot < used, address = shape.slot slot := by
  have positive := usable.elementSize_pos
  constructor
  · rintro outside ⟨slot, below, rfl⟩
    have step := Nat.mul_le_mul_right shape.elementSize (Nat.succ_le_of_lt below)
    rw [Nat.succ_mul] at step
    have exact : (slot * shape.elementSize) % shape.elementSize = 0 := Nat.mul_mod_left _ _
    unfold Shape.slot at outside
    rw [Nat.add_sub_cancel_left] at outside
    omega
  -- An address that passes the three tests is the slot that the division gives.
  · intro unknown
    apply Classical.byContradiction
    intro inside
    apply unknown
    simp only [not_or, Nat.not_lt, Nat.not_le, ne_eq, not_not] at inside
    obtain ⟨low, high, exact⟩ := inside
    have whole := Nat.div_mul_cancel (Nat.dvd_of_mod_eq_zero exact)
    refine ⟨(address - (shape.base + shape.firstOffset)) / shape.elementSize, ?_, ?_⟩
    · refine Nat.lt_of_mul_lt_mul_right (a := shape.elementSize) ?_
      omega
    · unfold Shape.slot
      omega

/-- Slabs that lie apart neither begin nor end together. -/
theorem Usable.different_of_apart {other : Shape} (usable : shape.Usable) (also : other.Usable)
    (apart : shape.region.Apart other.region) :
    shape.base ≠ other.base ∧ shape.base + shape.size ≠ other.base + other.size := by
  have room := usable.room
  have roomToo := also.room
  have positive := usable.elementSize_pos
  have positiveToo := also.elementSize_pos
  have apart : shape.base + shape.size ≤ other.base ∨ other.base + other.size ≤ shape.base := apart
  omega

end Shape

/-- The slots a header tells of are the first `used` ones. -/
theorem isSlot_iff_of_load {memory : Memory} {shape : Shape} {allocated used head : Nat}
    (usable : shape.Usable)
    (loaded : Header.load memory shape.base = shape.bookkeeping allocated used head)
    (address : Nat) :
    IsSlot memory shape.base address ↔ ∃ slot < used, address = shape.slot slot := by
  have foreign := not_congr (usable.foreign_iff used address)
  rw [not_not] at foreign
  rw [← foreign]
  unfold IsSlot
  rw [loaded]
  simp only [not_or, Nat.not_lt, Nat.not_le, ne_eq, not_not]
  exact Iff.rfl

/-- A range becomes a slab exactly if it is a whole number of words and one element, itself
some words, fits behind the header. -/
theorem exists_format?_iff (memory : Memory) (base slabSize elementSize : Nat) :
    (∃ made, format? memory base slabSize elementSize = some made) ↔
      0 < elementSize ∧ elementSize % wordBytes = 0 ∧ slabSize % wordBytes = 0 ∧
        headerBytes + elementSize ≤ slabSize := by
  unfold format?
  constructor
  · rintro ⟨made, formatted⟩
    split at formatted
    · cases formatted
    · next sizes =>
      simp only at formatted
      split at formatted
      · cases formatted
      · next capacity =>
        simp only [not_or, Nat.not_lt, Nat.not_le, ne_eq, not_not] at sizes
        obtain ⟨wide, elementWords, sizeWords, large⟩ := sizes
        have fits := (Nat.div_pos_iff.1 (Nat.pos_of_ne_zero capacity)).2
        have positive : 0 < elementSize := Nat.lt_of_lt_of_le (by decide) wide
        exact ⟨positive, elementWords, sizeWords, by omega⟩
  · rintro ⟨positive, elementWords, sizeWords, room⟩
    have wide := Nat.le_of_dvd positive (Nat.dvd_of_mod_eq_zero elementWords)
    have some : (slabSize - headerBytes) / elementSize ≠ 0 :=
      Nat.pos_iff_ne_zero.1 (Nat.div_pos (by omega) positive)
    rw [if_neg (by omega)]
    simp only
    rw [if_neg some]
    exact ⟨_, rfl⟩

theorem format?_eq_none_iff {memory : Memory} {base slabSize elementSize : Nat} :
    format? memory base slabSize elementSize = none ↔
      ¬ (0 < elementSize ∧ elementSize % wordBytes = 0 ∧ slabSize % wordBytes = 0 ∧
        headerBytes + elementSize ≤ slabSize) := by
  rw [← exists_format?_iff memory base, ← Option.ne_none_iff_exists', not_not]

/-- Nothing is asserted of a range that begins at a word. -/
theorem formatAligned?_eq {base : Nat} (aligned : base % wordBytes = 0) (memory : Memory)
    (slabSize elementSize : Nat) :
    formatAligned? memory base slabSize elementSize =
      .ok (format? memory base slabSize elementSize) := by
  unfold formatAligned?
  split
  · next unfit => rw [format?, if_pos unfit]
  · rw [if_neg (not_not.2 aligned)]

theorem links_within_header (base : Nat) : (linkRegion base).Within (headerRegion base) :=
  ⟨Nat.le_refl _, Nat.add_le_add_left (show 16 ≤ headerBytes by decide) base⟩

/-- The links of a slab are two words. -/
theorem link_words {memory after : Memory} {base : Nat}
    (agree : memory.Agree after (linkRegion base)) :
    after.word base = memory.word base ∧ after.word (base + 8) = memory.word (base + 8) := by
  have first : Region.Within ⟨base, wordBytes⟩ (linkRegion base) :=
    ⟨Nat.le_refl _, Nat.add_le_add_left (show wordBytes ≤ 16 by decide) base⟩
  have second : Region.Within ⟨base + 8, wordBytes⟩ (linkRegion base) :=
    ⟨Nat.le_add_right _ _, Nat.le_refl _⟩
  exact ⟨(agree.mono first).word_eq, (agree.mono second).word_eq⟩

/-- A header that was just written has links that lead nowhere. -/
theorem links_format? {memory made : Memory} {base slabSize elementSize : Nat}
    (formatted : format? memory base slabSize elementSize = some made) :
    made.word base = 0 ∧ made.word (base + 8) = 0 := by
  unfold format? at formatted
  split at formatted
  · cases formatted
  · simp only at formatted
    split at formatted
    · cases formatted
    · obtain rfl := Option.some.inj formatted
      have behind {word : Nat} (before : word + wordBytes ≤ base + 16) (header : Header)
          (blank : Memory) : (header.store blank base).word word = blank.word word := by
        have apart : Region.Apart ⟨base + 16, 48⟩ ⟨word, wordBytes⟩ := .inr before
        exact ((header.changedWithin_words blank base).agree apart).word_eq
      have zero : 0 < wordLimit := by decide
      constructor
      · rw [behind (by unfold wordBytes; omega),
          Memory.word_setWord_of_disjoint _ (.inl (show base + wordBytes ≤ base + 8 from
            Nat.le_refl _)), Memory.word_setWord _ _ zero]
      · rw [behind (by unfold wordBytes; omega), Memory.word_setWord _ _ zero]

/-- The memory holds a slab of this shape whose slots are as `stack` says. -/
structure Holds (memory : Memory) (shape : Shape) (stack : Stack) : Prop where
  usable : shape.Usable
  partition : stack.Partition shape.capacity
  header : Header.load memory shape.base = shape.header stack
  chain : Chained memory (shape.head stack.freed) (stack.freed.map shape.slot)

namespace Holds

variable {memory changed : Memory} {shape : Shape} {stack after : Stack} {slot address : Nat}

/-- A slab is where it was as long as its bookkeeping and the chain of vacant slots are. -/
theorem congr (holds : Holds memory shape stack)
    (words : memory.Agree changed ⟨shape.base + 16, 48⟩)
    (chain : ∀ slot ∈ stack.freed, memory.Agree changed ⟨shape.slot slot, wordBytes⟩) :
    Holds changed shape stack := by
  refine ⟨holds.usable, holds.partition, ?_, ?_⟩
  · rw [Header.load_congr words, holds.header]
  · refine holds.chain.congr fun address member => ?_
    obtain ⟨slot, freed, rfl⟩ := List.mem_map.1 member
    exact (chain slot freed).word_eq

theorem lt_capacity (holds : Holds memory shape stack) (used : slot < stack.used shape.capacity) :
    slot < shape.capacity :=
  Nat.lt_of_lt_of_le used holds.partition.used_le

/-- A slot lies in the slab, behind the header. -/
theorem slot_within (usable : shape.Usable) (inside : slot < shape.capacity) :
    Region.Within ⟨shape.slot slot, shape.elementSize⟩ shape.body := by
  have fits := usable.slot_end_le inside
  have behind := usable.header_le_slot slot
  have room := usable.room
  unfold headerBytes at behind room
  unfold Region.Within Region.finish Shape.body
  simp only
  omega

theorem words_within (usable : shape.Usable) : Region.Within ⟨shape.base + 16, 48⟩ shape.body := by
  have room := usable.room
  unfold headerBytes at room
  unfold Region.Within Region.finish Shape.body
  simp only
  omega

theorem body_within (usable : shape.Usable) : shape.body.Within shape.region := by
  have room := usable.room
  unfold headerBytes at room
  unfold Region.Within Region.finish Shape.body Shape.region
  simp only
  omega

/-- Nothing of a slab but its links stands before the rest of it. -/
theorem linkRegion_apart (shape : Shape) : (linkRegion shape.base).Apart shape.body :=
  .inl (Nat.le_refl _)

theorem header_within (usable : shape.Usable) :
    Region.Within ⟨shape.base, headerBytes⟩ shape.region := by
  have room := usable.room
  unfold Region.Within Region.finish Shape.region
  simp only
  omega

theorem linkRegion_within (usable : shape.Usable) :
    (linkRegion shape.base).Within shape.region :=
  (links_within_header shape.base).trans (header_within usable)

/-- Links of a slab are no part of what the slab says about its slots. -/
theorem of_body (holds : Holds memory shape stack) (agree : memory.Agree changed shape.body) :
    Holds changed shape stack := by
  refine holds.congr (agree.mono (words_within holds.usable)) fun slot freed => ?_
  have inside := holds.lt_capacity (holds.partition.lt_used_of_freed freed)
  have within : Region.Within ⟨shape.slot slot, wordBytes⟩ ⟨shape.slot slot, shape.elementSize⟩ :=
    ⟨Nat.le_refl _, Nat.add_le_add_left holds.usable.wide _⟩
  exact (agree.mono (slot_within holds.usable inside)).mono within

theorem of_agree (holds : Holds memory shape stack) (agree : memory.Agree changed shape.region) :
    Holds changed shape stack :=
  holds.of_body (agree.mono (body_within holds.usable))

/-- Owners may write what they like into live slots. -/
theorem write_live (holds : Holds memory shape stack) (live : slot ∈ stack.live) {region : Region}
    (within : region.Within ⟨shape.slot slot, shape.elementSize⟩)
    (written : memory.ChangedWithin changed region) : Holds changed shape stack := by
  have inside := written.mono within
  refine holds.congr (inside.agree ?_) fun other freed => inside.agree ?_
  · have behind := holds.usable.header_le_slot slot
    unfold headerBytes at behind
    unfold Region.Apart Region.finish
    simp only
    omega
  · have different : slot ≠ other := by
      rintro rfl
      exact holds.partition.apart slot freed live
    have apart := shape.slot_apart different
    have wide := holds.usable.wide
    unfold Region.Apart Region.finish
    simp only
    omega

/-- The chain of a slab, walked, meets exactly the slots that were given back. -/
theorem freeList_eq (holds : Holds memory shape stack) :
    freeList memory shape.base = stack.freed.map shape.slot := by
  have parts := holds.partition.card_add
  unfold freeList
  rw [holds.header]
  apply holds.chain.trail_eq
  simp only [List.length_map, Shape.header]
  omega

/-- A slab whose bytes are left alone keeps its header and its chain. -/
theorem same_of_agree (holds : Holds memory shape stack) (agree : memory.Agree changed shape.body) :
    Header.load changed shape.base = Header.load memory shape.base ∧
      freeList changed shape.base = freeList memory shape.base := by
  have kept := holds.of_body agree
  exact ⟨kept.header.trans holds.header.symm, kept.freeList_eq.trans holds.freeList_eq.symm⟩

/-- Writing the bookkeeping of a stack completes a slab whose chain is in place. -/
theorem of_store (usable : shape.Usable) (partition : after.Partition shape.capacity)
    (chain : Chained memory (shape.head after.freed) (after.freed.map shape.slot)) :
    Holds ((shape.header after).store memory shape.base) shape after := by
  refine ⟨usable, partition, Header.load_store (usable.fits_header partition) memory shape.base, ?_⟩
  refine chain.congr fun address member => ?_
  obtain ⟨slot, -, rfl⟩ := List.mem_map.1 member
  refine (((shape.header after).changedWithin_store memory shape.base).agree ?_).word_eq
  exact .inl (usable.header_le_slot slot)

/-! ## Handing out -/

theorem alloc?_none (holds : Holds memory shape stack)
    (nothing : stack.alloc? shape.capacity = none) : Slab.alloc? memory shape.base = none := by
  have full := holds.partition.alloc?_eq_none_iff.1 nothing
  unfold Slab.alloc?
  rw [holds.header]
  exact if_pos full

/-- The slab hands out the slot the stack says, and writes nothing but its header. -/
theorem alloc?_some (holds : Holds memory shape stack)
    (handed : stack.alloc? shape.capacity = some (slot, after)) :
    Slab.alloc? memory shape.base =
        some (shape.slot slot, (shape.header after).store memory shape.base) ∧
      Holds ((shape.header after).store memory shape.base) shape after := by
  have room : stack.live.card ≠ shape.capacity := by
    intro full
    rw [holds.partition.alloc?_eq_none_iff.2 full] at handed
    cases handed
  have partition := holds.partition.alloc? handed
  obtain ⟨vacant, inside, live⟩ := holds.partition.alloc?_live handed
  have counted : after.live.card = stack.live.card + 1 := by
    rw [live, Finset.card_insert_of_notMem vacant]
  have chain := holds.chain
  unfold Slab.alloc?
  rw [holds.header]
  simp only [show (shape.header stack).allocated ≠ (shape.header stack).maxCount from room,
    ↓reduceIte]
  -- The chain comes first, and the cursor moves only if the chain is empty.
  rcases Stack.alloc?_cases handed with ⟨rest, freed, rfl⟩ | ⟨freed, some, rfl, rfl⟩
  · rw [freed] at chain
    obtain ⟨-, present, chain⟩ := chain
    have follow : memory.word (shape.slot slot) = shape.head rest := by
      cases rest with
      | nil => exact chain
      | cons second others => exact chain.1
    refine ⟨?_, of_store holds.usable partition (by rwa [follow] at chain)⟩
    simp only [Shape.header, Shape.head, freed, ne_eq, present, not_false_eq_true, ↓reduceIte,
      follow, counted, Stack.used]
  · have below := holds.partition.unused_le
    have grown : shape.capacity - (stack.unused - 1) = stack.used shape.capacity + 1 := by
      unfold Stack.used
      omega
    have next : (stack.used shape.capacity + 1) * shape.elementSize =
        stack.used shape.capacity * shape.elementSize + shape.elementSize := Nat.succ_mul _ _
    have fits := holds.usable.slot_end_le inside
    have positive := holds.usable.elementSize_pos
    have early : shape.firstOffset + stack.used shape.capacity * shape.elementSize < shape.size := by
      unfold Shape.slot at fits
      omega
    refine ⟨?_, of_store holds.usable partition rfl⟩
    have bookkeeping : shape.header
        ⟨insert (stack.used shape.capacity) stack.live, [], stack.unused - 1⟩ =
        ⟨shape.size, shape.elementSize, shape.capacity, stack.live.card + 1,
          shape.firstOffset + stack.used shape.capacity * shape.elementSize + shape.elementSize,
          0⟩ := by
      unfold Shape.header
      simp only at counted
      rw [counted, Nat.add_assoc, ← next, ← grown]
      rfl
    rw [bookkeeping]
    simp only [Shape.header, Shape.head, freed, ne_eq, not_true_eq_false, ↓reduceIte, early,
      Shape.slot, Nat.add_assoc]

/-! ## Taking back -/

/-- The test a slab makes on an address finds exactly the slots handed out before. -/
theorem foreign_iff (holds : Holds memory shape stack) (address : Nat) :
    (address < shape.base + (shape.header stack).firstOffset ∨
        shape.base + (shape.header stack).nextOffset ≤ address ∨
        (address - (shape.base + (shape.header stack).firstOffset)) %
          (shape.header stack).elementSize ≠ 0) ↔
      ¬ ∃ slot < stack.used shape.capacity, address = shape.slot slot :=
  holds.usable.foreign_iff _ address

theorem isSlot_iff (holds : Holds memory shape stack) (address : Nat) :
    IsSlot memory shape.base address ↔ ∃ slot < stack.used shape.capacity, address = shape.slot slot :=
  isSlot_iff_of_load holds.usable holds.header address

theorem free_foreign (holds : Holds memory shape stack)
    (unknown : ¬ ∃ slot < stack.used shape.capacity, address = shape.slot slot) :
    Slab.free memory shape.base address = .error (.foreignPointer address) := by
  unfold Slab.free
  rw [holds.header]
  exact if_pos ((holds.foreign_iff address).2 unknown)

theorem free_repeated (holds : Holds memory shape stack)
    (used : ∃ slot < stack.used shape.capacity, address = shape.slot slot)
    (vacant : stack.live = ∅ ∨ address = shape.head stack.freed) :
    Slab.free memory shape.base address = .error (.doubleFree address) := by
  have vacant : (shape.header stack).allocated = 0 ∨ address = (shape.header stack).freeHead :=
    vacant.imp_left fun empty => by simp [Shape.header, empty]
  unfold Slab.free
  rw [holds.header]
  simp only
  rw [if_neg (fun foreign => (holds.foreign_iff address).1 foreign used), if_pos vacant]

/-- What is left in memory when a slot was taken back. -/
def released (memory : Memory) (shape : Shape) (stack : Stack) (address : Nat) : Memory :=
  Header.store { shape.header stack with
    freeHead := address, allocated := stack.live.card - 1 }
    (memory.setWord address (shape.head stack.freed)) shape.base

/-- Any other slot is taken back, whether it is live or not. -/
theorem free_accepted (holds : Holds memory shape stack)
    (used : ∃ slot < stack.used shape.capacity, address = shape.slot slot)
    (some : stack.live ≠ ∅) (behind : address ≠ shape.head stack.freed) :
    Slab.free memory shape.base address =
      .ok (stack.transition shape.capacity, released memory shape stack address) := by
  have positive : stack.live.card ≠ 0 := by simpa using some
  have one : stack.live.card - 1 = 0 ↔ stack.live.card = 1 := by omega
  have occupied :
      ¬ ((shape.header stack).allocated = 0 ∨ address = (shape.header stack).freeHead) :=
    not_or.2 ⟨positive, behind⟩
  unfold Slab.free
  rw [holds.header]
  simp only
  rw [if_neg (fun foreign => (holds.foreign_iff address).1 foreign used), if_neg occupied]
  simp only [Header.isEmpty, Header.isFull, Shape.header, beq_iff_eq, one, Stack.transition,
    released]

/-- Taking a slot back changes its link word and the header. -/
theorem released_byte (memory : Memory) (shape : Shape) (stack : Stack) {address other : Nat}
    (words : other < shape.base + 16 ∨ shape.base + 16 + 48 ≤ other)
    (link : other < address ∨ address + wordBytes ≤ other) :
    (released memory shape stack address).byte other = memory.byte other :=
  (Header.changedWithin_words _ _ _ other words).trans
    (Memory.changedWithin_setWord _ _ _ other link)

/-- A live slot that comes back is pushed on the stack. -/
theorem release (holds : Holds memory shape stack) (live : slot ∈ stack.live) :
    Holds (released memory shape stack (shape.slot slot)) shape (stack.release slot) := by
  have usable := holds.usable
  have fresh : slot ∉ stack.freed := fun freed => holds.partition.apart slot freed live
  have bookkeeping : { shape.header stack with
      freeHead := shape.slot slot, allocated := stack.live.card - 1 } =
        shape.header (stack.release slot) := by
    rw [← Stack.card_release live]
    rfl
  have small : shape.head stack.freed < wordLimit :=
    (usable.fits_header holds.partition).freeHead
  unfold released
  rw [bookkeeping]
  -- The new head links to the old one. The other links lie in slots of their own, apart from it.
  refine of_store usable (holds.partition.release live) ?_
  refine ⟨rfl, Nat.ne_of_gt (usable.slot_pos slot), ?_⟩
  rw [Memory.word_setWord _ _ small]
  refine holds.chain.congr fun address member => ?_
  obtain ⟨other, freed, rfl⟩ := List.mem_map.1 member
  have different : slot ≠ other := by
    rintro rfl
    exact fresh freed
  have apart := shape.slot_apart different
  have wide := usable.wide
  apply Memory.word_setWord_of_disjoint
  omega

theorem free_live (holds : Holds memory shape stack) (live : slot ∈ stack.live) :
    Slab.free memory shape.base (shape.slot slot) =
      .ok (stack.transition shape.capacity, released memory shape stack (shape.slot slot)) := by
  refine holds.free_accepted ⟨slot, holds.partition.lt_used_of_live live, rfl⟩ ?_ ?_
  · rintro empty
    rw [empty] at live
    cases live
  · intro same
    cases freed : stack.freed with
    | nil =>
      rw [freed] at same
      exact Nat.ne_of_gt (holds.usable.slot_pos slot) same
    | cons first rest =>
      rw [freed] at same
      have equal : slot = first := holds.usable.slot_inj.1 same
      exact holds.partition.apart slot (by simp [freed, equal]) live

/-- Unless the address waits behind the head of the chain, the slab answers as its
stack does. -/
theorem free_eq (holds : Holds memory shape stack)
    (visible : address ∉ (stack.freed.map shape.slot).tail) :
    Slab.free memory shape.base address =
      (stack.free shape address).map fun (transition, _) =>
        (transition, released memory shape stack address) := by
  unfold Stack.free
  simp only
  by_cases live : address = shape.slot (shape.number address) ∧ shape.number address ∈ stack.live
  · have accepted := holds.free_live live.2
    rw [← live.1] at accepted
    rw [if_pos live, accepted]
    rfl
  · rw [if_neg live]
    -- The slab tells live slots from vacant ones by the head of the chain alone.
    by_cases used : address = shape.slot (shape.number address) ∧
        shape.number address < stack.used shape.capacity
    · obtain ⟨at_slot, below⟩ := used
      have freed : shape.number address ∈ stack.freed :=
        ((holds.partition.used_iff _).1 below).resolve_left fun inside => live ⟨at_slot, inside⟩
      -- A vacant slot that is not hidden can only be the head of the chain.
      have first : address = shape.head stack.freed := by
        have member : address ∈ stack.freed.map shape.slot :=
          List.mem_map.2 ⟨_, freed, at_slot.symm⟩
        cases split : stack.freed with
        | nil => simp [split] at freed
        | cons slot rest =>
          rw [split] at member visible
          simpa [Shape.head] using (List.mem_cons.1 member).resolve_right visible
      rw [if_pos ⟨at_slot, below⟩, holds.free_repeated ⟨_, below, at_slot⟩ (.inr first)]
      rfl
    · have unknown : ¬ ∃ slot < stack.used shape.capacity, address = shape.slot slot := by
        rintro ⟨slot, below, rfl⟩
        rw [holds.usable.number_slot] at used
        exact used ⟨rfl, below⟩
      rw [if_neg used, holds.free_foreign unknown]
      rfl

/-- What a stack takes back, the memory takes back. -/
theorem free_holds {transition : Transition} (holds : Holds memory shape stack)
    (taken : stack.free shape address = .ok (transition, after)) :
    Holds (released memory shape stack address) shape after := by
  obtain ⟨slot, live, rfl, rfl, -⟩ := Stack.free_cases taken
  exact holds.release live

/-- Nothing is read of a slot behind its link word. -/
theorem write_behind_link (holds : Holds memory shape stack) {region : Region}
    (within : region.Within ⟨shape.slot slot + wordBytes, shape.elementSize - wordBytes⟩)
    (written : memory.ChangedWithin changed region) : Holds changed shape stack := by
  have inside := written.mono within
  have wide := holds.usable.wide
  refine holds.congr (inside.agree ?_) fun other freed => inside.agree ?_
  · have behind := holds.usable.header_le_slot slot
    unfold headerBytes at behind
    unfold Region.Apart Region.finish
    simp only
    omega
  · unfold Region.Apart Region.finish
    simp only
    by_cases same : slot = other
    · subst same
      omega
    · have apart := shape.slot_apart same
      omega

/-! ## Formatting -/

/-- A range of usable sizes becomes a slab of which nothing was handed out. -/
theorem format? (usable : shape.Usable) (memory : Memory) :
    ∃ changed, Slab.format? memory shape.base shape.size shape.elementSize = some changed ∧
      Holds changed shape (.fresh shape.capacity) ∧
      memory.ChangedWithin changed ⟨shape.base, headerBytes⟩ := by
  have room := usable.room
  have positive := usable.elementSize_pos
  have capacity : (shape.size - headerBytes) / shape.elementSize ≠ 0 :=
    Nat.ne_of_gt usable.capacity_pos
  have sizes : ¬ (shape.elementSize < wordBytes ∨ shape.elementSize % wordBytes ≠ 0 ∨
      shape.size % wordBytes ≠ 0 ∨ shape.size ≤ headerBytes) := by
    have wide := usable.wide
    simp only [usable.elementWords, usable.sizeWords]
    omega
  have bookkeeping : (⟨shape.size, shape.elementSize, shape.capacity, 0, shape.firstOffset, 0⟩ :
      Header) = shape.header (.fresh shape.capacity) := by
    simp [Shape.header, Stack.fresh, Stack.used, Shape.head]
  refine ⟨(shape.header (.fresh shape.capacity)).store
    ((memory.setWord shape.base 0).setWord (shape.base + 8) 0) shape.base, ?_, ?_, ?_⟩
  · unfold Slab.format?
    rw [if_neg sizes]
    simp only [if_neg capacity]
    rw [← bookkeeping]
    rfl
  · exact of_store usable (Stack.partition_fresh _) rfl
  · have first : memory.ChangedWithin (memory.setWord shape.base 0) ⟨shape.base, headerBytes⟩ :=
      (Memory.changedWithin_setWord _ _ _).mono ⟨Nat.le_refl _, by simp [Region.finish, headerBytes, wordBytes]⟩
    refine (first.trans ?_).trans (Header.changedWithin_store _ _ _)
    refine (Memory.changedWithin_setWord _ _ _).mono ⟨Nat.le_add_right _ _, ?_⟩
    simp [Region.finish, headerBytes, wordBytes, Nat.add_assoc]

/-- Only ranges of usable sizes become slabs. -/
theorem usable_of_format? {made : Memory} (placed : 0 < shape.base)
    (bounded : shape.base + shape.size < wordLimit)
    (formatted : Slab.format? memory shape.base shape.size shape.elementSize = some made) :
    shape.Usable := by
  obtain ⟨positive, elementWords, sizeWords, room⟩ :=
    (exists_format?_iff memory shape.base shape.size shape.elementSize).1 ⟨made, formatted⟩
  have wide := Nat.le_of_dvd positive (Nat.dvd_of_mod_eq_zero elementWords)
  exact ⟨placed, bounded, wide, elementWords, sizeWords, room⟩

/-! ## Who has what -/

theorem element_within (holds : Holds memory shape stack) (used : slot < stack.used shape.capacity) :
    Region.Within ⟨shape.slot slot, shape.elementSize⟩ shape.region := by
  have behind := holds.usable.header_le_slot slot
  exact ⟨Nat.le_trans (Nat.le_add_right _ _) behind,
    holds.usable.slot_end_le (holds.lt_capacity used)⟩

/-- Every element is among the slots, which take up the end of the slab. -/
theorem element_within_slots (holds : Holds memory shape stack)
    (used : slot < stack.used shape.capacity) :
    Region.Within ⟨shape.slot slot, shape.elementSize⟩
      ⟨shape.base + (shape.header stack).firstOffset,
        (shape.header stack).slabSize - (shape.header stack).firstOffset⟩ := by
  have fits := holds.usable.slot_end_le (holds.lt_capacity used)
  have whole := holds.usable.firstOffset_add
  have first : (shape.header stack).firstOffset = shape.firstOffset := rfl
  have size : (shape.header stack).slabSize = shape.size := rfl
  rw [first, size]
  refine ⟨Nat.le_add_right _ _, ?_⟩
  unfold Region.finish
  simp only
  omega

theorem mem_reserved (holds : Holds memory shape stack) (region : Region) :
    region ∈ reserved memory shape.base ↔ region = ⟨shape.base, headerBytes⟩ ∨
      region = ⟨shape.slot (stack.used shape.capacity),
        shape.base + shape.size - shape.slot (stack.used shape.capacity)⟩ ∨
      ∃ slot ∈ stack.freed, region = ⟨shape.slot slot, shape.elementSize⟩ := by
  have cursor : shape.base + (shape.header stack).nextOffset =
      shape.slot (stack.used shape.capacity) := by
    unfold Shape.header Shape.slot
    simp only
    omega
  have rest : (shape.header stack).slabSize - (shape.header stack).nextOffset =
      shape.base + shape.size - shape.slot (stack.used shape.capacity) := by
    rw [← cursor]
    exact (Nat.add_sub_add_left _ _ _).symm
  unfold reserved
  rw [holds.freeList_eq, holds.header]
  simp only [List.mem_cons, cursor, rest, List.map_map, List.mem_map, Function.comp_apply]
  constructor
  · rintro (header | unused | ⟨slot, freed, rfl⟩)
    · exact .inl header
    · exact .inr (.inl unused)
    · exact .inr (.inr ⟨slot, freed, rfl⟩)
  · rintro (header | unused | ⟨slot, freed, rfl⟩)
    · exact .inl header
    · exact .inr (.inl unused)
    · exact .inr (.inr ⟨slot, freed, rfl⟩)

/-- A slab is where it was as long as what is nobody's element is. -/
theorem of_reserved (holds : Holds memory shape stack)
    (agree : ∀ region ∈ reserved memory shape.base, memory.Agree changed region) :
    Holds changed shape stack := by
  have header := agree _ ((holds.mem_reserved _).2 (.inl rfl))
  refine holds.congr (header.mono ⟨Nat.le_add_right _ _, Nat.le_of_eq (Nat.add_assoc _ 16 48)⟩)
    fun slot freed => ?_
  have element := agree _ ((holds.mem_reserved _).2 (.inr (.inr ⟨slot, freed, rfl⟩)))
  exact element.mono ⟨Nat.le_refl _, Nat.add_le_add_left holds.usable.wide _⟩

theorem used_slot_le (holds : Holds memory shape stack) :
    shape.slot (stack.used shape.capacity) ≤ shape.base + shape.size := by
  have whole := holds.usable.firstOffset_add
  have step := Nat.mul_le_mul_right shape.elementSize holds.partition.used_le
  unfold Shape.slot
  omega

theorem reserved_within (holds : Holds memory shape stack) {region : Region}
    (kept : region ∈ reserved memory shape.base) : region.Within shape.region := by
  rcases (holds.mem_reserved region).1 kept with rfl | rfl | ⟨slot, freed, rfl⟩
  · exact header_within holds.usable
  · have behind := holds.usable.header_le_slot (stack.used shape.capacity)
    have fits := holds.used_slot_le
    unfold Region.Within Region.finish Shape.region
    simp only
    omega
  · exact holds.element_within (holds.partition.lt_used_of_freed freed)

/-- A live element meets nothing that is nobody's element. -/
theorem reserved_apart (holds : Holds memory shape stack) (live : slot ∈ stack.live)
    {region : Region} (kept : region ∈ reserved memory shape.base) :
    Region.Apart ⟨shape.slot slot, shape.elementSize⟩ region := by
  have used := holds.partition.lt_used_of_live live
  rcases (holds.mem_reserved region).1 kept with rfl | rfl | ⟨other, freed, rfl⟩
  · exact .inr (holds.usable.header_le_slot slot)
  · apply Or.inl
    have step := Nat.mul_le_mul_right shape.elementSize (Nat.succ_le_of_lt used)
    rw [Nat.succ_mul] at step
    unfold Region.finish Shape.slot
    simp only
    omega
  · have different : slot ≠ other := by
      rintro rfl
      exact holds.partition.apart slot freed live
    exact shape.slot_apart different

end Holds

end SlabAllocator.Slab
