import Mathlib.Order.Bounds.Basic
import SlabAllocator.Proofs.Checked
import SlabAllocator.Proofs.Slab.Refinement

/-! Where the slots of a slab lie. They are packed against its end, so the cursor that runs
over them stops exactly there, however much is left over behind the header. Both operations
are written out once more with arithmetic that may not wrap, and come to the same. -/
namespace SlabAllocator.Slab

/-- Makes a range a slab, with arithmetic that may not wrap. -/
def formatChecked? (memory : Memory) (base slabSize elementSize : Nat) : Option (Option Memory) :=
  if elementSize < wordBytes ∨ elementSize % wordBytes ≠ 0 ∨ slabSize % wordBytes ≠ 0 ∨
      slabSize ≤ headerBytes then some none
  else do
    let usable ← Checked.difference slabSize headerBytes
    let maxCount := usable / elementSize
    if maxCount = 0 then return none
    let slots ← Checked.product maxCount elementSize
    let cursor ← Checked.difference slabSize slots
    let header : Header := ⟨slabSize, elementSize, maxCount, 0, cursor, 0⟩
    return some (header.store ((memory.setWord base 0).setWord (base + 8) 0) base)

/-- Hands out a slot, with arithmetic that may not wrap. -/
def allocChecked? (memory : Memory) (base : Nat) : Option (Option (Nat × Memory)) :=
  let header := Header.load memory base
  if header.allocated = header.maxCount then some none
  else if header.freeHead ≠ 0 then do
    let allocated ← Checked.sum header.allocated 1
    let taken := { header with freeHead := memory.word header.freeHead, allocated }
    return some (header.freeHead, taken.store memory base)
  else if header.nextOffset < header.slabSize then do
    let nextOffset ← Checked.sum header.nextOffset header.elementSize
    let allocated ← Checked.sum header.allocated 1
    let address ← Checked.sum base header.nextOffset
    return some (address, Header.store { header with nextOffset, allocated } memory base)
  else some none

/-- No step of making a slab wraps, whether there is one or not. -/
theorem formatChecked?_eq (memory : Memory) (base : Nat) {slabSize : Nat} (elementSize : Nat)
    (bounded : slabSize < wordLimit) :
    formatChecked? memory base slabSize elementSize =
      some (format? memory base slabSize elementSize) := by
  unfold formatChecked? format?
  split
  · rfl
  · next sizes =>
    have slots := Nat.div_mul_le_self (slabSize - headerBytes) elementSize
    rw [Checked.difference_eq (by omega)]
    simp only [Option.bind_eq_bind, Option.bind_some]
    split
    · rfl
    · rw [Checked.product_eq (by omega), Option.bind_some, Checked.difference_eq (by omega)]
      rfl

namespace Holds

variable {memory : Memory} {shape : Shape} {stack : Stack}

/-- No step of handing out a slot wraps, whatever was handed out and given back before. -/
theorem allocChecked?_eq (holds : Holds memory shape stack) :
    allocChecked? memory shape.base = some (alloc? memory shape.base) := by
  have usable := holds.usable
  have bounded := usable.bounded
  have capacity := usable.capacity_lt_wordLimit
  have parts := holds.partition.card_add
  have whole := usable.firstOffset_add
  unfold allocChecked? alloc?
  rw [holds.header]
  unfold Shape.header
  simp only
  split
  · rfl
  · next vacant =>
    rw [Checked.sum_eq (by omega)]
    split
    · rfl
    · split
      · next more =>
        -- The cursor is in front of the end, so a whole slot lies between them.
        have below : stack.used shape.capacity < shape.capacity := by
          apply Nat.lt_of_mul_lt_mul_right (a := shape.elementSize)
          omega
        have step := Nat.mul_le_mul_right shape.elementSize (Nat.succ_le_of_lt below)
        rw [Nat.succ_mul] at step
        rw [Checked.sum_eq (by omega), Checked.sum_eq (by omega)]
        rfl
      · rfl

end Holds

/-! ## The cursor -/

namespace Stack

/-- A slab whose first slots were handed out, one after the other, and none came back. -/
def dealt (capacity used : Nat) : Stack :=
  ⟨Finset.range used, [], capacity - used⟩

theorem dealt_zero (capacity : Nat) : dealt capacity 0 = fresh capacity := by
  simp [dealt, fresh]

variable {shape : Shape} {used : Nat}

/-- The next slot is the one behind those that were handed out. -/
theorem dealt_alloc? {capacity : Nat} (more : used < capacity) :
    (dealt capacity used).alloc? capacity = some (used, dealt capacity (used + 1)) := by
  have left : capacity - used ≠ 0 := by omega
  have place : capacity - (capacity - used) = used := by omega
  simp [alloc?, dealt, Stack.used, left, place, Finset.range_add_one, Nat.sub_sub]

theorem dealt_alloc?_none (capacity : Nat) : (dealt capacity capacity).alloc? capacity = none := by
  simp [alloc?, dealt]

/-- Handing out nothing but moves the cursor, slot by slot. -/
theorem dealt_performAll (used more : Nat) (fits : used + more ≤ shape.capacity) :
    (dealt shape.capacity used).performAll shape (List.replicate more .alloc) =
      ((List.range' used more).map fun slot => .handed (some (shape.slot slot)),
        dealt shape.capacity (used + more)) := by
  induction more generalizing used with
  | zero => rfl
  | succ more ih =>
    have here : (dealt shape.capacity used).perform shape .alloc =
        (.handed (some (shape.slot used)), dealt shape.capacity (used + 1)) := by
      unfold perform
      rw [dealt_alloc? (by omega)]
    have later := ih (used + 1) (by omega)
    rw [List.replicate_succ, performAll, here]
    simp only [later, List.range'_succ, List.map_cons, Nat.add_assoc, Nat.add_comm 1 more]

theorem admitsAll_replicate_alloc (stack : Stack) (shape : Shape) (count : Nat) :
    stack.AdmitsAll shape (List.replicate count .alloc) := by
  induction count generalizing stack with
  | zero => exact trivial
  | succ count ih => exact ⟨trivial, ih _⟩

end Stack

section

variable {memory made : Memory} {shape : Shape} {count : Nat}

/-- A new slab hands out its slots from the first one on. -/
theorem Holds.deals (holds : Holds memory shape (.fresh shape.capacity))
    (fits : count ≤ shape.capacity) :
    (Slab.performAll shape.base memory (List.replicate count .alloc)).1 =
        (List.range count).map (fun slot => .handed (some (shape.slot slot))) ∧
      Holds (Slab.performAll shape.base memory (List.replicate count .alloc)).2 shape
        (.dealt shape.capacity count) := by
  have stacked := Stack.dealt_performAll 0 count ((Nat.zero_add count).trans_le fits)
  rw [Stack.dealt_zero, Nat.zero_add, ← List.range_eq_range'] at stacked
  have refined := holds.performAll (Stack.admitsAll_replicate_alloc _ shape count)
  rwa [stacked] at refined

namespace Shape.Usable

/-- No larger number of slots fits behind the header. -/
theorem isGreatest_capacity (usable : shape.Usable) :
    IsGreatest {slots | headerBytes + slots * shape.elementSize ≤ shape.size} shape.capacity := by
  constructor
  · have fits := usable.slots_fit
    show headerBytes + shape.capacity * shape.elementSize ≤ shape.size
    omega
  · intro slots fits
    have fits : headerBytes + slots * shape.elementSize ≤ shape.size := fits
    exact (Nat.le_div_iff_mul_le usable.elementSize_pos).2 (by omega)

/-- A slot lies as far before the end as the slots from it on are long. -/
theorem slot_eq_sub (usable : shape.Usable) (inside : count ≤ shape.capacity) :
    shape.slot count = shape.base + shape.size - (shape.capacity - count) * shape.elementSize := by
  have whole := usable.firstOffset_add
  have split : (shape.capacity - count) * shape.elementSize + count * shape.elementSize =
      shape.capacity * shape.elementSize := by
    rw [← Nat.add_mul, Nat.sub_add_cancel inside]
  unfold slot
  omega

/-- What is left over behind the header is smaller than an element. -/
theorem firstOffset_lt (usable : shape.Usable) :
    shape.firstOffset < headerBytes + shape.elementSize := by
  have room := usable.room
  have whole := usable.firstOffset_add
  have split := Nat.div_add_mod (shape.size - headerBytes) shape.elementSize
  have less := Nat.mod_lt (shape.size - headerBytes) usable.elementSize_pos
  rw [Nat.mul_comm] at split
  have split : shape.capacity * shape.elementSize +
    (shape.size - headerBytes) % shape.elementSize = shape.size - headerBytes := split
  omega

end Shape.Usable

end

/-- How a slab of `maxCount` slots that was just made hands them out if none comes back. -/
structure Tight (base slabSize elementSize maxCount : Nat) (made : Memory) : Prop where
  /-- There are as many slots as fit behind the header. -/
  most : IsGreatest {slots | headerBytes + slots * elementSize ≤ slabSize} maxCount
  /-- They are handed out in order. -/
  order : (performAll base made (List.replicate maxCount .alloc)).1 =
    (List.range maxCount).map fun slot =>
      .handed (some (base + slabSize - (maxCount - slot) * elementSize))
  aligned : ∀ slot < maxCount,
    (base + slabSize - (maxCount - slot) * elementSize) % wordBytes = 0
  /-- The first one begins less than an element behind the header. -/
  first : base + headerBytes ≤ base + slabSize - (maxCount - 0) * elementSize ∧
    base + slabSize - (maxCount - 0) * elementSize < base + headerBytes + elementSize
  /-- The last one ends where the slab does. -/
  last : 0 < maxCount ∧
    base + slabSize - (maxCount - (maxCount - 1)) * elementSize + elementSize = base + slabSize
  /-- Nothing is left then, and asking again changes nothing. -/
  exhausted : perform base (performAll base made (List.replicate maxCount .alloc)).2 .alloc =
    (.handed none, (performAll base made (List.replicate maxCount .alloc)).2)
  /-- None of these requests wraps, the one in vain included. -/
  unwrapped : ∀ count ≤ maxCount,
    allocChecked? (performAll base made (List.replicate count .alloc)).2 base =
      some (alloc? (performAll base made (List.replicate count .alloc)).2 base)

theorem Holds.tight {made : Memory} {shape : Shape}
    (holds : Holds made shape (.fresh shape.capacity)) (aligned : shape.base % wordBytes = 0) :
    Tight shape.base shape.size shape.elementSize shape.capacity made := by
  have usable := holds.usable
  have place (slot : Nat) (inside : slot < shape.capacity) :=
    usable.slot_eq_sub (Nat.le_of_lt inside)
  constructor
  case most => exact usable.isGreatest_capacity
  case order =>
    rw [(holds.deals (Nat.le_refl _)).1]
    apply List.map_congr_left
    intro slot member
    rw [place slot (List.mem_range.1 member)]
  case aligned =>
    intro slot inside
    rw [← place slot inside]
    exact usable.slot_aligned aligned slot
  case first =>
    have behind := usable.headerBytes_le_firstOffset
    have close := usable.firstOffset_lt
    rw [← place 0 usable.capacity_pos]
    unfold Shape.slot
    omega
  case last =>
    have some := usable.capacity_pos
    have room := usable.room
    have one : shape.capacity - (shape.capacity - 1) = 1 := by omega
    rw [one]
    omega
  case exhausted =>
    have dealt := (holds.deals (Nat.le_refl _)).2
    unfold Slab.perform
    rw [dealt.alloc?_none (Stack.dealt_alloc?_none _)]
  case unwrapped =>
    intro count fits
    exact (holds.deals fits).2.allocChecked?_eq

/-- **The slots of a slab fill it to its end.** Whatever the memory holds, a range becomes a slab
exactly if it is a whole number of words and an element, itself some words, fits behind the
header; then as many slots as possible are handed out, in order and word by word aligned, from
less than an element behind the header up to the very end, and after them nothing. No
difference, product or address on the way wraps. -/
theorem geometry_tight {base slabSize elementSize : Nat} (placed : 0 < base)
    (aligned : base % wordBytes = 0) (bounded : base + slabSize < wordLimit) (memory : Memory) :
    formatChecked? memory base slabSize elementSize =
        some (format? memory base slabSize elementSize) ∧
      ((∃ made, format? memory base slabSize elementSize = some made) ↔
        0 < elementSize ∧ elementSize % wordBytes = 0 ∧ slabSize % wordBytes = 0 ∧
          headerBytes + elementSize ≤ slabSize) ∧
      ∀ made, format? memory base slabSize elementSize = some made →
        Tight base slabSize elementSize (Header.load made base).maxCount made := by
  refine ⟨formatChecked?_eq memory base elementSize (by omega),
    exists_format?_iff memory base slabSize elementSize, ?_⟩
  intro made formatted
  let shape : Shape := ⟨base, slabSize, elementSize⟩
  have usable : shape.Usable := Holds.usable_of_format? placed bounded formatted
  obtain ⟨changed, same, holds, -⟩ := Holds.format? usable memory
  obtain rfl : changed = made := Option.some.inj (same.symm.trans formatted)
  have counted : (Header.load changed base).maxCount = shape.capacity :=
    congrArg Header.maxCount holds.header
  rw [counted]
  exact holds.tight aligned

/-- Three slots of two words in 120 bytes at 4096: one word is left over behind the header. -/
theorem geometry_tight_one_word_over :
    ∃ made, format? .zeroed 4096 120 16 = some made ∧
      (Header.load made 4096).maxCount = 3 ∧
      (performAll 4096 made (List.replicate 3 .alloc)).1 =
        [.handed (some 4168), .handed (some 4184), .handed (some 4200)] ∧
      alloc? (performAll 4096 made (List.replicate 3 .alloc)).2 4096 = none := by
  obtain ⟨-, slab, tight⟩ :=
    @geometry_tight 4096 120 16 (by decide) (by decide) (by decide) .zeroed
  obtain ⟨made, formatted⟩ := slab.2 (by decide)
  have tight := tight made formatted
  have three : (Header.load made 4096).maxCount = 3 :=
    tight.most.unique ⟨by decide, fun slots fits => by
      have fits : headerBytes + slots * 16 ≤ 120 := fits
      unfold headerBytes at fits
      omega⟩
  have order := tight.order
  have exhausted := tight.exhausted
  rw [three] at order exhausted
  refine ⟨made, formatted, three, order, ?_⟩
  unfold perform at exhausted
  simp only at exhausted
  split at exhausted
  · next none => exact none
  · cases exhausted

end SlabAllocator.Slab
