import Mathlib.Data.Finset.Card
import SlabAllocator.Slab
import SlabAllocator.System

/-! What a slab stands for, said without memory: numbered slots, of which some
are live, some were given back and wait on a stack, and the rest were never
handed out. `Partition` is the invariant that carries everything else; the
operations keep it. -/
namespace SlabAllocator.Slab

/-- The range of the header of the slab at `base`. -/
def headerRegion (base : Nat) : Region :=
  ⟨base, headerBytes⟩

/-- The links of the slab at `base`, with which its header starts. -/
def linkRegion (base : Nat) : Region :=
  ⟨base, 16⟩

/-- Where a slab lies and how large its slots are. -/
structure Shape where
  base : Nat
  size : Nat
  elementSize : Nat
  deriving DecidableEq, Repr

namespace Shape

/-- The range of a slab. -/
def region (shape : Shape) : Region :=
  ⟨shape.base, shape.size⟩

/-- The range of a slab behind its links. -/
def body (shape : Shape) : Region :=
  ⟨shape.base + 16, shape.size - 16⟩

/-- Slots that fit behind the header. -/
def capacity (shape : Shape) : Nat :=
  (shape.size - headerBytes) / shape.elementSize

/-- Where slot 0 begins, from the start of the slab. -/
def firstOffset (shape : Shape) : Nat :=
  shape.size - shape.capacity * shape.elementSize

/-- Where a slot begins. -/
def slot (shape : Shape) (number : Nat) : Nat :=
  shape.base + shape.firstOffset + number * shape.elementSize

/-- The number of the slot an address lies in, for addresses from slot 0 on. -/
def number (shape : Shape) (address : Nat) : Nat :=
  (address - (shape.base + shape.firstOffset)) / shape.elementSize

/-- The sizes a slab can have, at a place that does not wrap. -/
structure Usable (shape : Shape) : Prop where
  placed : 0 < shape.base
  bounded : shape.base + shape.size < wordLimit
  wide : wordBytes ≤ shape.elementSize
  elementWords : shape.elementSize % wordBytes = 0
  sizeWords : shape.size % wordBytes = 0
  room : headerBytes + shape.elementSize ≤ shape.size

variable {shape : Shape} {first second : Nat}

/-- Slots of different numbers do not overlap. -/
theorem slot_apart (shape : Shape) (different : first ≠ second) :
    shape.slot first + shape.elementSize ≤ shape.slot second ∨
      shape.slot second + shape.elementSize ≤ shape.slot first := by
  unfold slot
  rcases Nat.lt_or_gt_of_ne different with less | more
  · have step := Nat.mul_le_mul_right shape.elementSize (Nat.succ_le_of_lt less)
    rw [Nat.succ_mul] at step
    omega
  · have step := Nat.mul_le_mul_right shape.elementSize (Nat.succ_le_of_lt more)
    rw [Nat.succ_mul] at step
    omega

namespace Usable

theorem elementSize_pos (usable : shape.Usable) : 0 < shape.elementSize :=
  Nat.lt_of_lt_of_le (by decide) usable.wide

theorem capacity_pos (usable : shape.Usable) : 0 < shape.capacity := by
  have room := usable.room
  exact Nat.div_pos (by omega) usable.elementSize_pos

theorem slots_fit (usable : shape.Usable) :
    shape.capacity * shape.elementSize + headerBytes ≤ shape.size := by
  have fits : shape.capacity * shape.elementSize ≤ shape.size - headerBytes :=
    Nat.div_mul_le_self _ _
  have room := usable.room
  omega

theorem headerBytes_le_firstOffset (usable : shape.Usable) :
    headerBytes ≤ shape.firstOffset := by
  have fits := usable.slots_fit
  unfold firstOffset
  omega

/-- The slots are packed against the end of the slab. -/
theorem firstOffset_add (usable : shape.Usable) :
    shape.firstOffset + shape.capacity * shape.elementSize = shape.size := by
  have fits := usable.slots_fit
  unfold firstOffset
  omega

theorem capacity_lt_wordLimit (usable : shape.Usable) : shape.capacity < wordLimit := by
  have small : shape.capacity ≤ shape.capacity * shape.elementSize :=
    Nat.le_mul_of_pos_right _ usable.elementSize_pos
  have fits := usable.slots_fit
  have bounded := usable.bounded
  omega

/-- Every slot starts behind the header. -/
theorem header_le_slot (usable : shape.Usable) (number : Nat) :
    shape.base + headerBytes ≤ shape.slot number := by
  have behind := usable.headerBytes_le_firstOffset
  unfold slot
  omega

theorem slot_pos (usable : shape.Usable) (number : Nat) : 0 < shape.slot number := by
  have behind := usable.header_le_slot number
  have placed := usable.placed
  omega

theorem slot_inj (usable : shape.Usable) : shape.slot first = shape.slot second ↔ first = second := by
  constructor
  · intro same
    have positive := usable.elementSize_pos
    apply Classical.byContradiction
    intro different
    have apart := shape.slot_apart different
    omega
  · exact congrArg shape.slot

theorem number_slot (usable : shape.Usable) (number : Nat) :
    shape.number (shape.slot number) = number := by
  unfold Shape.number slot
  rw [Nat.add_sub_cancel_left, Nat.mul_div_cancel _ usable.elementSize_pos]

/-- A slot within the capacity ends within the slab. -/
theorem slot_end_le (usable : shape.Usable) (inside : first < shape.capacity) :
    shape.slot first + shape.elementSize ≤ shape.base + shape.size := by
  have step := Nat.mul_le_mul_right shape.elementSize (Nat.succ_le_of_lt inside)
  rw [Nat.succ_mul] at step
  have whole := usable.firstOffset_add
  unfold slot
  omega

/-- Slots start at whole words when the slab does. -/
theorem slot_aligned (usable : shape.Usable) (aligned : shape.base % wordBytes = 0) (number : Nat) :
    shape.slot number % wordBytes = 0 := by
  have element : wordBytes ∣ shape.elementSize := Nat.dvd_of_mod_eq_zero usable.elementWords
  have size : wordBytes ∣ shape.size := Nat.dvd_of_mod_eq_zero usable.sizeWords
  have base : wordBytes ∣ shape.base := Nat.dvd_of_mod_eq_zero aligned
  have offset : wordBytes ∣ shape.firstOffset :=
    Nat.dvd_sub size (Nat.dvd_mul_left_of_dvd element _)
  exact Nat.mod_eq_zero_of_dvd
    (Nat.dvd_add (Nat.dvd_add base offset) (Nat.dvd_mul_left_of_dvd element number))

end Usable

end Shape

/-- The slots of a slab by their numbers. -/
structure Stack where
  /-- Slots handed out and not given back. -/
  live : Finset Nat
  /-- Slots given back, most recent first. -/
  freed : List Nat
  /-- Slots never handed out, which are the last ones. -/
  unused : Nat
  deriving DecidableEq

namespace Stack

/-- A slab of which nothing was ever handed out. -/
def fresh (capacity : Nat) : Stack :=
  ⟨∅, [], capacity⟩

/-- Slots that were handed out at some time, which are the first ones. -/
def used (stack : Stack) (capacity : Nat) : Nat :=
  capacity - stack.unused

/-- Hands out the slot given back most recently, else the lowest never handed out. -/
def alloc? (stack : Stack) (capacity : Nat) : Option (Nat × Stack) :=
  match stack.freed with
  | slot :: rest => some (slot, { stack with live := insert slot stack.live, freed := rest })
  | [] =>
    if stack.unused = 0 then none
    else
      let slot := stack.used capacity
      some (slot, { stack with live := insert slot stack.live, unused := stack.unused - 1 })

/-- What giving back one of the live slots means for the slab. -/
def transition (stack : Stack) (capacity : Nat) : Transition :=
  if stack.live.card = 1 then .emptied
  else if stack.live.card = capacity then .reopened else .unchanged

/-- Takes a live slot back. -/
def release (stack : Stack) (slot : Nat) : Stack :=
  { stack with live := stack.live.erase slot, freed := slot :: stack.freed }

/-- Takes an address back if a live slot begins there. -/
def free (stack : Stack) (shape : Shape) (address : Nat) : Except Fault (Transition × Stack) :=
  let slot := shape.number address
  if address = shape.slot slot ∧ slot ∈ stack.live then
    .ok (stack.transition shape.capacity, stack.release slot)
  else if address = shape.slot slot ∧ slot < stack.used shape.capacity then
    .error (.doubleFree address)
  else .error (.foreignPointer address)

/-- Every slot is live, or given back, or was never handed out, and not two of these. -/
structure Partition (stack : Stack) (capacity : Nat) : Prop where
  once : stack.freed.Nodup
  apart : ∀ slot ∈ stack.freed, slot ∉ stack.live
  unused_le : stack.unused ≤ capacity
  used_iff : ∀ slot, slot < stack.used capacity ↔ slot ∈ stack.live ∨ slot ∈ stack.freed

variable {stack after : Stack} {capacity slot : Nat}

theorem partition_fresh (capacity : Nat) : (fresh capacity).Partition capacity :=
  ⟨List.nodup_nil, by simp [fresh], Nat.le_refl _, by simp [fresh, used]⟩

/-- Everything a stack can do when a slot is asked for and one is there. -/
theorem alloc?_cases (handed : stack.alloc? capacity = some (slot, after)) :
    (∃ rest, stack.freed = slot :: rest ∧ after = ⟨insert slot stack.live, rest, stack.unused⟩) ∨
      (stack.freed = [] ∧ stack.unused ≠ 0 ∧ slot = stack.used capacity ∧
        after = ⟨insert slot stack.live, [], stack.unused - 1⟩) := by
  unfold alloc? at handed
  cases freed : stack.freed with
  | nil =>
    rw [freed] at handed
    by_cases none : stack.unused = 0
    · simp [none] at handed
    · simp only [none, ↓reduceIte, Option.some.injEq, Prod.mk.injEq] at handed
      obtain ⟨rfl, rfl⟩ := handed
      exact .inr ⟨rfl, none, rfl, rfl⟩
  | cons head rest =>
    rw [freed] at handed
    simp only [Option.some.injEq, Prod.mk.injEq] at handed
    obtain ⟨rfl, rfl⟩ := handed
    exact .inl ⟨rest, rfl, rfl⟩

namespace Partition

theorem lt_used_of_live (partition : stack.Partition capacity) (live : slot ∈ stack.live) :
    slot < stack.used capacity :=
  (partition.used_iff slot).2 (.inl live)

theorem lt_used_of_freed (partition : stack.Partition capacity) (freed : slot ∈ stack.freed) :
    slot < stack.used capacity :=
  (partition.used_iff slot).2 (.inr freed)

theorem used_le (_ : stack.Partition capacity) : stack.used capacity ≤ capacity :=
  Nat.sub_le _ _

/-- The three kinds of slots make up the capacity. -/
theorem card_add (partition : stack.Partition capacity) :
    stack.live.card + stack.freed.length + stack.unused = capacity := by
  have disjoint : Disjoint stack.live stack.freed.toFinset := by
    rw [Finset.disjoint_right]
    intro slot member
    exact partition.apart slot (List.mem_toFinset.1 member)
  have union : stack.live ∪ stack.freed.toFinset = Finset.range (stack.used capacity) := by
    ext slot
    rw [Finset.mem_union, List.mem_toFinset, Finset.mem_range, partition.used_iff slot]
  have counted : stack.live.card + stack.freed.length = stack.used capacity := by
    rw [← Finset.card_range (stack.used capacity), ← union, Finset.card_union_of_disjoint disjoint,
      List.toFinset_card_of_nodup partition.once]
  have below := partition.unused_le
  unfold used at counted
  omega

theorem card_le (partition : stack.Partition capacity) : stack.live.card ≤ capacity := by
  have parts := partition.card_add
  omega

/-- There is nothing to hand out exactly when every slot is live. -/
theorem alloc?_eq_none_iff (partition : stack.Partition capacity) :
    stack.alloc? capacity = none ↔ stack.live.card = capacity := by
  have parts := partition.card_add
  unfold alloc?
  cases freed : stack.freed with
  | nil =>
    rw [freed, List.length_nil] at parts
    by_cases none : stack.unused = 0
    · simp only [none, ↓reduceIte, true_iff]
      omega
    · simp only [none, ↓reduceIte, reduceCtorEq, false_iff]
      omega
  | cons slot rest =>
    rw [freed, List.length_cons] at parts
    simp only [reduceCtorEq, false_iff]
    omega

/-- What is handed out was vacant, lies within the capacity, and is live afterwards. -/
theorem alloc?_live (partition : stack.Partition capacity)
    (handed : stack.alloc? capacity = some (slot, after)) :
    slot ∉ stack.live ∧ slot < capacity ∧ after.live = insert slot stack.live := by
  rcases alloc?_cases handed with ⟨rest, freed, rfl⟩ | ⟨freed, some, rfl, rfl⟩
  · have member : slot ∈ stack.freed := by simp [freed]
    exact ⟨partition.apart _ member,
      Nat.lt_of_lt_of_le (partition.lt_used_of_freed member) partition.used_le, rfl⟩
  · refine ⟨fun live => Nat.lt_irrefl _ (partition.lt_used_of_live live), ?_, rfl⟩
    have below := partition.unused_le
    unfold used
    omega

theorem alloc? (partition : stack.Partition capacity)
    (handed : stack.alloc? capacity = some (slot, after)) : after.Partition capacity := by
  -- A slot moves from the chain or from the unused ones to the live ones, and nothing else moves.
  rcases alloc?_cases handed with ⟨rest, freed, rfl⟩ | ⟨freed, some, rfl, rfl⟩
  · have once := partition.once
    rw [freed, List.nodup_cons] at once
    refine ⟨once.2, fun other member => ?_, partition.unused_le, fun other => ?_⟩
    · rw [Finset.mem_insert, not_or]
      refine ⟨?_, partition.apart other (by simp [freed, member])⟩
      rintro rfl
      exact once.1 member
    · have before := partition.used_iff other
      rw [freed, List.mem_cons] at before
      simp only [used] at before ⊢
      rw [before, Finset.mem_insert]
      tauto
  · have below := partition.unused_le
    refine ⟨List.nodup_nil, by simp, by simp only; omega, fun other => ?_⟩
    have before := partition.used_iff other
    simp only [used, freed, List.not_mem_nil, or_false] at before
    simp only [used, Finset.mem_insert, List.not_mem_nil, or_false, ← before]
    omega

theorem release (partition : stack.Partition capacity) (live : slot ∈ stack.live) :
    (stack.release slot).Partition capacity := by
  refine ⟨List.nodup_cons.2 ⟨fun member => partition.apart slot member live, partition.once⟩,
    fun other member => ?_, partition.unused_le, fun other => ?_⟩
  · simp only [Stack.release, Finset.mem_erase, not_and]
    intro different
    exact partition.apart other ((List.mem_cons.1 member).resolve_left different)
  · have before := partition.used_iff other
    simp only [used, Stack.release, Finset.mem_erase, List.mem_cons] at before ⊢
    rw [before]
    by_cases same : other = slot
    · subst same
      simp [live]
    · simp [same]

end Partition

theorem card_release (live : slot ∈ stack.live) :
    (stack.release slot).live.card = stack.live.card - 1 :=
  Finset.card_erase_of_mem live

/-- What is taken back was live. -/
theorem free_cases {shape : Shape} {address : Nat} {transition : Transition}
    (taken : stack.free shape address = .ok (transition, after)) :
    ∃ slot ∈ stack.live, address = shape.slot slot ∧ after = stack.release slot ∧
      transition = stack.transition shape.capacity := by
  unfold free at taken
  simp only at taken
  split at taken
  · next found =>
    cases taken
    exact ⟨_, found.2, found.1, rfl, rfl⟩
  · split at taken <;> cases taken

theorem transition_eq_emptied_iff :
    stack.transition capacity = .emptied ↔ stack.live.card = 1 := by
  unfold transition
  split
  · next single => simp [single]
  · next several => split <;> simp [several]

theorem transition_eq_reopened_iff :
    stack.transition capacity = .reopened ↔ stack.live.card = capacity ∧ stack.live.card ≠ 1 := by
  unfold transition
  split
  · next single => simp [single]
  · next several =>
    split
    · next full => simp [full, full ▸ several]
    · next room => simp [room]

end Stack

end SlabAllocator.Slab
