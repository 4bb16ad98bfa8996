import SlabAllocator.Proofs.Slab.Representation

/-! A slab behaves as its stack of slots. Calls are carried out twice, in memory
and on the stack; as long as nobody frees a slot that already waits behind the
head of the chain and owners write into live slots only, the answers are the same
and the memory keeps holding the stack. -/
namespace SlabAllocator.Slab

/-- What happens to a slab, the writes of owners included. -/
inductive Call
  | alloc
  | free (address : Nat)
  | write (start length : Nat) (content : Nat → UInt8)

/-- What a call answers. -/
inductive Response
  | handed (slot : Option Nat)
  | released (outcome : Except Fault Transition)
  | written
  deriving DecidableEq

/-- Carries out a call on the slab at `base`. -/
def perform (base : Nat) (memory : Memory) : Call → Response × Memory
  | .alloc =>
    match alloc? memory base with
    | none => (.handed none, memory)
    | some (address, after) => (.handed (some address), after)
  | .free address =>
    match free memory base address with
    | .error fault => (.released (.error fault), memory)
    | .ok (transition, after) => (.released (.ok transition), after)
  | .write start length content => (.written, memory.paint start length content)

/-- Carries out calls one after the other. -/
def performAll (base : Nat) (memory : Memory) : List Call → List Response × Memory
  | [] => ([], memory)
  | call :: rest =>
    let (response, after) := perform base memory call
    let (responses, last) := performAll base after rest
    (response :: responses, last)

namespace Stack

/-- What a stack makes of a call. -/
def perform (shape : Shape) (stack : Stack) : Call → Response × Stack
  | .alloc =>
    match stack.alloc? shape.capacity with
    | none => (.handed none, stack)
    | some (slot, after) => (.handed (some (shape.slot slot)), after)
  | .free address =>
    match stack.free shape address with
    | .error fault => (.released (.error fault), stack)
    | .ok (transition, after) => (.released (.ok transition), after)
  | .write .. => (.written, stack)

/-- What a stack makes of calls one after the other. -/
def performAll (shape : Shape) (stack : Stack) : List Call → List Response × Stack
  | [] => ([], stack)
  | call :: rest =>
    let (response, after) := stack.perform shape call
    let (responses, last) := performAll shape after rest
    (response :: responses, last)

/-- A call nobody is blamed for: a slot behind the head of the chain is not freed
again, and what is written lies in a live slot. -/
def Admits (shape : Shape) (stack : Stack) : Call → Prop
  | .alloc => True
  | .free address => address ∉ (stack.freed.map shape.slot).tail
  | .write start length _ =>
    ∃ slot ∈ stack.live, Region.Within ⟨start, length⟩ ⟨shape.slot slot, shape.elementSize⟩

/-- Nobody is to blame for any of these calls. -/
def AdmitsAll (shape : Shape) (stack : Stack) : List Call → Prop
  | [] => True
  | call :: rest => stack.Admits shape call ∧ AdmitsAll shape (stack.perform shape call).2 rest

instance (shape : Shape) (stack : Stack) (call : Call) : Decidable (stack.Admits shape call) :=
  match call with
  | .alloc => inferInstanceAs (Decidable True)
  | .free address => inferInstanceAs (Decidable (address ∉ (stack.freed.map shape.slot).tail))
  | .write start length _ => inferInstanceAs (Decidable (∃ slot ∈ stack.live,
      Region.Within ⟨start, length⟩ ⟨shape.slot slot, shape.elementSize⟩))

instance decideAdmitsAll (shape : Shape) : ∀ (stack : Stack) (calls : List Call),
    Decidable (stack.AdmitsAll shape calls)
  | _, [] => inferInstanceAs (Decidable True)
  | stack, call :: rest =>
    have := decideAdmitsAll shape (stack.perform shape call).2 rest
    inferInstanceAs (Decidable (_ ∧ _))

end Stack

variable {memory made : Memory} {shape : Shape} {stack : Stack}

namespace Holds

theorem perform_alloc (holds : Holds memory shape stack) :
    (perform shape.base memory .alloc).1 = (stack.perform shape .alloc).1 ∧
      Holds (perform shape.base memory .alloc).2 shape (stack.perform shape .alloc).2 := by
  unfold perform Stack.perform
  cases handed : stack.alloc? shape.capacity with
  | none =>
    rw [holds.alloc?_none handed]
    exact ⟨rfl, holds⟩
  | some taken =>
    obtain ⟨slot, after⟩ := taken
    obtain ⟨served, kept⟩ := holds.alloc?_some handed
    rw [served]
    exact ⟨rfl, kept⟩

theorem perform_free (holds : Holds memory shape stack) {address : Nat}
    (admitted : stack.Admits shape (.free address)) :
    (perform shape.base memory (.free address)).1 = (stack.perform shape (.free address)).1 ∧
      Holds (perform shape.base memory (.free address)).2 shape
        (stack.perform shape (.free address)).2 := by
  have answered := holds.free_eq admitted
  unfold perform Stack.perform
  simp only [answered]
  cases taken : stack.free shape address with
  | error fault => exact ⟨rfl, holds⟩
  | ok result =>
    obtain ⟨transition, after⟩ := result
    exact ⟨rfl, holds.free_holds taken⟩

/-- One call keeps memory and stack in step. -/
theorem perform (holds : Holds memory shape stack) {call : Call}
    (admitted : stack.Admits shape call) :
    (Slab.perform shape.base memory call).1 = (stack.perform shape call).1 ∧
      Holds (Slab.perform shape.base memory call).2 shape (stack.perform shape call).2 := by
  cases call with
  | alloc => exact holds.perform_alloc
  | free address => exact holds.perform_free admitted
  | write start length content =>
    obtain ⟨slot, live, within⟩ := admitted
    exact ⟨rfl, holds.write_live live within (memory.changedWithin_paint start length content)⟩

/-- Any number of calls keeps memory and stack in step. -/
theorem performAll {calls : List Call} (holds : Holds memory shape stack)
    (admitted : stack.AdmitsAll shape calls) :
    (Slab.performAll shape.base memory calls).1 = (stack.performAll shape calls).1 ∧
      Holds (Slab.performAll shape.base memory calls).2 shape
        (stack.performAll shape calls).2 := by
  induction calls generalizing memory stack with
  | nil => exact ⟨rfl, holds⟩
  | cons call rest ih =>
    obtain ⟨here, later⟩ := admitted
    obtain ⟨same, kept⟩ := holds.perform here
    obtain ⟨sameRest, keptRest⟩ := ih kept later
    exact ⟨congrArg₂ List.cons same sameRest, keptRest⟩

/-- The length of the chain, read off the header. -/
theorem freed_length (holds : Holds memory shape stack) :
    stack.freed.length =
      ((Header.load memory shape.base).nextOffset - (Header.load memory shape.base).firstOffset) /
          (Header.load memory shape.base).elementSize -
        (Header.load memory shape.base).allocated := by
  have parts := holds.partition.card_add
  have cursor : (shape.firstOffset + stack.used shape.capacity * shape.elementSize -
      shape.firstOffset) / shape.elementSize = stack.used shape.capacity := by
    rw [Nat.add_sub_cancel_left, Nat.mul_div_cancel _ holds.usable.elementSize_pos]
  rw [holds.header]
  show _ = (shape.firstOffset + stack.used shape.capacity * shape.elementSize -
    shape.firstOffset) / shape.elementSize - stack.live.card
  rw [cursor]
  unfold Stack.used
  omega

end Holds

namespace Stack

/-- What the operations of a stack answer and do, said slot by slot. -/
structure Lawful (stack : Stack) (capacity : Nat) : Prop where
  exhausted : stack.alloc? capacity = none ↔ ∀ slot < capacity, slot ∈ stack.live
  recycled : ∀ slot rest, stack.freed = slot :: rest →
    stack.alloc? capacity = some (slot, ⟨insert slot stack.live, rest, stack.unused⟩)
  bumped : ∀ slot after, stack.freed = [] → stack.alloc? capacity = some (slot, after) →
    after = ⟨insert slot stack.live, [], stack.unused - 1⟩ ∧ slot ∉ stack.live ∧
      ∀ other < slot, other ∈ stack.live
  pushed : ∀ slot ∈ stack.live,
    stack.release slot = ⟨stack.live.erase slot, slot :: stack.freed, stack.unused⟩
  emptied : ∀ slot ∈ stack.live, stack.transition capacity = .emptied ↔
    stack.live.card = 1 ∧ (stack.release slot).live.card = 0
  reopened : ∀ slot ∈ stack.live, stack.transition capacity = .reopened ↔
    stack.live.card = capacity ∧ (stack.release slot).live.card = capacity - 1 ∧ capacity - 1 ≠ 0

theorem Partition.mem_live_of_card_eq {capacity : Nat} (partition : stack.Partition capacity)
    (full : stack.live.card = capacity) {slot : Nat} (inside : slot < capacity) :
    slot ∈ stack.live := by
  have parts := partition.card_add
  have noFreed : stack.freed = [] := List.eq_nil_of_length_eq_zero (by omega)
  have used : slot < stack.used capacity := by
    unfold used
    omega
  simpa [noFreed] using (partition.used_iff slot).1 used

theorem Partition.lawful {capacity : Nat} (partition : stack.Partition capacity) :
    stack.Lawful capacity where
  exhausted := by
    rw [partition.alloc?_eq_none_iff]
    constructor
    · intro full slot inside
      exact partition.mem_live_of_card_eq full inside
    · intro everything
      refine Nat.le_antisymm partition.card_le ?_
      rw [← Finset.card_range capacity]
      exact Finset.card_le_card fun slot member => everything slot (Finset.mem_range.1 member)
  recycled := by
    intro slot rest freed
    unfold Stack.alloc?
    rw [freed]
  bumped := by
    intro slot after freed handed
    rcases alloc?_cases handed with ⟨rest, nonempty, -⟩ | ⟨-, -, rfl, rfl⟩
    · simp [freed] at nonempty
    · refine ⟨rfl, (partition.alloc?_live handed).1, fun other below => ?_⟩
      simpa [freed] using (partition.used_iff other).1 below
  pushed := fun _ _ => rfl
  emptied := by
    intro slot live
    rw [transition_eq_emptied_iff, card_release live]
    omega
  reopened := by
    intro slot live
    have some : stack.live.card ≠ 0 := Finset.card_ne_zero_of_mem live
    rw [transition_eq_reopened_iff, card_release live]
    omega

/-- Every slot is exactly one of live, given back and never handed out. -/
theorem Partition.exactly_one {capacity : Nat} (partition : stack.Partition capacity) (slot : Nat) :
    (slot ∈ stack.live ∧ slot ∉ stack.freed ∧ slot < stack.used capacity) ∨
      (slot ∉ stack.live ∧ slot ∈ stack.freed ∧ slot < stack.used capacity) ∨
      (slot ∉ stack.live ∧ slot ∉ stack.freed ∧ stack.used capacity ≤ slot) := by
  by_cases live : slot ∈ stack.live
  · exact .inl ⟨live, fun freed => partition.apart slot freed live, partition.lt_used_of_live live⟩
  · by_cases freed : slot ∈ stack.freed
    · exact .inr (.inl ⟨live, freed, partition.lt_used_of_freed freed⟩)
    · refine .inr (.inr ⟨live, freed, Nat.le_of_not_lt fun below => ?_⟩)
      exact ((partition.used_iff slot).1 below).elim live freed

end Stack

/-- **A slab refines a stack of slots.** From a freshly made slab on, whatever the
memory held before, every call is answered as the stack answers it, and after any
number of calls header and chain say what the stack says: the slots are divided
into live, given back and never used, and the chain from the head meets each slot
given back once and then ends. -/
theorem slab_refines_stack (placed : 0 < shape.base) (bounded : shape.base + shape.size < wordLimit)
    (formatted : format? memory shape.base shape.size shape.elementSize = some made)
    {calls : List Call} (admitted : (Stack.fresh shape.capacity).AdmitsAll shape calls) :
    let last := (performAll shape.base made calls).2
    let stack := ((Stack.fresh shape.capacity).performAll shape calls).2
    let header := Header.load last shape.base
    (performAll shape.base made calls).1 =
        ((Stack.fresh shape.capacity).performAll shape calls).1 ∧
      stack.Lawful shape.capacity ∧
      (∀ slot < shape.capacity,
        (slot ∈ stack.live ∧ slot ∉ stack.freed ∧ slot < stack.used shape.capacity) ∨
        (slot ∉ stack.live ∧ slot ∈ stack.freed ∧ slot < stack.used shape.capacity) ∨
        (slot ∉ stack.live ∧ slot ∉ stack.freed ∧ stack.used shape.capacity ≤ slot)) ∧
      stack.live.card + stack.freed.length + stack.unused = shape.capacity ∧
      header.slabSize = shape.size ∧ header.elementSize = shape.elementSize ∧
      header.maxCount = shape.capacity ∧ header.allocated = stack.live.card ∧
      shape.base + header.nextOffset = shape.slot (stack.used shape.capacity) ∧
      Chained last header.freeHead (stack.freed.map shape.slot) ∧
      (stack.freed.map shape.slot).Nodup ∧
      stack.freed.length =
        (header.nextOffset - header.firstOffset) / header.elementSize - header.allocated := by
  have usable := Holds.usable_of_format? placed bounded formatted
  obtain ⟨changed, same, holds, -⟩ := Holds.format? usable memory
  obtain rfl : changed = made := Option.some.inj (same.symm.trans formatted)
  -- What is left to show is read off the header and the chain after the last call.
  obtain ⟨agree, kept⟩ := holds.performAll admitted
  refine ⟨agree, kept.partition.lawful, fun slot _ => kept.partition.exactly_one slot,
    kept.partition.card_add, ?_, ?_, ?_, ?_, ?_, ?_, ?_, kept.freed_length⟩
  · rw [kept.header]
    rfl
  · rw [kept.header]
    rfl
  · rw [kept.header]
    rfl
  · rw [kept.header]
    rfl
  · rw [kept.header]
    unfold Shape.header Shape.slot
    simp only
    omega
  · rw [kept.header]
    exact kept.chain
  · exact kept.partition.once.map_on fun first _ second _ equal => usable.slot_inj.1 equal

/-- Four slots at 4096, of which three fit. The second is written to and freed, its
double free is refused, and it is the next to be handed out. -/
theorem slab_refines_stack_three_slots :
    let shape : Shape := ⟨4096, 88, 8⟩
    let calls : List Call := [.alloc, .alloc, .alloc, .alloc, .write 4170 4 fun _ => 7,
      .free 4168, .free 4168, .free 4100, .alloc, .free 4160, .free 4176, .free 4168, .free 4168]
    ∃ made, format? .zeroed 4096 88 8 = some made ∧
      (Stack.fresh shape.capacity).AdmitsAll shape calls ∧
      (performAll 4096 made calls).1 =
        [.handed (some 4160), .handed (some 4168), .handed (some 4176), .handed none, .written,
          .released (.ok .reopened), .released (.error (.doubleFree 4168)),
          .released (.error (.foreignPointer 4100)), .handed (some 4168),
          .released (.ok .reopened), .released (.ok .unchanged), .released (.ok .emptied),
          .released (.error (.doubleFree 4168))] := by
  intro shape calls
  have admitted : (Stack.fresh shape.capacity).AdmitsAll shape calls := by decide
  have formats : ∃ made, format? .zeroed 4096 88 8 = some made := ⟨_, rfl⟩
  obtain ⟨made, formatted⟩ := formats
  refine ⟨made, formatted, admitted, ?_⟩
  have refined := slab_refines_stack (by decide) (by decide) formatted admitted
  exact refined.1.trans (by decide)

end SlabAllocator.Slab
