import Mathlib.Combinatorics.Pigeonhole
import SlabAllocator.Proofs.Slab.Refinement

/-! What is left of a slab when any address may be freed, a slot that waits in the chain
included. Such a slot is met twice then, and the stack of slots is lost. As long as nobody
else writes, a slab is in one of two states all the same: it still holds a stack, or its
chain has closed to a knot that every further call leaves closed. Counts, cursor and sizes
are right in both. -/
namespace SlabAllocator.Slab

/-- A call of the slab itself. -/
def Call.Quiet : Call → Prop
  | .write .. => False
  | .alloc | .free _ => True

instance : ∀ call : Call, Decidable call.Quiet
  | .alloc => inferInstanceAs (Decidable True)
  | .free _ => inferInstanceAs (Decidable True)
  | .write .. => inferInstanceAs (Decidable False)

namespace Response

/-- A slot was handed out. -/
def handsOut : Response → Bool
  | .handed (some _) => true
  | _ => false

/-- An address was taken back. -/
def takesBack : Response → Bool
  | .released (.ok _) => true
  | _ => false

end Response

/-- The chain of the slab at `base` never ends: however far it is followed, it has led to a
slot that was handed out at some time. -/
def Endless (memory : Memory) (base : Nat) : Prop :=
  ∀ count, IsSlot memory base (memory.word^[count] (Header.load memory base).freeHead)

/-- The memory holds a slab whose chain is closed: it begins in the knot, and no link leads
out of the knot. -/
structure Knotted (memory : Memory) (shape : Shape) (allocated used : Nat) (knot : List Nat) :
    Prop where
  usable : shape.Usable
  allocated_le : allocated ≤ shape.capacity
  used_le : used ≤ shape.capacity
  header : ∃ head ∈ knot,
    Header.load memory shape.base = shape.bookkeeping allocated used head
  slots : ∀ address ∈ knot, ∃ slot < used, address = shape.slot slot
  closed : ∀ address ∈ knot, memory.word address ∈ knot

/-- The memory holds a slab that nobody but its own calls has written to. -/
inductive Kept (memory : Memory) (shape : Shape) : Nat → Nat → Prop
  | exact {stack : Stack} (holds : Holds memory shape stack) :
    Kept memory shape stack.live.card (stack.used shape.capacity)
  | knotted {allocated used : Nat} {knot : List Nat}
    (knotted : Knotted memory shape allocated used knot) : Kept memory shape allocated used

variable {memory after made : Memory} {shape : Shape} {stack : Stack} {knot : List Nat}
  {allocated used address : Nat}

/-! ## Chains and knots -/

/-- A chain that is followed to its end leads to zero. -/
theorem Chained.follow {link : Nat} {addresses : List Nat}
    (chained : Chained memory link addresses) : memory.word^[addresses.length] link = 0 := by
  induction addresses generalizing link with
  | nil => exact chained
  | cons first rest ih =>
    obtain ⟨rfl, -, chained⟩ := chained
    rw [List.length_cons, Function.iterate_succ_apply]
    exact ih chained

/-- Whatever comes before an address of a chain leads no further than to that address. -/
theorem Chained.word_mem {link last : Nat} {front back : List Nat}
    (chained : Chained memory link (front ++ last :: back)) :
    ∀ address ∈ front, memory.word address ∈ front ++ [last] := by
  induction front generalizing link with
  | nil => exact fun _ absurd => by cases absurd
  | cons first rest ih =>
    obtain ⟨-, -, chained⟩ := chained
    intro address member
    rcases List.mem_cons.1 member with rfl | later
    · cases rest with
      | nil => exact List.mem_cons_of_mem _ (by simp [chained.1])
      | cons second others => exact List.mem_cons_of_mem _ (by simp [chained.1])
    · exact List.mem_cons_of_mem _ (ih chained address later)

namespace Knotted

theorem isSlot_iff (knotted : Knotted memory shape allocated used knot) (address : Nat) :
    IsSlot memory shape.base address ↔ ∃ slot < used, address = shape.slot slot := by
  obtain ⟨head, -, loaded⟩ := knotted.header
  exact isSlot_iff_of_load knotted.usable loaded address

theorem endless (knotted : Knotted memory shape allocated used knot) :
    Endless memory shape.base := by
  obtain ⟨head, member, loaded⟩ := knotted.header
  have inside : ∀ count, memory.word^[count] head ∈ knot := by
    intro count
    induction count with
    | zero => exact member
    | succ count ih =>
      rw [Function.iterate_succ_apply']
      exact knotted.closed _ ih
  intro count
  rw [knotted.isSlot_iff, loaded]
  exact knotted.slots _ (inside count)

/-- Writing the bookkeeping of a closed chain completes the slab. -/
theorem of_store {head : Nat} (usable : shape.Usable) (out : allocated ≤ shape.capacity)
    (below : used ≤ shape.capacity) (member : head ∈ knot)
    (slots : ∀ address ∈ knot, ∃ slot < used, address = shape.slot slot)
    (closed : ∀ address ∈ knot, memory.word address ∈ knot) :
    Knotted ((shape.bookkeeping allocated used head).store memory shape.base) shape allocated used
      knot := by
  -- The header is read back because its numbers fit, and the links because no slot reaches into it.
  have small : head < wordLimit := by
    obtain ⟨slot, inside, rfl⟩ := slots head member
    exact usable.slot_lt_wordLimit (Nat.lt_of_lt_of_le inside below)
  refine ⟨usable, out, below, ⟨head, member,
    Header.load_store (usable.fits_bookkeeping out below small) memory shape.base⟩, slots, ?_⟩
  intro address known
  obtain ⟨slot, -, rfl⟩ := slots address known
  have same := (((shape.bookkeeping allocated used head).changedWithin_store memory
    shape.base).agree (.inl (usable.header_le_slot slot) :
      Region.Apart ⟨shape.base, headerBytes⟩ ⟨shape.slot slot, wordBytes⟩)).word_eq
  rw [same]
  exact closed _ known

end Knotted

/-- A chain that ends is not endless. -/
theorem Holds.not_endless (holds : Holds memory shape stack) : ¬ Endless memory shape.base := by
  intro endless
  have last := endless (stack.freed.map shape.slot).length
  rw [holds.header] at last
  rw [show (shape.header stack).freeHead = shape.head stack.freed from rfl,
    holds.chain.follow] at last
  obtain ⟨slot, -, zero⟩ := (holds.isSlot_iff 0).1 last
  exact Nat.ne_of_lt (holds.usable.slot_pos slot) zero

/-! ## One call -/

/-- The bytes of a slab that calls write once `used` slots were handed out: the bookkeeping of
the header and the link words of these slots. -/
def Shape.Bookkept (shape : Shape) (used address : Nat) : Prop :=
  shape.base + 16 ≤ address ∧ address < shape.base + headerBytes ∨
    ∃ slot < used, shape.slot slot ≤ address ∧ address < shape.slot slot + wordBytes

/-- What calls make of a slab: from one memory to the next, with these responses. -/
structure Endures (shape : Shape) (memory : Memory) (allocated used : Nat)
    (responses : List Response) (after : Memory) (allocatedAfter usedAfter : Nat) : Prop where
  kept : Kept after shape allocatedAfter usedAfter
  counted : allocatedAfter + responses.countP Response.takesBack =
    allocated + responses.countP Response.handsOut
  onward : used ≤ usedAfter
  handed : ∀ address, .handed (some address) ∈ responses →
    ∃ slot < usedAfter, address = shape.slot slot
  frame : ∀ address, ¬ shape.Bookkept usedAfter address →
    after.byte address = memory.byte address
  endless : Endless memory shape.base → Endless after shape.base

namespace Endures

/-- Calls that are refused, or find every slot handed out, change nothing. -/
theorem still {responses : List Response} (kept : Kept memory shape allocated used)
    (idle : ∀ response ∈ responses,
      response.handsOut = false ∧ response.takesBack = false) :
    Endures shape memory allocated used responses memory allocated used where
  kept := kept
  counted := by
    rw [List.countP_eq_zero.2 fun response member => by simp [idle response member],
      List.countP_eq_zero.2 fun response member => by simp [idle response member]]
  onward := Nat.le_refl _
  handed := fun address member => by cases (idle _ member).1
  frame := fun _ _ => rfl
  endless := id

theorem trans {middle : Memory} {some more allocatedMiddle usedMiddle allocatedAfter usedAfter}
    (first : Endures shape memory allocated used some middle allocatedMiddle usedMiddle)
    (second : Endures shape middle allocatedMiddle usedMiddle more after allocatedAfter usedAfter) :
    Endures shape memory allocated used (some ++ more) after allocatedAfter usedAfter where
  kept := second.kept
  counted := by
    have early := first.counted
    have late := second.counted
    rw [List.countP_append, List.countP_append]
    omega
  onward := Nat.le_trans first.onward second.onward
  handed := by
    intro address member
    rcases List.mem_append.1 member with early | late
    · obtain ⟨slot, below, same⟩ := first.handed address early
      exact ⟨slot, Nat.lt_of_lt_of_le below second.onward, same⟩
    · exact second.handed address late
  frame := by
    intro address outside
    refine (second.frame address outside).trans (first.frame address fun inside => outside ?_)
    exact inside.imp_right fun ⟨slot, below, within⟩ =>
      ⟨slot, Nat.lt_of_lt_of_le below second.onward, within⟩
  endless := second.endless ∘ first.endless

end Endures

/-- What is written outside the bookkeeping of a slab is nothing. -/
private theorem byte_store (shape : Shape) (header : Header) (memory : Memory)
    (outside : ¬ shape.Bookkept used address) :
    (header.store memory shape.base).byte address = memory.byte address := by
  refine header.byte_store_of_outside memory ?_
  have header := (not_or.1 outside).1
  omega

private theorem byte_link {slot value : Nat} (memory : Memory) (below : slot < used)
    (outside : ¬ shape.Bookkept used address) :
    (memory.setWord (shape.slot slot) value).byte address = memory.byte address := by
  refine Memory.changedWithin_setWord memory _ _ address ?_
  have link := not_exists.1 (not_or.1 outside).2 slot
  unfold Region.finish
  simp only
  omega

/-- What becomes of an address, told by the bookkeeping alone: it is refused, or the slot
there becomes the head of the chain. -/
theorem free_cases_of_load {head : Nat} (usable : shape.Usable)
    (loaded : Header.load memory shape.base = shape.bookkeeping allocated used head)
    (address : Nat) :
    (∃ fault, Slab.free memory shape.base address = .error fault) ∨
      ∃ slot transition, slot < used ∧ address = shape.slot slot ∧ allocated ≠ 0 ∧
        address ≠ head ∧ Slab.free memory shape.base address =
          .ok (transition, (shape.bookkeeping (allocated - 1) used address).store
            (memory.setWord address head) shape.base) := by
  have foreign := usable.foreign_iff used address
  unfold Slab.free
  rw [loaded]
  simp only
  split
  · exact .inl ⟨_, rfl⟩
  · next inside =>
    split
    · exact .inl ⟨_, rfl⟩
    · next taken =>
      obtain ⟨slot, below, begins⟩ := not_not.1 (mt foreign.2 inside)
      exact .inr ⟨slot, _, below, begins, (not_or.1 taken).1, (not_or.1 taken).2, rfl⟩

/-- A slot that is taken back is counted, and only its link and the header are written. -/
theorem Endures.released {slot head : Nat} {transition : Transition}
    (kept : Kept ((shape.bookkeeping (allocated - 1) used (shape.slot slot)).store
      (memory.setWord (shape.slot slot) head) shape.base) shape (allocated - 1) used)
    (below : slot < used) (out : allocated ≠ 0)
    (endless : Endless memory shape.base →
      Endless ((shape.bookkeeping (allocated - 1) used (shape.slot slot)).store
        (memory.setWord (shape.slot slot) head) shape.base) shape.base) :
    Endures shape memory allocated used [.released (.ok transition)]
      ((shape.bookkeeping (allocated - 1) used (shape.slot slot)).store
        (memory.setWord (shape.slot slot) head) shape.base) (allocated - 1) used where
  kept := kept
  counted := by
    simp only [List.countP_singleton, Response.handsOut, Response.takesBack]
    simp only [↓reduceIte, Bool.false_eq_true]
    omega
  onward := Nat.le_refl _
  handed := fun address absurd => by simp at absurd
  frame := fun address outside =>
    (byte_store shape _ _ outside).trans (byte_link memory below outside)
  endless := endless

namespace Knotted

variable (knotted : Knotted memory shape allocated used knot)

include knotted

/-- A closed chain always leads on, so only the count stops a slab from handing out. -/
theorem alloc : ∃ allocatedAfter, Endures shape memory allocated used
    [(perform shape.base memory .alloc).1] (perform shape.base memory .alloc).2 allocatedAfter
    used := by
  obtain ⟨head, member, loaded⟩ := knotted.header
  obtain ⟨slot, below, begins⟩ := knotted.slots head member
  have present : head ≠ 0 := by
    rw [begins]
    exact Nat.ne_of_gt (knotted.usable.slot_pos slot)
  unfold perform Slab.alloc?
  rw [loaded]
  unfold Shape.bookkeeping
  -- The head of a closed chain is never zero, so the cursor is not looked at.
  by_cases full : allocated = shape.capacity
  · simp only [full, ↓reduceIte]
    exact ⟨allocated, full ▸ .still (.knotted knotted) (by simp [Response.handsOut,
      Response.takesBack])⟩
  · simp only [full, ↓reduceIte, ne_eq, present, not_false_eq_true]
    have room : allocated + 1 ≤ shape.capacity :=
      Nat.lt_of_le_of_ne knotted.allocated_le full
    have next := of_store knotted.usable room knotted.used_le (knotted.closed head member)
      knotted.slots knotted.closed
    refine ⟨allocated + 1, .knotted next, ?_, Nat.le_refl _, fun address handed => ?_,
      fun address outside => byte_store shape _ memory outside, fun _ => next.endless⟩
    · simp [Response.handsOut, Response.takesBack]
    · simp only [List.mem_singleton, Response.handed.injEq, Option.some.injEq] at handed
      subst handed
      exact ⟨slot, below, begins⟩

/-- A slot that is pushed on a closed chain leads into the knot. -/
theorem push {head : Nat} (slot : Nat) (member : head ∈ knot) :
    ∀ other ∈ shape.slot slot :: knot,
      (memory.setWord (shape.slot slot) head).word other ∈ shape.slot slot :: knot := by
  intro other known
  apply List.mem_cons_of_mem
  -- The new head links to the old one, which is in the knot; every other link is as it was.
  by_cases same : other = shape.slot slot
  · obtain ⟨first, inside, rfl⟩ := knotted.slots head member
    rw [same, Memory.word_setWord]
    · exact member
    · exact knotted.usable.slot_lt_wordLimit (Nat.lt_of_lt_of_le inside knotted.used_le)
  · have old := (List.mem_cons.1 known).resolve_left same
    obtain ⟨number, -, rfl⟩ := knotted.slots other old
    have apart := shape.slot_apart fun equal : number = slot => same (congrArg _ equal)
    have wide := knotted.usable.wide
    rw [Memory.word_setWord_of_disjoint]
    · exact knotted.closed _ old
    · omega

theorem free (address : Nat) : ∃ allocatedAfter, Endures shape memory allocated used
    [(perform shape.base memory (.free address)).1] (perform shape.base memory (.free address)).2
    allocatedAfter used := by
  obtain ⟨head, member, loaded⟩ := knotted.header
  unfold perform
  rcases free_cases_of_load knotted.usable loaded address with ⟨fault, refused⟩ |
    ⟨slot, transition, below, rfl, out, -, accepted⟩
  · simp only [refused]
    exact ⟨allocated, .still (.knotted knotted) (by simp [Response.handsOut, Response.takesBack])⟩
  · simp only [accepted]
    have slots : ∀ other ∈ shape.slot slot :: knot, ∃ slot < used, other = shape.slot slot := by
      intro other known
      rcases List.mem_cons.1 known with rfl | old
      · exact ⟨slot, below, rfl⟩
      · exact knotted.slots other old
    have next := of_store knotted.usable (Nat.le_trans (Nat.sub_le _ 1) knotted.allocated_le)
      knotted.used_le List.mem_cons_self slots (knotted.push slot member)
    exact ⟨allocated - 1, .released (.knotted next) below out fun _ => next.endless⟩

end Knotted

namespace Holds

variable (holds : Holds memory shape stack)

include holds

theorem endures_alloc : ∃ allocatedAfter usedAfter, Endures shape memory stack.live.card
    (stack.used shape.capacity) [(Slab.perform shape.base memory .alloc).1]
    (Slab.perform shape.base memory .alloc).2 allocatedAfter usedAfter := by
  unfold Slab.perform
  cases handed : stack.alloc? shape.capacity with
  | none =>
    rw [holds.alloc?_none handed]
    exact ⟨_, _, .still (.exact holds) (by simp [Response.handsOut, Response.takesBack])⟩
  | some taken =>
    obtain ⟨slot, next⟩ := taken
    obtain ⟨answered, kept⟩ := holds.alloc?_some handed
    obtain ⟨vacant, -, live⟩ := holds.partition.alloc?_live handed
    have onward : stack.used shape.capacity ≤ next.used shape.capacity := by
      unfold Stack.used
      rcases Stack.alloc?_cases handed with ⟨rest, -, rfl⟩ | ⟨-, -, -, rfl⟩
      · exact Nat.le_refl _
      · exact Nat.sub_le_sub_left (Nat.sub_le _ _) _
    have counted : next.live.card = stack.live.card + 1 := by
      rw [live, Finset.card_insert_of_notMem vacant]
    rw [answered]
    refine ⟨next.live.card, next.used shape.capacity, .exact kept, ?_, onward,
      fun address given => ?_, fun address outside => byte_store shape _ memory outside,
      fun endless => absurd endless holds.not_endless⟩
    · simp [Response.handsOut, Response.takesBack, counted]
    · simp only [List.mem_singleton, Response.handed.injEq, Option.some.injEq] at given
      refine ⟨slot, kept.partition.lt_used_of_live ?_, given⟩
      rw [live]
      exact Finset.mem_insert_self _ _

/-- A slot that waits behind the head of the chain is pushed again, and closes the chain. -/
theorem closed_of_repeated {slot : Nat} (waiting : slot ∈ stack.freed)
    (behind : shape.slot slot ≠ shape.head stack.freed) :
    ∃ knot, Knotted ((shape.bookkeeping (stack.live.card - 1) (stack.used shape.capacity)
        (shape.slot slot)).store (memory.setWord (shape.slot slot) (shape.head stack.freed))
        shape.base) shape (stack.live.card - 1) (stack.used shape.capacity) knot := by
  have usable := holds.usable
  have partition := holds.partition
  obtain ⟨front, back, row⟩ := List.append_of_mem waiting
  have first : shape.head stack.freed ∈ front.map shape.slot := by
    cases front with
    | nil =>
      rw [row] at behind
      exact absurd rfl behind
    | cons number rest =>
      rw [row]
      exact List.mem_cons_self
  have small : shape.head stack.freed < wordLimit := (usable.fits_header partition).freeHead
  have chain := holds.chain
  have once := partition.once
  rw [row] at once
  rw [row, List.map_append, List.map_cons] at chain
  -- The slots up to the one that came back again: the last of them links to the first.
  refine ⟨front.map shape.slot ++ [shape.slot slot], .of_store usable
    (Nat.le_trans (Nat.sub_le _ _) partition.card_le) partition.used_le (by simp)
    (fun address member => ?_) fun address member => ?_⟩
  · have known : address ∈ stack.freed.map shape.slot := by
      rw [row, List.map_append, List.map_cons]
      simp only [List.mem_append, List.mem_cons, List.not_mem_nil, or_false] at member ⊢
      exact member.imp_right .inl
    obtain ⟨number, freed, rfl⟩ := List.mem_map.1 known
    exact ⟨number, partition.lt_used_of_freed freed, rfl⟩
  · rcases List.mem_append.1 member with early | last
    · obtain ⟨number, inFront, rfl⟩ := List.mem_map.1 early
      have different : number ≠ slot := by
        rintro rfl
        exact (List.nodup_append.1 once).2.2 number inFront number (by simp) rfl
      have apart := shape.slot_apart different
      have wide := usable.wide
      rw [Memory.word_setWord_of_disjoint]
      · exact chain.word_mem _ early
      · omega
    · rw [List.mem_singleton.1 last, Memory.word_setWord _ _ small]
      exact List.mem_append_left _ first

theorem endures_free (address : Nat) : ∃ allocatedAfter, Endures shape memory stack.live.card
    (stack.used shape.capacity) [(Slab.perform shape.base memory (.free address)).1]
    (Slab.perform shape.base memory (.free address)).2 allocatedAfter
    (stack.used shape.capacity) := by
  unfold Slab.perform
  rcases free_cases_of_load holds.usable holds.header address with ⟨fault, refused⟩ |
    ⟨slot, transition, below, rfl, out, behind, accepted⟩
  · simp only [refused]
    exact ⟨_, .still (.exact holds) (by simp [Response.handsOut, Response.takesBack])⟩
  · simp only [accepted]
    refine ⟨stack.live.card - 1, .released ?_ below out
      fun endless => absurd endless holds.not_endless⟩
    -- A live slot leaves the chain exact. One that waits in it already ties a knot.
    rcases (holds.partition.used_iff slot).1 below with live | waiting
    · have kept := Kept.exact (holds.release live)
      rwa [Stack.card_release live] at kept
    · obtain ⟨knot, knotted⟩ := holds.closed_of_repeated waiting behind
      exact .knotted knotted

end Holds

/-- One call that is nobody's write. -/
theorem Kept.perform (kept : Kept memory shape allocated used) {call : Call} (quiet : call.Quiet) :
    ∃ allocatedAfter usedAfter, Endures shape memory allocated used
      [(Slab.perform shape.base memory call).1] (Slab.perform shape.base memory call).2
      allocatedAfter usedAfter := by
  cases call with
  | write => exact absurd quiet id
  | alloc =>
    cases kept with
    | exact holds => exact holds.endures_alloc
    | knotted knotted =>
      obtain ⟨allocatedAfter, endures⟩ := knotted.alloc
      exact ⟨allocatedAfter, _, endures⟩
  | free address =>
    cases kept with
    | exact holds =>
      obtain ⟨allocatedAfter, endures⟩ := holds.endures_free address
      exact ⟨allocatedAfter, _, endures⟩
    | knotted knotted =>
      obtain ⟨allocatedAfter, endures⟩ := knotted.free address
      exact ⟨allocatedAfter, _, endures⟩

/-- Any number of calls. -/
theorem Kept.performAll {calls : List Call} (kept : Kept memory shape allocated used)
    (quiet : ∀ call ∈ calls, call.Quiet) : ∃ allocatedAfter usedAfter,
      Endures shape memory allocated used (Slab.performAll shape.base memory calls).1
        (Slab.performAll shape.base memory calls).2 allocatedAfter usedAfter := by
  induction calls generalizing memory allocated used with
  | nil => exact ⟨_, _, .still kept fun _ absurd => by cases absurd⟩
  | cons call rest ih =>
    obtain ⟨_, _, first⟩ := kept.perform (quiet call List.mem_cons_self)
    obtain ⟨_, _, second⟩ := ih first.kept fun other member =>
      quiet other (List.mem_cons_of_mem _ member)
    exact ⟨_, _, first.trans second⟩

/-! ## What endures -/

/-- What is true of a slab that was made in `made` and has answered like this since. -/
structure Contained (shape : Shape) (made : Memory) (responses : List Response)
    (memory : Memory) : Prop where
  /-- The sizes in the header are as they were. -/
  geometry : (Header.load memory shape.base).slabSize = shape.size ∧
    (Header.load memory shape.base).elementSize = shape.elementSize ∧
    (Header.load memory shape.base).maxCount = shape.capacity
  /-- What was handed out and not taken back is what the header counts. -/
  counted : (Header.load memory shape.base).allocated + responses.countP Response.takesBack =
    responses.countP Response.handsOut
  bounded : (Header.load memory shape.base).allocated ≤ (Header.load memory shape.base).maxCount
  cursor : (Header.load memory shape.base).firstOffset ≤
      (Header.load memory shape.base).nextOffset ∧
    (Header.load memory shape.base).nextOffset ≤ (Header.load memory shape.base).slabSize
  handed : ∀ address, .handed (some address) ∈ responses → IsSlot memory shape.base address
  /-- Nothing is written but the bookkeeping of the header and the links of slots before the
  cursor. -/
  frame : ∀ address,
    (address < shape.base + 16 ∨ shape.base + headerBytes ≤ address) →
    (∀ slot, IsSlot memory shape.base slot → address < slot ∨ slot + wordBytes ≤ address) →
      memory.byte address = made.byte address
  exhausted : alloc? memory shape.base = none ↔
    (Header.load memory shape.base).allocated = (Header.load memory shape.base).maxCount
  /-- The chain has the length the counts say and ends, or it goes round in circles. -/
  chain : (∃ chain, Chained memory (Header.load memory shape.base).freeHead chain ∧
      chain.Nodup ∧ (∀ address ∈ chain, IsSlot memory shape.base address) ∧
      (Header.load memory shape.base).nextOffset = (Header.load memory shape.base).firstOffset +
        ((Header.load memory shape.base).allocated + chain.length) *
          (Header.load memory shape.base).elementSize) ∨
    Endless memory shape.base ∧ ∃ early late, early < late ∧
      memory.word^[early] (Header.load memory shape.base).freeHead =
        memory.word^[late] (Header.load memory shape.base).freeHead

namespace Kept

variable (kept : Kept memory shape allocated used)

include kept

/-- What the header says. -/
theorem load : shape.Usable ∧ allocated ≤ shape.capacity ∧ used ≤ shape.capacity ∧
    ∃ head, Header.load memory shape.base = shape.bookkeeping allocated used head := by
  cases kept with
  | exact holds =>
    exact ⟨holds.usable, holds.partition.card_le, holds.partition.used_le, _, holds.header⟩
  | knotted knotted =>
    obtain ⟨head, -, loaded⟩ := knotted.header
    exact ⟨knotted.usable, knotted.allocated_le, knotted.used_le, head, loaded⟩

theorem isSlot_iff (address : Nat) :
    IsSlot memory shape.base address ↔ ∃ slot < used, address = shape.slot slot := by
  obtain ⟨usable, -, -, head, loaded⟩ := kept.load
  exact isSlot_iff_of_load usable loaded address

theorem alloc?_eq_none_iff : alloc? memory shape.base = none ↔ allocated = shape.capacity := by
  -- An exact slab is full when it is out of slots; a knotted one runs by the count.
  cases kept with
  | @exact stack holds =>
    rw [← holds.partition.alloc?_eq_none_iff]
    cases handed : stack.alloc? shape.capacity with
    | none => simp [holds.alloc?_none handed]
    | some taken =>
      obtain ⟨slot, after⟩ := taken
      simp [(holds.alloc?_some handed).1]
  | knotted knotted =>
    obtain ⟨head, member, loaded⟩ := knotted.header
    obtain ⟨slot, -, begins⟩ := knotted.slots head member
    have present : head ≠ 0 := by
      rw [begins]
      exact Nat.ne_of_gt (knotted.usable.slot_pos slot)
    unfold alloc?
    rw [loaded]
    simp [Shape.bookkeeping, present]

/-- An endless chain repeats itself within as many links as there are slots. -/
theorem repeats (endless : Endless memory shape.base) : ∃ early late, early < late ∧
    memory.word^[early] (Header.load memory shape.base).freeHead =
      memory.word^[late] (Header.load memory shape.base).freeHead := by
  have usable := kept.load.1
  -- More links than slots, so two of them lead to the same slot.
  have more : (Finset.range used).card < (Finset.range (used + 1)).card := by
    simp only [Finset.card_range]
    omega
  obtain ⟨first, -, second, -, different, same⟩ :=
    Finset.exists_ne_map_eq_of_card_lt_of_maps_to more
      (f := fun count =>
        shape.number (memory.word^[count] (Header.load memory shape.base).freeHead))
      (fun count _ => by
        obtain ⟨slot, below, begins⟩ := (kept.isSlot_iff _).1 (endless count)
        simp only [begins, usable.number_slot]
        exact Finset.mem_range.2 below)
  obtain ⟨slot, -, begins⟩ := (kept.isSlot_iff _).1 (endless first)
  obtain ⟨other, -, beginsToo⟩ := (kept.isSlot_iff _).1 (endless second)
  simp only [begins, beginsToo, usable.number_slot] at same
  have meets : memory.word^[first] (Header.load memory shape.base).freeHead =
      memory.word^[second] (Header.load memory shape.base).freeHead := by
    rw [begins, beginsToo, same]
  rcases Nat.lt_or_gt_of_ne different with less | greater
  · exact ⟨first, second, less, meets⟩
  · exact ⟨second, first, greater, meets.symm⟩

theorem chain : (∃ chain, Chained memory (Header.load memory shape.base).freeHead chain ∧
      chain.Nodup ∧ (∀ address ∈ chain, IsSlot memory shape.base address) ∧
      allocated + chain.length = used) ∨ Endless memory shape.base := by
  cases kept with
  | @exact stack holds =>
    refine .inl ⟨stack.freed.map shape.slot, ?_, ?_, fun address member => ?_, ?_⟩
    · rw [holds.header]
      exact holds.chain
    · exact holds.partition.once.map_on fun _ _ _ _ equal => holds.usable.slot_inj.1 equal
    · obtain ⟨slot, freed, rfl⟩ := List.mem_map.1 member
      exact (holds.isSlot_iff _).2 ⟨slot, holds.partition.lt_used_of_freed freed, rfl⟩
    · have parts := holds.partition.card_add
      rw [List.length_map]
      unfold Stack.used
      omega
  | knotted knotted => exact .inr knotted.endless

end Kept

/-- What calls leave of a slab that was just made. -/
theorem Endures.contained {responses : List Response}
    (endures : Endures shape made 0 0 responses memory allocated used) :
    Contained shape made responses memory := by
  have kept := endures.kept
  obtain ⟨usable, out, below, head, loaded⟩ := kept.load
  have counted := endures.counted
  have first : (shape.bookkeeping allocated used head).firstOffset = shape.firstOffset := rfl
  refine ⟨?_, ?_, ?_, ?_, fun address member => ?_, fun address outside apart => ?_, ?_, ?_⟩
  · rw [loaded]
    exact ⟨rfl, rfl, rfl⟩
  · rw [loaded]
    show allocated + _ = _
    omega
  · rw [loaded]
    exact out
  · rw [loaded, first]
    refine ⟨Nat.le_add_right _ _, ?_⟩
    have step := Nat.mul_le_mul_right shape.elementSize below
    have whole := usable.firstOffset_add
    show shape.firstOffset + used * shape.elementSize ≤ shape.size
    omega
  · exact (kept.isSlot_iff address).2 (endures.handed address member)
  -- What is written is the header or a link word in a slot that was handed out before.
  · refine endures.frame address fun inside => ?_
    rcases inside with header | ⟨slot, early, link⟩
    · omega
    · have beside := apart _ ((kept.isSlot_iff _).2 ⟨slot, early, rfl⟩)
      omega
  · rw [kept.alloc?_eq_none_iff, loaded]
    exact Iff.rfl
  · rcases kept.chain with ⟨chain, chained, once, slots, length⟩ | endless
    · refine .inl ⟨chain, chained, once, slots, ?_⟩
      rw [loaded, first, ← length]
      show shape.firstOffset + (allocated + chain.length) * shape.elementSize = _
      rfl
    · exact .inr ⟨endless, kept.repeats endless⟩

/-- **A slot that is freed twice does limited damage.** Whatever is freed, a slab that only
its own calls write to hands out slots before its cursor, as many as are not out, and writes
nothing but its header and the links of these slots. Its cursor never goes back, and a chain
that has closed never ends again. -/
theorem repeated_frees_contained (placed : 0 < shape.base)
    (bounded : shape.base + shape.size < wordLimit)
    (formatted : format? memory shape.base shape.size shape.elementSize = some made)
    {earlier later : List Call} (quiet : ∀ call ∈ earlier ++ later, call.Quiet) :
    let now := performAll shape.base made earlier
    let last := performAll shape.base now.2 later
    Contained shape made now.1 now.2 ∧
      (Header.load now.2 shape.base).nextOffset ≤ (Header.load last.2 shape.base).nextOffset ∧
      (Endless now.2 shape.base → Endless last.2 shape.base) := by
  have usable := Holds.usable_of_format? placed bounded formatted
  obtain ⟨changed, same, holds, -⟩ := Holds.format? usable memory
  obtain rfl : changed = made := Option.some.inj (same.symm.trans formatted)
  have fresh : Kept changed shape 0 0 := by
    have kept := Kept.exact holds
    rwa [show (Stack.fresh shape.capacity).used shape.capacity = 0 from Nat.sub_self _] at kept
  -- The calls up to now, and those after: what the first ones keep is where the second ones start.
  obtain ⟨_, _, before⟩ := fresh.performAll fun call member =>
    quiet call (List.mem_append_left _ member)
  obtain ⟨_, _, behind⟩ := before.kept.performAll fun call member =>
    quiet call (List.mem_append_right _ member)
  refine ⟨before.contained, ?_, behind.endless⟩
  obtain ⟨-, -, -, head, loaded⟩ := before.kept.load
  obtain ⟨-, -, -, headAfter, loadedAfter⟩ := behind.kept.load
  rw [loaded, loadedAfter]
  exact Nat.add_le_add_left (Nat.mul_le_mul_right _ behind.onward) _

/-- Three slots at 4096. The first is freed again while it waits behind the second, so the
two are handed out in turn from then on, and the slab is full while the third is free. -/
theorem repeated_frees_contained_three_slots :
    let shape : Shape := ⟨4096, 88, 8⟩
    let calls : List Call := [.alloc, .alloc, .alloc, .free 4160, .free 4168, .free 4160, .alloc,
      .alloc, .alloc, .alloc]
    ∃ made, format? .zeroed 4096 88 8 = some made ∧ (∀ call ∈ calls, call.Quiet) ∧
      (performAll 4096 made calls).1 =
        [.handed (some 4160), .handed (some 4168), .handed (some 4176),
          .released (.ok .reopened), .released (.ok .unchanged), .released (.ok .emptied),
          .handed (some 4160), .handed (some 4168), .handed (some 4160), .handed none] ∧
      Contained shape made (performAll 4096 made calls).1 (performAll 4096 made calls).2 := by
  intro shape calls
  have formats : ∃ made, format? .zeroed 4096 88 8 = some made := ⟨_, rfl⟩
  obtain ⟨made, formatted⟩ := formats
  have quiet : ∀ call ∈ calls ++ [], call.Quiet := by decide
  have placed : 0 < shape.base := by decide
  have bounded : shape.base + shape.size < wordLimit := by decide
  refine ⟨made, formatted, by decide, ?_,
    (repeated_frees_contained placed bounded formatted quiet).1⟩
  obtain rfl := Option.some.inj (formatted.symm.trans rfl)
  decide +kernel

end SlabAllocator.Slab
