import SlabAllocator.Assertion
import SlabAllocator.Event
import SlabAllocator.Memory

/-! Slabs: ranges of memory that hand out slots of one size. A slab starts with
a header and keeps its slots packed against its end, so what is left over lies
between the two:

```text
base            base + first offset                       base + size
| header | slack | slot 0 | slot 1 | ... | slot capacity-1 |
```

All bookkeeping is in the memory itself. Slots that were handed out and given
back form a chain through their own first words, most recent first; slots from
the cursor on have never been handed out. -/
namespace SlabAllocator.Slab

/-- Bytes at the start of a slab that hold its header: two link words for the
ring the slab is on, then six words of bookkeeping. -/
def headerBytes : Nat := 64

/-- The bookkeeping of a slab. -/
structure Header where
  /-- Bytes in the slab, header included. -/
  slabSize : Nat
  /-- Bytes in each slot. -/
  elementSize : Nat
  /-- Slots in the slab. -/
  maxCount : Nat
  /-- Slots handed out. -/
  allocated : Nat
  /-- Where the slots that were never handed out begin, from the start of the slab. -/
  nextOffset : Nat
  /-- The slot given back most recently, zero if there is none. -/
  freeHead : Nat
  deriving DecidableEq, Repr

namespace Header

/-- Reads the header of the slab at `base`. -/
def load (memory : Memory) (base : Nat) : Header :=
  ⟨memory.word (base + 16), memory.word (base + 24), memory.word (base + 32),
    memory.word (base + 40), memory.word (base + 48), memory.word (base + 56)⟩

/-- Writes the header of the slab at `base`. -/
def store (header : Header) (memory : Memory) (base : Nat) : Memory :=
  (((((memory.setWord (base + 16) header.slabSize).setWord (base + 24) header.elementSize).setWord
    (base + 32) header.maxCount).setWord (base + 40) header.allocated).setWord
    (base + 48) header.nextOffset).setWord (base + 56) header.freeHead

/-- Every slot is handed out. -/
def isFull (header : Header) : Bool :=
  header.allocated == header.maxCount

/-- No slot is handed out. -/
def isEmpty (header : Header) : Bool :=
  header.allocated == 0

/-- Where slot 0 begins, from the start of the slab. -/
def firstOffset (header : Header) : Nat :=
  header.slabSize - header.maxCount * header.elementSize

end Header

/-- Makes a range a slab with every slot vacant. There is no slab when the range
is not a whole number of words, when slots would not be, or when not a single
one fits behind the header. -/
def format? (memory : Memory) (base slabSize elementSize : Nat) : Option Memory :=
  if elementSize < wordBytes ∨ elementSize % wordBytes ≠ 0 ∨ slabSize % wordBytes ≠ 0 ∨
      slabSize ≤ headerBytes then none
  else
    let maxCount := (slabSize - headerBytes) / elementSize
    if maxCount = 0 then none
    else
      let header : Header :=
        ⟨slabSize, elementSize, maxCount, 0, slabSize - maxCount * elementSize, 0⟩
      some (header.store ((memory.setWord base 0).setWord (base + 8) 0) base)

/-- Makes a range a slab. If its sizes are right it has to begin at a word. -/
def formatAligned? (memory : Memory) (base slabSize elementSize : Nat) :
    Except Assertion (Option Memory) :=
  if elementSize < wordBytes ∨ elementSize % wordBytes ≠ 0 ∨ slabSize % wordBytes ≠ 0 ∨
      slabSize ≤ headerBytes then .ok none
  else if base % wordBytes ≠ 0 then .error .alignedBase
  else .ok (format? memory base slabSize elementSize)

/-- Hands out a slot: the one given back most recently, else the lowest that was
never handed out. A slab without vacant slots is left as it is. -/
def alloc? (memory : Memory) (base : Nat) : Option (Nat × Memory) :=
  let header := Header.load memory base
  if header.allocated = header.maxCount then none
  else if header.freeHead ≠ 0 then
    let taken := { header with
      freeHead := memory.word header.freeHead, allocated := header.allocated + 1 }
    some (header.freeHead, taken.store memory base)
  else if header.nextOffset < header.slabSize then
    let taken := { header with
      nextOffset := header.nextOffset + header.elementSize, allocated := header.allocated + 1 }
    some (base + header.nextOffset, taken.store memory base)
  else none

/-- What giving a slot back meant for the slab. -/
inductive Transition
  /-- Its last live slot came back. -/
  | emptied
  /-- It had no room and has room again. -/
  | reopened
  /-- Neither. -/
  | unchanged
  deriving DecidableEq, Repr

/-- Takes a slot back and puts it at the head of the chain. An address that is
no slot handed out before is foreign; a slab with nothing handed out, or a slot
already at the head of the chain, is freed twice. -/
def free (memory : Memory) (base address : Nat) : Except Fault (Transition × Memory) :=
  let header := Header.load memory base
  let first := base + header.firstOffset
  if address < first ∨ base + header.nextOffset ≤ address ∨
      (address - first) % header.elementSize ≠ 0 then
    .error (.foreignPointer address)
  else if header.allocated = 0 ∨ address = header.freeHead then .error (.doubleFree address)
  else
    let released := { header with freeHead := address, allocated := header.allocated - 1 }
    let transition :=
      if released.isEmpty then .emptied else if header.isFull then .reopened else .unchanged
    .ok (transition, released.store (memory.setWord address header.freeHead) base)

/-- One past the last byte of the slab. -/
def endAddress (memory : Memory) (base : Nat) : Nat :=
  base + (Header.load memory base).slabSize

/-- Whether an address lies in the part of the slab that holds slots. -/
def contains (memory : Memory) (base address : Nat) : Bool :=
  let header := Header.load memory base
  base + header.firstOffset ≤ address && address < base + header.slabSize

/-- Whether the link words of the header thread the slab onto a ring. -/
def isLinked (memory : Memory) (base : Nat) : Bool :=
  memory.word base != 0

namespace Header

/-- Every number of the header fits in a word. -/
structure Fits (header : Header) : Prop where
  slabSize : header.slabSize < wordLimit
  elementSize : header.elementSize < wordLimit
  maxCount : header.maxCount < wordLimit
  allocated : header.allocated < wordLimit
  nextOffset : header.nextOffset < wordLimit
  freeHead : header.freeHead < wordLimit

/-- A header is read back as it was written. -/
theorem load_store {header : Header} (fits : header.Fits) (memory : Memory) (base : Nat) :
    load (header.store memory base) base = header := by
  obtain ⟨slabSize, elementSize, maxCount, allocated, nextOffset, freeHead⟩ := fits
  simp (disch := first | assumption | (simp only [wordBytes]; omega)) only
    [load, store, Memory.word_setWord, Memory.word_setWord_of_disjoint]

/-- Writing a header touches no byte outside the header. -/
theorem byte_store_of_outside (header : Header) (memory : Memory) {base address : Nat}
    (outside : address < base + 16 ∨ base + headerBytes ≤ address) :
    (header.store memory base).byte address = memory.byte address := by
  simp only [headerBytes] at outside
  simp only [store, Memory.setWord, Memory.byte_paint, wordBytes]
  rw [if_neg (by omega), if_neg (by omega), if_neg (by omega), if_neg (by omega),
    if_neg (by omega), if_neg (by omega)]

end Header

end SlabAllocator.Slab
