import SlabAllocator.Place
import SlabAllocator.Slab

/-! Scripts of operations on one slab. Every slot handed out gets the next
handle; a handle keeps its address when the slot is given back. -/
namespace SlabAllocator.Slab

/-- One slab, the memory it lies in and the addresses handed out so far. -/
structure Bench where
  memory : Memory
  base : Nat
  handles : Array Nat

/-- One operation on the slab of a bench. Offsets count from its start. -/
inductive Operation
  | alloc (count : Nat)
  /-- Gives back the address of a handle, moved by a distance. -/
  | free (handle : Nat) (distance : Int)
  | freeAt (offset : Int)
  | contains (offset : Int)
  /-- Where the slab begins. -/
  | start
  /-- Where the slab ends. -/
  | finish
  | isLinked
  deriving DecidableEq, Repr

/-- What an operation answers. -/
inductive Answer
  /-- The offsets of the slots handed out, none where the slab had no room. -/
  | slots (offsets : List (Option Nat))
  | released (transition : Transition)
  | refused (fault : Fault)
  | flag (value : Bool)
  | offset (value : Nat)
  deriving DecidableEq, Repr

namespace Bench

/-- Where the range of a bench begins. -/
def origin : Nat := .pow 2 61

/-- A bench whose slab was just made, if there is one of these sizes. -/
def start? (slabSize elementSize : Nat) : Option Bench :=
  (format? .zeroed origin slabSize elementSize).map fun memory => ⟨memory, origin, #[]⟩

/-- The header of the slab. -/
def header (bench : Bench) : Header :=
  Header.load bench.memory bench.base

/-- The range of the slab by name. -/
def place (bench : Bench) : Place :=
  ⟨"slab", bench.base, bench.header.slabSize⟩

/-- Asks for several slots, one after the other. -/
def alloc (bench : Bench) : Nat → List (Option Nat) × Bench
  | 0 => ([], bench)
  | count + 1 =>
    match alloc? bench.memory bench.base with
    | none =>
      let (rest, last) := bench.alloc count
      (none :: rest, last)
    | some (address, memory) =>
      let after : Bench := { bench with memory := memory, handles := bench.handles.push address }
      let (rest, last) := after.alloc count
      (some (address - bench.base) :: rest, last)

/-- Gives an address back to the slab. -/
def release (bench : Bench) (address : Nat) : Answer × Bench :=
  match Slab.free bench.memory bench.base address with
  | .error fault => (.refused fault, bench)
  | .ok (transition, memory) => (.released transition, { bench with memory := memory })

/-- Performs one operation. -/
def step (bench : Bench) : Operation → Answer × Bench
  | .alloc count =>
    let (offsets, after) := bench.alloc count
    (.slots offsets, after)
  | .free handle distance => bench.release (displaced (bench.handles.getD handle 0) distance)
  | .freeAt offset => bench.release (displaced bench.base offset)
  | .contains offset =>
    (.flag (Slab.contains bench.memory bench.base (displaced bench.base offset)), bench)
  | .start => (.offset 0, bench)
  | .finish => (.offset (endAddress bench.memory bench.base - bench.base), bench)
  | .isLinked => (.flag (Slab.isLinked bench.memory bench.base), bench)

end Bench

/-- One answer of a script, with the header after it and what was noted down. -/
structure Outcome where
  answer : Answer
  header : Header
  events : List Event
  deriving DecidableEq, Repr

/-- What an answer adds to the journal. -/
def Answer.events : Answer → List Event
  | .refused fault => fault.events
  | _ => []

/-- Runs a script on a bench. -/
def run (bench : Bench) : List Operation → List Outcome
  | [] => []
  | operation :: rest =>
    let (answer, after) := bench.step operation
    ⟨answer, after.header, answer.events⟩ :: run after rest

end SlabAllocator.Slab
