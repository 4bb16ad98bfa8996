import SlabAllocator.Fault

/-! The journal of an allocator: what its pools note down while they work. -/
namespace SlabAllocator

/-- How much an event matters. -/
inductive Level
  | error
  | warn
  | debug
  | trace
  deriving DecidableEq, Repr

/-- The word an entry of this level starts with. -/
def Level.name : Level → String
  | .error => "ERROR"
  | .warn => "WARN"
  | .debug => "DEBUG"
  | .trace => "TRACE"

/-- One entry of the journal. -/
inductive Event
  /-- An address was given back that the pool had never handed out. -/
  | foreignFree (address : Nat)
  /-- An address was given back to a slab that had nothing outstanding. -/
  | repeatedFree (address : Nat)
  /-- Bookkeeping was found damaged. -/
  | corruption (component details : String)
  /-- A block pool was set up. -/
  | blockPoolReady (blockSize cacheCount : Nat)
  /-- A block came from the system because the cache had none left. -/
  | cacheDrained (blockSize : Nat)
  /-- An element pool was set up. -/
  | elementPoolReady (elementSize cacheCount blockSize : Nat)
  /-- A block became a slab, which ends at `slabEnd` and has `capacity` slots. -/
  | slabCarved (slabEnd capacity : Nat)
  /-- The block of an empty slab was given back. -/
  | slabRetired (slabEnd : Nat)
  /-- An element pool went away with elements still handed out. -/
  | droppedLive (live elementSize : Nat)
  /-- A source would not take a block back from a pool going away. -/
  | returnRefused (fault : Fault)
  deriving DecidableEq, Repr

namespace Event

/-- The level each kind of entry is noted at. -/
def level : Event → Level
  | .foreignFree .. => .error
  | .repeatedFree .. => .error
  | .corruption .. => .error
  | .blockPoolReady .. => .debug
  | .cacheDrained .. => .trace
  | .elementPoolReady .. => .debug
  | .slabCarved .. => .trace
  | .slabRetired .. => .trace
  | .droppedLive .. => .warn
  | .returnRefused .. => .warn

/-- The text of an entry, with addresses written by `place`. -/
def message (place : Nat → String) : Event → String
  | .foreignFree address => "free of pointer " ++ place address ++ " that this pool never allocated"
  | .repeatedFree address =>
    "free of pointer " ++ place address ++ " into a slab with no live elements"
  | .corruption component details => "Memory corruption: " ++ component ++ " - " ++ details
  | .blockPoolReady .. => "block pool initialized"
  | .cacheDrained .. => "block cache drained, allocated from system"
  | .elementPoolReady .. => "slab pool initialized"
  | .slabCarved .. => "carved new slab"
  | .slabRetired .. => "retired empty slab"
  | .droppedLive .. => "slab pool dropped with live elements"
  | .returnRefused .. => "block source rejected a slab on teardown"

/-- The named values an entry carries, in order. -/
def values (place : Nat → String) : Event → List (String × String)
  | .foreignFree .. => []
  | .repeatedFree .. => []
  | .corruption .. => []
  | .blockPoolReady blockSize cacheCount =>
    [("block_size", toString blockSize), ("cache_count", toString cacheCount)]
  | .cacheDrained blockSize => [("block_size", toString blockSize)]
  | .elementPoolReady elementSize cacheCount blockSize =>
    [("element_size", toString elementSize), ("cache_count", toString cacheCount),
      ("block_size", toString blockSize)]
  | .slabCarved slabEnd capacity => [("slab_end", place slabEnd), ("capacity", toString capacity)]
  | .slabRetired slabEnd => [("slab_end", place slabEnd)]
  | .droppedLive live elementSize =>
    [("live", toString live), ("element_size", toString elementSize)]
  | .returnRefused fault => [("error", fault.message place)]

/-- The line an entry is written as: its level, its text, then its values. -/
def line (place : Nat → String) (event : Event) : String :=
  " ".intercalate (event.level.name :: event.message place ::
    (event.values place).map fun (name, value) => name ++ "=" ++ value)

end Event

/-- Faults that a caller or damaged memory has caused are noted where they
arise; the others are only answered. -/
def Fault.event? : Fault → Option Event
  | .foreignPointer address => some (.foreignFree address)
  | .doubleFree address => some (.repeatedFree address)
  | .corruption component details => some (.corruption component details)
  | _ => none

/-- What a fault adds to the journal. -/
def Fault.events (fault : Fault) : List Event :=
  fault.event?.toList

end SlabAllocator
