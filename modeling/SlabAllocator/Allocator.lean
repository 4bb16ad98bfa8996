import SlabAllocator.BlockSource
import SlabAllocator.ElementPool
import SlabAllocator.Table

/-! Element pools at work on shared sources of blocks, in one memory and on one
system. Between a source handing over a block and the pool making a slab of it
other requests can be served; such an interlude is announced beforehand and runs
at the next block its source hands over. -/
namespace SlabAllocator

/-- A pool with the name of the source it draws on. -/
structure Tenant where
  pool : ElementPool
  source : String

/-- Requests to be served while the next block of a source is on its way. -/
structure Interlude where
  pool : String
  count : Nat
  deriving DecidableEq, Repr

/-- Memory, system, sources and pools. -/
structure Allocator (σ : Type) where
  memory : Memory
  system : System
  sources : Table σ
  pools : Table Tenant
  /-- Announced interludes, by source. -/
  interludes : Table Interlude
  /-- Every address handed out, oldest first. -/
  handed : Array Nat
  /-- What was noted down, oldest first. -/
  journal : List Event

/-- The answer to a request for an element, with the answers of its interlude. -/
inductive Reply
  | answered (interlude : List Reply) (outcome : Except Fault Nat)

namespace Reply

/-- The answers to the requests served in the meantime. -/
def interlude : Reply → List Reply
  | .answered interlude _ => interlude

/-- The answer to the request itself. -/
def outcome : Reply → Except Fault Nat
  | .answered _ outcome => outcome

end Reply

namespace Allocator

variable {σ : Type}

/-- An allocator without sources and pools. -/
def start (memory : Memory) (policy : Policy) : Allocator σ :=
  ⟨memory, .start policy, .empty, .empty, .empty, #[], []⟩

/-- Adds to the journal. -/
def note (allocator : Allocator σ) (events : List Event) : Allocator σ :=
  { allocator with journal := allocator.journal ++ events }

/-- Remembers an address that is handed out. -/
def hand (allocator : Allocator σ) (address : Nat) : Allocator σ :=
  { allocator with handed := allocator.handed.push address }

/-- Replaces a pool, which keeps its source. -/
def setPool (allocator : Allocator σ) (name : String) (tenant : Tenant) (pool : ElementPool) :
    Allocator σ :=
  { allocator with pools := allocator.pools.insert name { tenant with pool := pool } }

/-- The fault of asking a pool or a source that is not there. -/
def absent : Fault :=
  .notInitialized ElementPool.component

/-- Refuses a request, noting the fault down if it is one to note. -/
def refuse {α : Type} (allocator : Allocator σ) (fault : Fault) : Except Fault α × Allocator σ :=
  (.error fault, allocator.note fault.events)

variable [BlockSource σ]

/-- Takes a block from a source. -/
def takeBlock (allocator : Allocator σ) (source : String) : Except Fault Nat × Allocator σ :=
  match allocator.sources.find? source with
  | none => allocator.refuse absent
  | some supply =>
    match BlockSource.take supply allocator.system with
    | .error fault => allocator.refuse fault
    | .ok taken =>
      let after := { allocator with
        sources := allocator.sources.insert source taken.source
        system := taken.system }
      (.ok taken.block, after.note taken.events)

/-- Gives a block back to a source. -/
def giveBlock (allocator : Allocator σ) (source : String) (block : Nat) :
    Except Fault Unit × Allocator σ :=
  match allocator.sources.find? source with
  | none => allocator.refuse absent
  | some supply =>
    match BlockSource.give supply allocator.system block with
    | .error fault => allocator.refuse fault
    | .ok (supply, system) =>
      (.ok (), { allocator with
        sources := allocator.sources.insert source supply
        system := system })

/-- Sets a pool up with a resident slab of `count` elements. -/
def initPool (allocator : Allocator σ) (name : String) (count : Nat) :
    Except Fault Unit × Allocator σ :=
  match allocator.pools.find? name with
  | none => allocator.refuse absent
  | some tenant =>
    match tenant.pool.init allocator.memory allocator.system count with
    | .error fault => allocator.refuse fault
    | .ok setup =>
      let after := { allocator.setPool name tenant setup.pool with
        memory := setup.memory
        system := setup.system }
      (.ok (), after.note (tenant.pool.initEvents count))

/-- How far a request for an element gets before other requests can come between. -/
inductive Progress
  /-- It was answered. -/
  | settled (outcome : Except Fault Nat)
  /-- No slab had room. A block of this source is on its way. -/
  | awaiting (source : String) (block : Nat)

section monadic

omit [BlockSource σ]

variable {m : Type → Type} [Monad m]

/-- Begins a request: it is served from a slab with room, or a block is asked for in the
way given. -/
def seekM (allocator : Allocator σ)
    (ask : Allocator σ → String → m (Except Fault Nat × Allocator σ)) (name : String) :
    m (Progress × Allocator σ) :=
  match allocator.pools.find? name with
  | none =>
    let (outcome, after) := allocator.refuse absent
    pure (.settled outcome, after)
  | some tenant =>
    if ¬ tenant.pool.ready then
      let (outcome, after) := allocator.refuse (.notInitialized ElementPool.component)
      pure (.settled outcome, after)
    else
      match tenant.pool.attempt allocator.memory with
      | .served address pool memory =>
        let after := { allocator.setPool name tenant pool with memory := memory }
        pure (.settled (.ok address), after.hand address)
      | .drained pool memory => do
        let waiting := { allocator.setPool name tenant pool with memory := memory }
        match ← ask waiting tenant.source with
        | (.error fault, after) => pure (.settled (.error fault), after)
        | (.ok block, after) => pure (.awaiting tenant.source block, after)

/-- Makes a block that has arrived a slab of the pool that asked for it, and
hands out its first element. A block that is unfit is offered back in the way given. -/
def publishM (allocator : Allocator σ)
    (offer : Allocator σ → String → Nat → m (Except Fault Unit × Allocator σ)) (name : String)
    (block : Nat) : m (Except Fault Nat × Allocator σ) :=
  match allocator.pools.find? name with
  | none => pure (allocator.refuse absent)
  | some tenant =>
    match tenant.pool.adopt? allocator.memory block with
    | some adopted =>
      let after := { allocator.setPool name tenant adopted.pool with memory := adopted.memory }
      pure (.ok adopted.address,
        (after.note [.slabCarved adopted.finish adopted.capacity]).hand adopted.address)
    | none => do
      match ← offer allocator tenant.source block with
      | (.error fault, after) => pure (.error fault, after)
      | (.ok (), after) => pure (after.refuse tenant.pool.unfitBlock)

/-- Hands out an element of a pool. What is served `between` the arrival of a block and the
carving of the slab is answered along with it. -/
def allocM (allocator : Allocator σ)
    (ask : Allocator σ → String → m (Except Fault Nat × Allocator σ))
    (offer : Allocator σ → String → Nat → m (Except Fault Unit × Allocator σ))
    (between : Allocator σ → String → m (List Reply × Allocator σ)) (name : String) :
    m (Reply × Allocator σ) := do
  match ← allocator.seekM ask name with
  | (.settled outcome, after) => pure (.answered [] outcome, after)
  | (.awaiting source block, after) =>
    let (replies, during) ← between after source
    let (outcome, last) ← during.publishM offer name block
    pure (.answered replies outcome, last)

end monadic

/-- Begins a request: it is served from a slab with room, or a block is taken for it. -/
def seek (allocator : Allocator σ) (name : String) : Progress × Allocator σ :=
  Id.run (allocator.seekM (fun waiting source => pure (waiting.takeBlock source)) name)

/-- Makes a block that has arrived a slab, or gives it straight back if it is unfit. -/
def publish (allocator : Allocator σ) (name : String) (block : Nat) :
    Except Fault Nat × Allocator σ :=
  Id.run (allocator.publishM (fun holding source block => pure (holding.giveBlock source block))
    name block)

/-- How the requests of an interlude are served: so many of them, one after the
other, by one pool. -/
abbrev Serve (σ : Type) := Allocator σ → Interlude → List Reply × Allocator σ

/-- Serves the interlude announced for a source, if there is one. -/
def runInterlude (serve : Serve σ) (allocator : Allocator σ) (source : String) :
    List Reply × Allocator σ :=
  match allocator.interludes.find? source with
  | none => ([], allocator)
  | some interlude =>
    serve { allocator with interludes := allocator.interludes.erase source } interlude

/-- Hands out an element of a pool, with interludes served as given. The interlude
of a source is served between the arrival of its block and the carving of the slab. -/
def allocWith (serve : Serve σ) (allocator : Allocator σ) (name : String) : Reply × Allocator σ :=
  Id.run (allocator.allocM (fun waiting source => pure (waiting.takeBlock source))
    (fun holding source block => pure (holding.giveBlock source block))
    (fun after source => pure (after.runInterlude serve source)) name)

/-- Repeats a request. -/
def repeated (request : Allocator σ → Reply × Allocator σ) :
    Nat → Allocator σ → List Reply × Allocator σ
  | 0, allocator => ([], allocator)
  | count + 1, allocator =>
    let (reply, after) := request allocator
    let (replies, last) := repeated request count after
    (reply :: replies, last)

/-- Hands out an element when at most `depth` interludes are announced. Each
interlude is served at a smaller depth, because it is no longer announced. -/
def allocAt : Nat → Allocator σ → String → Reply × Allocator σ
  | 0 => allocWith fun allocator _ => ([], allocator)
  | depth + 1 => allocWith fun allocator interlude =>
    repeated (fun during => allocAt depth during interlude.pool) interlude.count allocator

/-- Hands out an element of a pool. -/
def alloc (allocator : Allocator σ) (name : String) : Reply × Allocator σ :=
  allocAt allocator.interludes.size allocator name

/-- Takes an element back. When its slab is empty then, the block of the slab
goes back to the source; should the source refuse, its fault is the answer, but
the pool has let go of the block all the same. -/
def free (allocator : Allocator σ) (name : String) (address : Nat) :
    Except Fault Unit × Allocator σ :=
  match allocator.pools.find? name with
  | none => allocator.refuse absent
  | some tenant =>
    match tenant.pool.free allocator.memory address with
    | .error fault => allocator.refuse fault
    | .ok freed =>
      let after := { allocator.setPool name tenant freed.pool with memory := freed.memory }
      match freed.retired with
      | none => (.ok (), after)
      | some base =>
        match after.giveBlock tenant.source base with
        | (.error fault, last) => (.error fault, last)
        | (.ok (), last) => (.ok (), last.note [.slabRetired (base + tenant.pool.blockSize)])

/-- Takes slabs off the rings they are on and offers their blocks back to a source,
one after the other; one that the source refuses is noted down and left. -/
def returnSlabs (allocator : Allocator σ) (source : String) (sentinels : ElementPool.Sentinels) :
    List Nat → Allocator σ
  | [] => allocator
  | base :: rest =>
    let store : ElementPool.Threading := ⟨sentinels, allocator.memory⟩
    let rings := Rings.unlink ⟨store, rest.length + 1⟩ base
    match { allocator with memory := rings.store.memory }.giveBlock source base with
    | (.ok (), after) => after.returnSlabs source rings.store.sentinels rest
    | (.error fault, after) =>
      (after.note [.returnRefused fault]).returnSlabs source rings.store.sentinels rest

/-- Ends a pool: its carved slabs go back to its source and its resident slab to
the system. Elements still handed out are noted down. -/
def dropPool (allocator : Allocator σ) (name : String) : Allocator σ :=
  match allocator.pools.find? name with
  | none => allocator
  | some tenant =>
    let pool := tenant.pool
    let warned :=
      if 0 < pool.live then allocator.note [.droppedLive pool.live pool.elementSize] else allocator
    let returned := warned.returnSlabs tenant.source pool.sentinels (pool.slabs allocator.memory)
    { returned with
      system := match pool.resident with
        | some resident => returned.system.release resident.region
        | none => returned.system
      pools := returned.pools.erase name }

/-- Ends every pool, oldest first. -/
def dropPools (allocator : Allocator σ) : Allocator σ :=
  allocator.pools.names.foldl dropPool allocator

end Allocator

end SlabAllocator
