import SlabAllocator.Allocator
import SlabAllocator.Place
import SlabAllocator.Supplier

/-! Sessions: allocators whose sources are block pools and shelves, with names
for the regions that come up. -/
namespace SlabAllocator

/-- An allocator on block pools and shelves. -/
abbrev Session := Allocator Supplier

namespace Session

/-- The bytes the system grants at most until told otherwise. -/
def standardBudget : Nat := .pow 2 24

/-- A session in which nothing was made yet and all memory is zero. -/
def start : Session :=
  Allocator.start .zeroed (.budgeted standardBudget)

/-- What a name stands for. -/
inductive Subject
  | source (supplier : Supplier)
  /-- An element pool, with the source it draws on. -/
  | pool (pool : ElementPool.InMemory) (source : Option Supplier)

/-- What a name stands for at present. -/
def subject? (session : Session) (name : String) : Option Subject :=
  match session.sources.find? name with
  | some supplier => some (.source supplier)
  | none => (session.pools.find? name).map fun tenant =>
      .pool ⟨tenant.pool, session.memory⟩ (session.sources.find? tenant.source)

/-- The block pool of a name. -/
def blockPool? (session : Session) (name : String) : Option BlockPool :=
  match session.sources.find? name with
  | some (.ofPool pool) => some pool
  | _ => none

/-- The shelf of a name. -/
def shelf? (session : Session) (name : String) : Option Shelf :=
  match session.sources.find? name with
  | some (.ofShelf shelf) => some shelf
  | _ => none

/-- The element pool of a name. -/
def elementPool? (session : Session) (name : String) : Option ElementPool :=
  (session.pools.find? name).map Tenant.pool

/-- Bytes in each block of a source; a source that is not there has none. -/
def blockSizeOf (session : Session) (source : String) : Nat :=
  match session.sources.find? source with
  | some supplier => supplier.blockSize
  | none => 0

/-! ## Regions by name -/

/-- The regions of shelves, newest first. -/
def shelfPlaces (session : Session) : List Place :=
  (session.sources.entries.filterMap fun (name, supplier) =>
    match supplier with
    | .ofShelf shelf => some ⟨name, shelf.region.start, shelf.region.size⟩
    | .ofPool _ => none).reverse

/-- The regions the system has granted, named by their number. -/
def systemPlaces (session : Session) : List Place :=
  session.system.granted.reverse.zipIdx.map fun (region, number) =>
    ⟨"m" ++ toString number, region.start, region.size⟩

/-- All regions that have names. -/
def places (session : Session) : List Place :=
  session.systemPlaces ++ session.shelfPlaces

/-- Where the region of the next shelf starts. Shelves lie above everything the
system grants. -/
def nextShelfStart (session : Session) : Nat :=
  Region.following (.pow 2 61)
    (session.shelfPlaces.map fun place => ⟨place.start, place.size⟩)

/-! ## Changes -/

/-- Gives a name a source. -/
def setSource (session : Session) (name : String) (supplier : Supplier) : Session :=
  { session with sources := session.sources.insert name supplier }

/-- Gives a name an element pool on a source. -/
def addPool (session : Session) (name source : String) (pool : ElementPool) : Session :=
  { session with pools := session.pools.insert name ⟨pool, source⟩ }

/-- Exchanges the policy of the system for a budget. -/
def setBudget (session : Session) (bytes : Nat) : Session :=
  { session with system := { session.system with policy := .budgeted bytes } }

/-- Announces an interlude for the next block of a source. -/
def announce (session : Session) (source : String) (interlude : Interlude) : Session :=
  { session with interludes := session.interludes.insert source interlude }

/-- Sets a block pool up and gives it a name, or changes nothing. -/
def setUpBlocks (session : Session) (name : String) (pool : BlockPool) (count : Nat) :
    Except Fault Unit × Session :=
  match pool.init session.system count with
  | .error fault => session.refuse fault
  | .ok (ready, system) =>
    (.ok (), Allocator.note { session.setSource name (.ofPool ready) with system := system }
      (pool.initEvents count))

/-- Sets an element pool up and gives it a name, or changes nothing. -/
def setUpPool (session : Session) (name source : String) (pool : ElementPool) (count : Nat) :
    Except Fault Unit × Session :=
  match pool.init session.memory session.system count with
  | .error fault => session.refuse fault
  | .ok setup =>
    (.ok (), Allocator.note { session.addPool name source setup.pool with
        memory := setup.memory
        system := setup.system }
      (pool.initEvents count))

/-- Ends a block pool. -/
def dropBlocks (session : Session) (name : String) (pool : BlockPool) : Session :=
  { session with
    sources := session.sources.erase name
    system := pool.drop session.system }

/-- Fills a range of memory, as the owner of an element does. -/
def fill (session : Session) (start length : Nat) (byte : UInt8) : Session :=
  { session with memory := session.memory.fill start length byte }

/-- Asks a source for several blocks, one after the other. -/
def takeBlocks (session : Session) (source : String) : Nat → List (Except Fault Nat) × Session
  | 0 => ([], session)
  | count + 1 =>
    let (outcome, after) := session.takeBlock source
    let handed := match outcome with
      | .ok block => after.hand block
      | .error _ => after
    let (outcomes, last) := takeBlocks handed source count
    (outcome :: outcomes, last)

/-- Gives addresses back, one after the other. -/
def giveAll (give : Session → Nat → Except Fault Unit × Session) (session : Session) :
    List Nat → List (Except Fault Unit) × Session
  | [] => ([], session)
  | address :: rest =>
    let (outcome, after) := give session address
    let (outcomes, last) := giveAll give after rest
    (outcome :: outcomes, last)

/-- Empties the journal. -/
def freshJournal (session : Session) : Session :=
  { session with journal := [] }

/-- The system once all sources are gone. -/
def dropSources (session : Session) : System :=
  session.sources.entries.foldl (fun system entry => entry.2.drop system) session.system

end Session

end SlabAllocator
