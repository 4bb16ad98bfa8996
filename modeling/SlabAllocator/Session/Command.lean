import SlabAllocator.Session

/-! The language of a session: commands that act on named pools and sources, and
the answers to them. -/
namespace SlabAllocator.Session

/-- An address given with a command. -/
inductive Pointer
  /-- The address that was the `number`-th to be handed out, moved by a distance. -/
  | handle (number : Nat) (distance : Int)
  /-- An address by its distance from the start of a region. -/
  | within (region : String) (distance : Int)
  /-- An address that belongs to no region, by its number. -/
  | bare (number : Nat)
  deriving DecidableEq, Repr

/-- The address a pointer stands for. -/
def Pointer.resolve (session : Session) : Pointer → Nat
  | .handle number distance => displaced (session.handed.getD number 0) distance
  | .within region distance =>
    match session.places.find? fun place => place.name == region with
    | some place => displaced place.start distance
    | none => displaced 0 distance
  | .bare number => foreignAddress number

/-- A command. All but the first two are about the pool or source called `name`. -/
inductive Command
  /-- Changes nothing. -/
  | look
  /-- Limits the bytes the system has granted at any time. -/
  | budget (bytes : Nat)
  | blockNew (name : String) (blockSize : Nat)
  /-- Makes a block pool and sets it up, or makes none. -/
  | blockWithCache (name : String) (blockSize count : Nat)
  | blockInit (name : String) (count : Nat)
  | blockDrop (name : String)
  | blockAlloc (name : String) (count : Nat)
  | blockFree (name : String) (pointers : List Pointer)
  | blockContains (name : String) (pointers : List Pointer)
  | blockStats (name : String)
  | blockDescribe (name : String)
  /-- Makes a shelf. Its slots are handed out in ascending order if none is given. -/
  | shelfNew (name : String) (blockSize slots : Nat) (order : Option (List Nat))
  | shelfRefuse (name : String) (refusing : Bool)
  /-- Announces an interlude of a pool for the next block of the source. -/
  | announce (name pool : String) (count : Nat)
  | poolNew (name source : String) (elementSize : Nat) (config : ElementPool.Config)
  /-- Makes an element pool and sets it up, or makes none. -/
  | poolWithCache (name source : String) (elementSize count : Nat)
  | poolInit (name : String) (count : Nat)
  | poolAlloc (name : String) (count : Nat)
  | poolFree (name : String) (pointers : List Pointer)
  | poolContains (name : String) (pointers : List Pointer)
  /-- The owner of an element fills part of it. -/
  | poolWrite (name : String) (pointer : Pointer) (first last : Nat) (byte : UInt8)
  | poolRead (name : String) (pointer : Pointer) (first last : Nat)
  | poolStats (name : String)
  | poolConfig (name : String)
  | poolDescribe (name : String)
  | poolDrop (name : String)
  deriving DecidableEq, Repr

/-- The answer to a command. -/
inductive Answer
  /-- There is nothing to say, or nothing of that name. -/
  | nothing
  | done
  | refused (fault : Fault)
  /-- Blocks handed out, each an address or why there was none. -/
  | blocks (outcomes : List (Except Fault Nat))
  /-- Elements handed out. -/
  | elements (replies : List Reply)
  /-- What became of each pointer given back. -/
  | releases (outcomes : List (Except Fault Unit))
  | flags (values : List Bool)
  | blockStats (stats : BlockPool.Stats)
  | poolStats (stats : ElementPool.Stats)
  | text (value : String)
  | bytes (values : List UInt8)
  /-- What a source is like after a pool on it is gone. -/
  | sourceAfter (source : Option Supplier)

/-- The answer to a request that was carried out or refused. -/
def Answer.settled {α : Type} : Except Fault Unit × α → Answer × α
  | (.ok (), after) => (.done, after)
  | (.error fault, after) => (.refused fault, after)

/-- The answer to a question about something that may not be there. -/
def Answer.about {α β : Type} (subject : Option α) (answer : α → Answer) (session : β) :
    Answer × β :=
  match subject with
  | some subject => (answer subject, session)
  | none => (.nothing, session)

end SlabAllocator.Session
