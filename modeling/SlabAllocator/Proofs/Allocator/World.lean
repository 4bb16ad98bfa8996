import SlabAllocator.Allocator
import SlabAllocator.Proofs.ElementPool.Refinement
import SlabAllocator.Shelf

/-! Pools at work together with everybody around them. A world is an allocator with
the books its users keep: which elements are live, which blocks are on their way to
a pool, which were taken from a source directly. Acts are what can happen, one at a
time. A request that needs a block is two acts, `request` and `publish`, and any
other acts can come between the two, so requests nest and overlap freely.

A run is honest when the system and the sources grant ranges nobody holds, direct
users of a source give back what they took from it, owners write into their own
elements only, and nobody frees an element that waits behind the head of its chain. -/
namespace SlabAllocator

/-- A range that a slab can be made of: not at zero, at a whole word, within memory. -/
def Region.Placed (region : Region) : Prop :=
  0 < region.start ∧ region.start % wordBytes = 0 ∧ region.finish < wordLimit

instance (region : Region) : Decidable region.Placed :=
  inferInstanceAs (Decidable (_ ∧ _))

/-- A block that a source has handed over for a pool that has not carved it yet. -/
structure Window where
  pool : String
  region : Region
  deriving DecidableEq

/-- A block that was taken from a source directly. -/
structure Loan where
  source : String
  region : Region
  deriving DecidableEq

/-- An allocator with the books of its users. -/
structure World (σ : Type) where
  allocator : Allocator σ
  /-- Elements handed out and not taken back, by pool, oldest first. -/
  live : List (String × Nat)
  windows : List Window
  lent : List Loan

/-- What can happen. -/
inductive Act (σ : Type)
  /-- A pool is made. -/
  | create (name source : String) (blockSize elementSize : Nat) (config : ElementPool.Config)
  /-- A pool is set up with a resident slab of `count` elements. -/
  | setUp (name : String) (count : Nat)
  /-- An element is asked for. -/
  | request (name : String)
  /-- A block on its way is carved and its first element handed out. -/
  | publish (window : Window)
  /-- An address is given back. -/
  | release (name : String) (address : Nat)
  /-- Somebody writes. -/
  | write (start length : Nat) (content : Nat → UInt8)
  /-- A block is taken from a source directly. -/
  | take (source : String)
  /-- A block taken directly is given back. -/
  | give (loan : Loan)
  /-- A pool ends. -/
  | drop (name : String)
  /-- Anything happens to sources, system, announcements and journal. -/
  | outside (other : Allocator σ)

namespace World

variable {σ : Type}

/-- A world in which no pool was made yet. -/
def start (allocator : Allocator σ) : World σ :=
  ⟨{ allocator with pools := .empty }, [], [], []⟩

/-- The pool of a name. -/
def pool? (world : World σ) (name : String) : Option ElementPool :=
  (world.allocator.pools.find? name).map Tenant.pool

/-- The ranges of the slabs of all pools. -/
def slabs (world : World σ) : List Region :=
  world.allocator.pools.entries.flatMap fun entry => entry.2.pool.regions

/-- Every range in somebody's hands. -/
def regions (world : World σ) : List Region :=
  world.slabs ++ world.windows.map Window.region ++ world.lent.map Loan.region

/-- The range of an element. -/
def element (world : World σ) (element : String × Nat) : Region :=
  ⟨element.2, ((world.pool? element.1).map ElementPool.elementSize).getD 0⟩

variable [BlockSource σ]

/-- Bytes in each block of a source. -/
def blockSizeOf (world : World σ) (source : String) : Nat :=
  ((world.allocator.sources.find? source).map BlockSource.blockSize).getD 0

/-- The range that an act gets from the system or from a source. -/
def granted (world : World σ) : Act σ → Option Region
  | .setUp name count =>
    match world.pool? name with
    | none => none
    | some pool =>
      match pool.init world.allocator.memory world.allocator.system count with
      | .ok setup => setup.pool.resident.map Resident.region
      | .error _ => none
  | .request name =>
    match world.allocator.seek name with
    | (.awaiting _ block, _) =>
      some ⟨block, ((world.pool? name).map ElementPool.blockSize).getD 0⟩
    | (.settled _, _) => none
  | .take source =>
    match world.allocator.takeBlock source with
    | (.ok block, _) => some ⟨block, world.blockSizeOf source⟩
    | (.error _, _) => none
  | _ => none

/-- The pool of a name lets an element at this address go, whatever its source says. -/
def accepts (world : World σ) (name : String) (address : Nat) : Bool :=
  match world.pool? name with
  | none => false
  | some pool =>
    match pool.free world.allocator.memory address with
    | .ok _ => true
    | .error _ => false

/-- Carries out an act. -/
def perform (world : World σ) : Act σ → World σ
  | .create name source blockSize elementSize config =>
    { world with allocator := { world.allocator with
        pools := world.allocator.pools.insert name
          ⟨.new blockSize elementSize config, source⟩ } }
  | .setUp name count =>
    { world with allocator := (world.allocator.initPool name count).2 }
  | .request name =>
    match world.allocator.seek name with
    | (.settled (.ok address), after) =>
      { world with allocator := after, live := world.live ++ [(name, address)] }
    | (.settled (.error _), after) => { world with allocator := after }
    | (.awaiting _ block, after) =>
      { world with
        allocator := after
        windows := ⟨name, block, ((world.pool? name).map ElementPool.blockSize).getD 0⟩ ::
          world.windows }
  | .publish window =>
    match world.allocator.publish window.pool window.region.start with
    | (.ok address, after) =>
      { world with
        allocator := after
        live := world.live ++ [(window.pool, address)]
        windows := world.windows.erase window }
    | (.error _, after) =>
      { world with allocator := after, windows := world.windows.erase window }
  | .release name address =>
    { world with
      allocator := (world.allocator.free name address).2
      live := if world.accepts name address then world.live.erase (name, address)
        else world.live }
  | .write start length content =>
    { world with allocator := { world.allocator with
        memory := world.allocator.memory.paint start length content } }
  | .take source =>
    match world.allocator.takeBlock source with
    | (.ok block, after) =>
      { world with
        allocator := after
        lent := ⟨source, block, world.blockSizeOf source⟩ :: world.lent }
    | (.error _, after) => { world with allocator := after }
  | .give loan =>
    match world.allocator.giveBlock loan.source loan.region.start with
    | (.ok (), after) => { world with allocator := after, lent := world.lent.erase loan }
    | (.error _, after) => { world with allocator := after }
  | .drop name =>
    { world with
      allocator := world.allocator.dropPool name
      live := world.live.filter fun element => element.1 ≠ name }
  | .outside other =>
    { world with allocator := { other with
        memory := world.allocator.memory
        pools := world.allocator.pools } }

/-- Carries out acts one after the other. -/
def run (world : World σ) : List (Act σ) → World σ
  | [] => world
  | act :: rest => (world.perform act).run rest

/-! ## Honest runs -/

/-- A range nobody holds. -/
def Fresh (world : World σ) (region : Region) : Prop :=
  region.Placed ∧ ∀ held ∈ world.regions, region.Apart held

/-- Who may write: the owner of an element into it, others outside all slabs. -/
def Writable (world : World σ) (region : Region) : Prop :=
  (∃ element ∈ world.live, region.Within (world.element element)) ∨
    ∀ slab ∈ world.slabs, region.Apart slab

/-- What is asked of the users of the pools. -/
def Obeys (world : World σ) : Act σ → Prop
  | .create name .. => name ∉ world.allocator.pools.names
  | .publish window => window ∈ world.windows
  | .release name address =>
    ∀ pool ∈ world.pool? name, ∀ base ∈ pool.bases,
      address ∉ (Slab.freeList world.allocator.memory base).tail
  | .write start length _ => world.Writable ⟨start, length⟩
  | .give loan => loan ∈ world.lent
  | .drop name => ∀ window ∈ world.windows, window.pool ≠ name
  | _ => True

/-- Nobody is to blame for an act. -/
def Honest (world : World σ) (act : Act σ) : Prop :=
  (∀ region ∈ world.granted act, world.Fresh region) ∧ world.Obeys act

/-- Nobody is to blame for any of these acts. -/
def HonestRun (world : World σ) : List (Act σ) → Prop
  | [] => True
  | act :: rest => world.Honest act ∧ (world.perform act).HonestRun rest

/-- An honest run leads to this world. -/
def Reachable (world : World σ) : Prop :=
  ∃ allocator acts, (World.start allocator).HonestRun acts ∧
    world = (World.start allocator).run acts

instance (world : World σ) (region : Region) : Decidable (world.Fresh region) :=
  inferInstanceAs (Decidable (_ ∧ _))

instance (world : World σ) (region : Region) : Decidable (world.Writable region) :=
  inferInstanceAs (Decidable (_ ∨ _))

instance (world : World σ) (act : Act σ) : Decidable (world.Obeys act) :=
  match act with
  | .create name .. => inferInstanceAs (Decidable (name ∉ world.allocator.pools.names))
  | .publish window => inferInstanceAs (Decidable (window ∈ world.windows))
  | .release name address => inferInstanceAs (Decidable (∀ pool ∈ world.pool? name,
      ∀ base ∈ pool.bases, address ∉ (Slab.freeList world.allocator.memory base).tail))
  | .write start length _ => inferInstanceAs (Decidable (world.Writable ⟨start, length⟩))
  | .give loan => inferInstanceAs (Decidable (loan ∈ world.lent))
  | .drop name => inferInstanceAs (Decidable (∀ window ∈ world.windows, window.pool ≠ name))
  | .setUp .. | .request _ | .take _ | .outside _ => inferInstanceAs (Decidable True)

instance (world : World σ) (act : Act σ) : Decidable (world.Honest act) :=
  inferInstanceAs (Decidable (_ ∧ _))

instance decideHonestRun : ∀ (world : World σ) (acts : List (Act σ)),
    Decidable (world.HonestRun acts)
  | _, [] => inferInstanceAs (Decidable True)
  | world, act :: rest =>
    have := decideHonestRun (world.perform act) rest
    inferInstanceAs (Decidable (_ ∧ _))

/-- A world with one shelf of three blocks, for runs that are carried out in full. -/
def workshop : World Shelf :=
  .start { (Allocator.start .zeroed (.budgeted 65536) : Allocator Shelf) with
    sources := ⟨[("shelf", .new 65536 4096 3 [0, 1, 2])]⟩ }

/-- Two pools at work on the shelf. Two requests overlap, and the later one gets its slab
first. The narrow slab comes and goes, and its block is lent to somebody for a while. One
of the addresses given back is nobody's. -/
def workday : List (Act Shelf) :=
  [.create "wide" "shelf" 4096 2000 .standard, .setUp "wide" 1,
    .create "narrow" "shelf" 4096 4032 .standard, .setUp "narrow" 0,
    .request "wide", .request "wide", .request "wide",
    .publish ⟨"wide", 69632, 4096⟩, .request "wide", .publish ⟨"wide", 65536, 4096⟩,
    .request "narrow", .publish ⟨"narrow", 73728, 4096⟩, .write 73800 16 fun _ => 7,
    .release "narrow" 73792, .release "wide" 69728, .take "shelf",
    .release "wide" 77824, .give ⟨"shelf", 73728, 4096⟩]

theorem workday_reachable : (workshop.run workday).Reachable :=
  ⟨_, workday, by decide +kernel, rfl⟩

end World

end SlabAllocator
