import SlabAllocator.Proofs.Allocator.Footing
import SlabAllocator.Proofs.Allocator.Funding
import SlabAllocator.Proofs.Allocator.Supply

/-! Block pools and element pools that are made, set up, used and ended, on a system that
may refuse any request. An estate is a world on block pools with books of what its pools were
set up with: a set-up that succeeds is entered, and a pool that ends is struck out. -/
namespace SlabAllocator

open ElementPool

/-- A world on block pools, with books of the regions its pools asked for. -/
structure Estate where
  world : World Supplier
  /-- Bytes of cache regions, by block pool. -/
  caches : List (String × Nat)
  /-- Bytes of resident slabs, by element pool. -/
  residents : List (String × Nat)
  /-- Blocks of the system that were still lent when their block pool ended. -/
  abandoned : List Region

/-- What can happen. -/
inductive Deed
  /-- Something happens to element pools, or somebody takes or gives a block. -/
  | act (act : Act Supplier)
  /-- A block pool is made. -/
  | openBlocks (name : String) (blockSize : Nat)
  /-- A block pool is set up with `count` blocks. -/
  | setUpBlocks (name : String) (count : Nat)
  /-- A block pool is made and set up, or it is not made. -/
  | buildBlocks (name : String) (blockSize count : Nat)
  /-- An element pool is made and set up, or it is not made. -/
  | buildPool (name source : String) (elementSize : Nat) (config : Config) (count : Nat)
  /-- A block pool ends. -/
  | closeBlocks (name : String)
  /-- The system grants differently from now on. -/
  | exchange (policy : Policy)

namespace Estate

/-- Nothing was made yet. -/
def start (memory : Memory) (policy : Policy) : Estate :=
  ⟨.start (Allocator.start memory policy), [], [], []⟩

/-- The allocator of an estate. -/
def session (estate : Estate) : Session :=
  estate.world.allocator

/-- An estate with another allocator and the same books. -/
def withSession (estate : Estate) (session : Session) : Estate :=
  { estate with world := { estate.world with allocator := session } }

/-- The books once a region of so many bytes was asked for, if any were. -/
def enter (books : List (String × Nat)) (name : String) (count bytes : Nat) :
    List (String × Nat) :=
  if count = 0 then books else (name, bytes) :: books

/-- The books once a pool has ended. -/
def strike (books : List (String × Nat)) (name : String) : List (String × Nat) :=
  books.filter fun entry => entry.1 ≠ name

/-- Bytes of a resident slab of `count` elements. -/
def slabBytes (pool : ElementPool) (count : Nat) : Nat :=
  count * pool.elementSize + Slab.headerBytes

/-- Resident slabs after an act. -/
def residentsAfter (estate : Estate) : Act Supplier → List (String × Nat)
  | .setUp name count =>
    match estate.world.pool? name, (estate.session.initPool name count).1 with
    | some pool, .ok () => enter estate.residents name count (slabBytes pool count)
    | _, _ => estate.residents
  | .drop name => strike estate.residents name
  | _ => estate.residents

/-- Sets a block pool up under a name. -/
def setUp (estate : Estate) (name : String) (pool : BlockPool) (count : Nat) : Estate :=
  match estate.session.setUpBlocks name pool count with
  | (.error _, after) => estate.withSession after
  | (.ok (), after) =>
    { estate.withSession after with
      caches := enter estate.caches name count (pool.blockSize * count) }

/-- Loans of a block pool that the system has granted. -/
def loansOf (estate : Estate) (name : String) (pool : BlockPool) : List Loan :=
  estate.world.lent.filter fun loan =>
    loan.source = name ∧ pool.contains loan.region.start = false

/-- Carries out a deed. -/
def perform (estate : Estate) : Deed → Estate
  | .act act =>
    { estate with world := estate.world.perform act, residents := estate.residentsAfter act }
  | .openBlocks name blockSize =>
    estate.withSession (estate.session.setSource name (.ofPool (.new blockSize)))
  | .setUpBlocks name count =>
    match estate.session.blockPool? name with
    | none => estate
    | some pool => estate.setUp name pool count
  | .buildBlocks name blockSize count => estate.setUp name (.new blockSize) count
  | .buildPool name source elementSize config count =>
    let pool := ElementPool.new (estate.session.blockSizeOf source) elementSize config
    match estate.session.setUpPool name source pool count with
    | (.error _, after) => estate.withSession after
    | (.ok (), after) =>
      { estate.withSession after with
        residents := enter estate.residents name count (slabBytes pool count) }
  | .closeBlocks name =>
    match estate.session.blockPool? name with
    | none => estate
    | some pool =>
      { estate with
        world := { estate.world with
          allocator := estate.session.dropBlocks name pool
          lent := estate.world.lent.filter fun loan => loan.source ≠ name }
        caches := strike estate.caches name
        abandoned := (estate.loansOf name pool).map Loan.region ++ estate.abandoned }
  | .exchange policy =>
    estate.withSession { estate.session with
      system := { estate.session.system with policy := policy } }

/-- Carries out deeds one after the other. -/
def run (estate : Estate) : List Deed → Estate
  | [] => estate
  | deed :: rest => (estate.perform deed).run rest

/-- The region that the system grants for a deed. -/
def granted (estate : Estate) (deed : Deed) : Option Region :=
  match (estate.perform deed).session.system.granted with
  | [] => none
  | region :: rest => if rest = estate.session.system.granted then some region else none

/-- What is asked of the users of the pools. An element pool draws on a block pool that is
there, with blocks of its size, and a block pool does not end before the pools that draw on it. -/
def Obeys (estate : Estate) : Deed → Prop
  | .act (.create name source blockSize _ _) =>
    name ∉ estate.session.pools.names ∧ source ∈ estate.session.sources.names ∧
      blockSize = estate.session.blockSizeOf source
  | .act (.outside _) => False
  | .act act => estate.world.Obeys act
  | .openBlocks name _ | .buildBlocks name _ _ => name ∉ estate.session.sources.names
  | .buildPool name source _ _ _ =>
    name ∉ estate.session.pools.names ∧ source ∈ estate.session.sources.names
  | .closeBlocks name => ∀ entry ∈ estate.session.pools.entries, entry.2.source ≠ name
  | .setUpBlocks _ _ | .exchange _ => True

/-- The system grants ranges that are nobody's, and the users of the pools are not to blame. -/
def Honest (estate : Estate) (deed : Deed) : Prop :=
  (∀ region ∈ estate.granted deed,
      region.Placed ∧ ∀ held ∈ estate.session.system.held, region.Apart held) ∧
    estate.Obeys deed

/-- Every one of these deeds is honest. -/
def HonestRun (estate : Estate) : List Deed → Prop
  | [] => True
  | deed :: rest => estate.Honest deed ∧ (estate.perform deed).HonestRun rest

instance (estate : Estate) (deed : Deed) : Decidable (estate.Obeys deed) :=
  match deed with
  | .act (.create name source blockSize _ _) =>
    inferInstanceAs (Decidable (name ∉ estate.session.pools.names ∧
      source ∈ estate.session.sources.names ∧ blockSize = estate.session.blockSizeOf source))
  | .act (.outside _) => inferInstanceAs (Decidable False)
  | .act (.setUp name count) => inferInstanceAs (Decidable (estate.world.Obeys (.setUp name count)))
  | .act (.request name) => inferInstanceAs (Decidable (estate.world.Obeys (.request name)))
  | .act (.publish window) => inferInstanceAs (Decidable (estate.world.Obeys (.publish window)))
  | .act (.release name address) =>
    inferInstanceAs (Decidable (estate.world.Obeys (.release name address)))
  | .act (.write start length content) =>
    inferInstanceAs (Decidable (estate.world.Obeys (.write start length content)))
  | .act (.take source) => inferInstanceAs (Decidable (estate.world.Obeys (.take source)))
  | .act (.give loan) => inferInstanceAs (Decidable (estate.world.Obeys (.give loan)))
  | .act (.drop name) => inferInstanceAs (Decidable (estate.world.Obeys (.drop name)))
  | .openBlocks name _ | .buildBlocks name _ _ =>
    inferInstanceAs (Decidable (name ∉ estate.session.sources.names))
  | .buildPool name source _ _ _ =>
    inferInstanceAs (Decidable (name ∉ estate.session.pools.names ∧
      source ∈ estate.session.sources.names))
  | .closeBlocks name =>
    inferInstanceAs (Decidable (∀ entry ∈ estate.session.pools.entries, entry.2.source ≠ name))
  | .setUpBlocks _ _ | .exchange _ => inferInstanceAs (Decidable True)

instance (estate : Estate) (deed : Deed) : Decidable (estate.Honest deed) :=
  inferInstanceAs (Decidable (_ ∧ _))

instance decideHonestRun : ∀ (estate : Estate) (deeds : List Deed),
    Decidable (estate.HonestRun deeds)
  | _, [] => inferInstanceAs (Decidable True)
  | estate, deed :: rest =>
    have := decideHonestRun (estate.perform deed) rest
    inferInstanceAs (Decidable (_ ∧ _))

/-! ## What is in use -/

/-- The resident slabs of the pools of a world. -/
def residence (world : World Supplier) : List (String × Region) :=
  world.allocator.pools.entries.flatMap fun entry =>
    entry.2.pool.resident.toList.map fun resident => (entry.1, resident.region)

/-- The size of a named region. -/
def bytes (entry : String × Region) : String × Nat :=
  (entry.1, entry.2.size)

/-- All is in order, and the books agree with what the pools hold. -/
structure Solvent (estate : Estate) : Prop where
  sound : estate.world.Sound
  funded : Funded estate.session.sources estate.session.system estate.world.held
    ((residence estate.world).map Prod.snd ++ estate.abandoned)
  supplied : ∀ name tenant, estate.session.pools.find? name = some tenant →
    (tenant.source, tenant.pool.blockSize) ∈ blockSizes estate.session.sources
  loans : ∀ loan ∈ estate.world.lent,
    (loan.source, loan.region.size) ∈ blockSizes estate.session.sources
  caches : estate.caches.Perm ((cacheRegions estate.session.sources).map bytes)
  residents : estate.residents.Perm ((residence estate.world).map bytes)

end Estate

end SlabAllocator
