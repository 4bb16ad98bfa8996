import Mathlib.Data.List.Perm.Subperm
import SlabAllocator.Proofs.Allocator.Calls
import SlabAllocator.Proofs.Table

/-! Books of what goes to and comes from a source. Any source can be wrapped so that it
remembers which blocks it has handed out and not taken back, and blocks can be offered back
one after the other with the answers written down. A refusal leaves no trace in the source,
so the answers are all there is of it. -/
namespace SlabAllocator

/-- A source with the blocks it has handed out and not taken back. -/
structure Ledger (σ : Type) where
  source : σ
  out : List Nat

/-- A block that was offered back to a source, with the answer. -/
structure Offer where
  source : String
  block : Nat
  outcome : Except Fault Unit

namespace Offer

/-- The source took the block back. -/
def accepted (offer : Offer) : Bool :=
  match offer.outcome with
  | .ok _ => true
  | .error _ => false

/-- The block with its source. -/
def entry (offer : Offer) : String × Nat :=
  (offer.source, offer.block)

/-- The blocks that were taken back. -/
def taken (offers : List Offer) : List (String × Nat) :=
  (offers.filter fun offer => offer.accepted).map entry

/-- The blocks that were refused. -/
def refused (offers : List Offer) : List (String × Nat) :=
  (offers.filter fun offer => !offer.accepted).map entry

theorem taken_refused (offers : List Offer) :
    (offers.map entry).Perm (taken offers ++ refused offers) := by
  unfold taken refused
  rw [← List.map_append]
  exact (List.filter_append_perm _ offers).symm.map entry

end Offer

/-- The blocks of one source. -/
def blocksAt (source : String) (entries : List (String × Nat)) : List Nat :=
  (entries.filter fun entry => entry.1 = source).map Prod.snd

section blocksAt

variable {source other : String} {first second : List (String × Nat)} {block : Nat}

theorem blocksAt_append : blocksAt source (first ++ second) =
    blocksAt source first ++ blocksAt source second := by
  unfold blocksAt
  rw [List.filter_append, List.map_append]

theorem blocksAt_perm (source : String) (same : first.Perm second) :
    (blocksAt source first).Perm (blocksAt source second) :=
  (same.filter _).map _

theorem blocksAt_cons_self : blocksAt source ((source, block) :: first) =
    block :: blocksAt source first := by
  unfold blocksAt
  rw [List.filter_cons_of_pos (by simp)]
  rfl

theorem blocksAt_cons_of_ne (different : other ≠ source) :
    blocksAt other ((source, block) :: first) = blocksAt other first := by
  unfold blocksAt
  rw [List.filter_cons_of_neg]
  simpa using different.symm

theorem blocksAt_subperm (less : first.Subperm second) :
    (blocksAt source first).Subperm (blocksAt source second) := by
  obtain ⟨listed, same, sublist⟩ := less
  exact (blocksAt_perm source same).symm.subperm.trans ((sublist.filter _).map _).subperm

theorem blocksAt_map_self (source : String) (blocks : List Nat) :
    blocksAt source (blocks.map fun block => (source, block)) = blocks := by
  induction blocks with
  | nil => rfl
  | cons block rest ih => rw [List.map_cons, blocksAt_cons_self, ih]

end blocksAt

variable {σ : Type}

namespace Allocator

/-- Two allocators have the same sources, the same system and the same announcements. -/
structure SameSupply (first second : Allocator σ) : Prop where
  sources : first.sources = second.sources
  system : first.system = second.system
  interludes : first.interludes = second.interludes

namespace SameSupply

variable {allocator other after : Allocator σ}

theorem refl (allocator : Allocator σ) : allocator.SameSupply allocator :=
  ⟨rfl, rfl, rfl⟩

theorem trans (first : allocator.SameSupply other) (second : other.SameSupply after) :
    allocator.SameSupply after :=
  ⟨first.sources.trans second.sources, first.system.trans second.system,
    first.interludes.trans second.interludes⟩

theorem note (same : allocator.SameSupply other) (first second : List Event) :
    (allocator.note first).SameSupply (other.note second) :=
  ⟨same.sources, same.system, same.interludes⟩

end SameSupply

end Allocator

variable [BlockSource σ]

namespace Ledger

/-- Takes a block and writes it down. -/
def take (ledger : Ledger σ) (system : System) : Except Fault (Taken (Ledger σ)) :=
  match BlockSource.take ledger.source system with
  | .error fault => .error fault
  | .ok taken =>
    .ok ⟨taken.block, ⟨taken.source, taken.block :: ledger.out⟩, taken.system, taken.events⟩

/-- Gives a block back and strikes it out, unless it is refused. -/
def give (ledger : Ledger σ) (system : System) (block : Nat) :
    Except Fault (Ledger σ × System) :=
  match BlockSource.give ledger.source system block with
  | .error fault => .error fault
  | .ok (source, system) => .ok (⟨source, ledger.out.erase block⟩, system)

instance : BlockSource (Ledger σ) where
  blockSize ledger := BlockSource.blockSize ledger.source
  take := take
  give := give

end Ledger

namespace Allocator

section offers

variable {allocator other after : Allocator σ} {source : String} {block : Nat} {blocks : List Nat}

/-- Offers blocks back to a source one after the other, whatever it answers. -/
def offerAll (allocator : Allocator σ) (source : String) : List Nat → List Offer × Allocator σ
  | [] => ([], allocator)
  | block :: rest =>
    let (outcome, after) := allocator.giveBlock source block
    let (offers, last) := after.offerAll source rest
    (⟨source, block, outcome⟩ :: offers, last)

theorem takeBlock_congr (same : allocator.SameSupply other) (source : String) :
    (allocator.takeBlock source).1 = (other.takeBlock source).1 ∧
      (allocator.takeBlock source).2.SameSupply (other.takeBlock source).2 := by
  have here : allocator.sources.find? source = other.sources.find? source := by rw [same.sources]
  cases found : other.sources.find? source with
  | none =>
    rw [takeBlock_absent (here.trans found), takeBlock_absent found]
    exact ⟨rfl, same.note _ _⟩
  | some supply =>
    have asked := congrArg (BlockSource.take supply) same.system
    cases took : BlockSource.take supply other.system with
    | error fault =>
      rw [takeBlock_refused (here.trans found) (asked.trans took), takeBlock_refused found took]
      exact ⟨rfl, same.note _ _⟩
    | ok taken =>
      rw [takeBlock_taken (here.trans found) (asked.trans took), takeBlock_taken found took]
      exact ⟨rfl, congrArg (Table.insert · source taken.source) same.sources, rfl, same.interludes⟩

theorem giveBlock_congr (same : allocator.SameSupply other) (source : String) (block : Nat) :
    (allocator.giveBlock source block).1 = (other.giveBlock source block).1 ∧
      (allocator.giveBlock source block).2.SameSupply (other.giveBlock source block).2 := by
  have here : allocator.sources.find? source = other.sources.find? source := by rw [same.sources]
  cases found : other.sources.find? source with
  | none =>
    rw [giveBlock_absent block (here.trans found), giveBlock_absent block found]
    exact ⟨rfl, same.note _ _⟩
  | some supply =>
    have asked := congrArg (BlockSource.give supply · block) same.system
    cases gave : BlockSource.give supply other.system block with
    | error fault =>
      rw [giveBlock_refused (here.trans found) (asked.trans gave), giveBlock_refused found gave]
      exact ⟨rfl, same.note _ _⟩
    | ok given =>
      rw [giveBlock_given (here.trans found) (asked.trans gave), giveBlock_given found gave]
      exact ⟨rfl, congrArg (Table.insert · source given.1) same.sources, rfl, same.interludes⟩

theorem offerAll_congr (same : allocator.SameSupply other) (source : String) (blocks : List Nat) :
    (allocator.offerAll source blocks).1 = (other.offerAll source blocks).1 ∧
      (allocator.offerAll source blocks).2.SameSupply (other.offerAll source blocks).2 := by
  induction blocks generalizing allocator other with
  | nil => exact ⟨rfl, same⟩
  | cons block rest ih =>
    obtain ⟨answer, supply⟩ := giveBlock_congr same source block
    obtain ⟨offers, last⟩ := ih supply
    unfold offerAll
    simp only
    rw [answer, offers]
    exact ⟨rfl, last⟩

/-- Every block is offered once, in order. -/
theorem offerAll_blocks (allocator : Allocator σ) (source : String) (blocks : List Nat) :
    (allocator.offerAll source blocks).1.map Offer.entry = blocks.map fun block => (source, block) := by
  induction blocks generalizing allocator with
  | nil => rfl
  | cons block rest ih =>
    unfold offerAll
    simp only
    rw [List.map_cons, ih]
    rfl

theorem offerAll_append (allocator : Allocator σ) (source : String) (first second : List Nat) :
    allocator.offerAll source (first ++ second) =
      ((allocator.offerAll source first).1 ++
          ((allocator.offerAll source first).2.offerAll source second).1,
        ((allocator.offerAll source first).2.offerAll source second).2) := by
  induction first generalizing allocator with
  | nil => rfl
  | cons block rest ih =>
    have later := ih (allocator.giveBlock source block).2
    simp only [List.cons_append, offerAll, later]

/-- Slabs that are returned are offered one after the other. -/
theorem returnSlabs_supply (same : allocator.SameSupply other) (source : String)
    (sentinels : ElementPool.Sentinels) (blocks : List Nat) :
    (allocator.returnSlabs source sentinels blocks).SameSupply (other.offerAll source blocks).2 := by
  -- By induction on the blocks; sources see neither links nor the note of a refusal.
  induction blocks generalizing allocator other sentinels with
  | nil => exact same
  | cons block rest ih =>
    unfold returnSlabs offerAll
    simp only
    generalize Rings.unlink (⟨⟨sentinels, allocator.memory⟩, rest.length + 1⟩ :
      Rings ElementPool.Threading) block = rings
    have moved : { allocator with memory := rings.store.memory }.SameSupply other :=
      ⟨same.sources, same.system, same.interludes⟩
    have supply := (giveBlock_congr moved source block).2
    cases gave : { allocator with memory := rings.store.memory }.giveBlock source block with
    | mk outcome after =>
      rw [gave] at supply
      cases outcome with
      | ok _ => exact ih supply _
      | error fault =>
        have noted : (after.note [.returnRefused fault]).SameSupply _ :=
          ⟨supply.sources, supply.system, supply.interludes⟩
        exact ih noted _

/-- A pool that ends offers its slabs back and then gives its resident slab to the system. -/
theorem dropPool_supply {name : String} {tenant : Tenant}
    (found : allocator.pools.find? name = some tenant) :
    let offered := (allocator.offerAll tenant.source (tenant.pool.slabs allocator.memory)).2
    (allocator.dropPool name).sources = offered.sources ∧
      (allocator.dropPool name).system = match tenant.pool.resident with
        | some resident => offered.system.release resident.region
        | none => offered.system := by
  have warned (events : List Event) : (allocator.note events).SameSupply allocator := ⟨rfl, rfl, rfl⟩
  have returned (noted : Allocator σ) (same : noted.SameSupply allocator) :=
    returnSlabs_supply same tenant.source tenant.pool.sentinels (tenant.pool.slabs allocator.memory)
  unfold dropPool
  rw [found]
  simp only
  split
  · have supply := returned _ (warned [.droppedLive tenant.pool.live tenant.pool.elementSize])
    rw [supply.sources, supply.system]
    exact ⟨rfl, rfl⟩
  · have supply := returned _ (SameSupply.refl allocator)
    rw [supply.sources, supply.system]
    exact ⟨rfl, rfl⟩

end offers

section books

variable {allocator after : Allocator (Ledger σ)} {source other : String} {block : Nat}
  {blocks : List Nat}

/-- The blocks a source has handed out and not taken back. -/
def books (allocator : Allocator (Ledger σ)) (source : String) : List Nat :=
  ((allocator.sources.find? source).map Ledger.out).getD []

omit [BlockSource σ] in
theorem books_congr (same : allocator.sources = after.sources) (source : String) :
    allocator.books source = after.books source := by
  unfold books
  rw [same]

/-- A block that is taken is written down with its source. -/
theorem takeBlock_books (took : allocator.takeBlock source = (.ok block, after)) (other : String) :
    (after.books other).Perm (blocksAt other [(source, block)] ++ allocator.books other) := by
  obtain ⟨ledger, taken, found, drawn, rfl, rfl⟩ := takeBlock_ok took
  simp only [BlockSource.take, Ledger.take] at drawn
  split at drawn
  · cases drawn
  · cases drawn
    unfold books receive note
    by_cases same : other = source
    · subst same
      rw [Table.find?_insert_self, found, blocksAt_cons_self]
      exact .refl _
    · rw [Table.find?_insert_of_ne _ _ same, blocksAt_cons_of_ne same]
      exact .refl _

theorem takeBlock_books_error {fault : Fault}
    (failed : allocator.takeBlock source = (.error fault, after)) :
    after.sources = allocator.sources := by
  rw [takeBlock_failed failed]
  rfl

/-- A block that is taken back is struck out. -/
theorem giveBlock_books (gave : allocator.giveBlock source block = (.ok (), after)) :
    after.books source = (allocator.books source).erase block ∧
      ∀ other, other ≠ source → after.books other = allocator.books other := by
  obtain ⟨ledger, given, found, back, rfl⟩ := giveBlock_ok gave
  simp only [BlockSource.give, Ledger.give] at back
  split at back
  · cases back
  · cases back
    unfold books handBack
    refine ⟨?_, fun other different => ?_⟩
    · rw [Table.find?_insert_self, found]
      rfl
    · rw [Table.find?_insert_of_ne _ _ different]

theorem giveBlock_books_error {fault : Fault}
    (failed : allocator.giveBlock source block = (.error fault, after)) :
    after.sources = allocator.sources := by
  rw [giveBlock_failed failed]
  rfl

/-- A request that is still waiting has taken one block. -/
theorem seek_books {name : String} (sought : allocator.seek name = (.awaiting source block, after))
    (other : String) :
    (after.books other).Perm (blocksAt other [(source, block)] ++ allocator.books other) := by
  have ways := allocator.seek_cases name
  rw [sought] at ways
  cases ways with
  | awaits found ready drained took => exact takeBlock_books took other

/-- A request that was answered has taken none. -/
theorem seek_sources {name : String} {outcome : Except Fault Nat}
    (sought : allocator.seek name = (.settled outcome, after)) :
    after.sources = allocator.sources := by
  have ways := allocator.seek_cases name
  rw [sought] at ways
  cases ways with
  | refused fault => rfl
  | served found ready served => rfl
  | failed found ready drained failed => exact (takeBlock_books_error failed :)

/-- Offers of outstanding blocks strike out what is taken back and nothing else. -/
theorem offerAll_books (known : blocks.Subperm (allocator.books source)) (other : String) :
    (allocator.books other).Perm ((allocator.offerAll source blocks).2.books other ++
      blocksAt other (Offer.taken (allocator.offerAll source blocks).1)) := by
  -- By induction on the blocks: an accepted one is crossed off, a refused one stays booked.
  induction blocks generalizing allocator with
  | nil => exact .of_eq (List.append_nil _).symm
  | cons block rest ih =>
    unfold offerAll
    simp only
    cases gave : allocator.giveBlock source block with
    | mk outcome after =>
      cases outcome with
      | error fault =>
        have same := giveBlock_books_error gave
        have left : rest.Subperm (after.books source) := by
          rw [books_congr same]
          exact (List.sublist_cons_self _ _).subperm.trans known
        rw [← books_congr same]
        exact ih left
      | ok _ =>
        obtain ⟨here, elsewhere⟩ := giveBlock_books gave
        have listed : block ∈ allocator.books source := known.subset List.mem_cons_self
        have left : rest.Subperm (after.books source) := by
          rw [here]
          simpa using known.erase block
        have kept : blocksAt other (Offer.taken (⟨source, block, .ok ()⟩ ::
            (after.offerAll source rest).1)) =
            blocksAt other ((source, block) :: Offer.taken (after.offerAll source rest).1) := rfl
        rw [kept]
        by_cases same : other = source
        · subst same
          rw [blocksAt_cons_self]
          apply (List.perm_cons_erase listed).trans
          rw [← here]
          exact ((ih left).cons block).trans List.perm_middle.symm
        · rw [blocksAt_cons_of_ne same, ← elsewhere other same]
          exact ih left

/-- Offers that are all accepted strike out just the blocks that are offered. -/
theorem offerAll_books_accepted (accepted : ∀ offer ∈ (allocator.offerAll source blocks).1,
      offer.accepted = true) (other : String) :
    (allocator.offerAll source blocks).2.books other =
      if other = source then (allocator.books source).diff blocks else allocator.books other := by
  induction blocks generalizing allocator with
  | nil =>
    rw [List.diff_nil]
    split
    · next same => exact congrArg allocator.books same
    · rfl
  | cons block rest ih =>
    unfold offerAll at accepted ⊢
    simp only [List.mem_cons, forall_eq_or_imp] at accepted ⊢
    cases gave : allocator.giveBlock source block with
    | mk outcome after =>
      rw [gave] at accepted
      obtain ⟨first, accepted⟩ := accepted
      cases outcome with
      | error fault => cases first
      | ok _ =>
        obtain ⟨here, elsewhere⟩ := giveBlock_books gave
        rw [ih accepted, here, List.diff_cons]
        split
        · rfl
        · next different => exact elsewhere other different

end books

end Allocator

end SlabAllocator
