import Mathlib.Algebra.Order.BigOperators.Group.List
import Mathlib.Algebra.Order.Group.Nat
import SlabAllocator.Proofs.Allocator.Contacts
import SlabAllocator.Proofs.Allocator.Contents
import SlabAllocator.Proofs.Allocator.Gauges
import SlabAllocator.Proofs.Allocator.Structure
import SlabAllocator.Proofs.Slab.Refinement

/-! No slot is lost. A request looks at the resident slab and at the first slab listed as having
room only, but that finds a slot whenever there is one, so a pool asks its source only when
each of its slots is live, and the source is the only reason for which it can fail. -/
namespace SlabAllocator

open ElementPool

namespace ElementPool

/-- Slots of all slabs of a pool, as their headers have them. -/
def capacity (pool : ElementPool) (memory : Memory) : Nat :=
  (pool.bases.map fun base => (Slab.Header.load memory base).maxCount).sum

/-- Slots of all slabs of an arrangement. -/
def View.capacity (view : View) : Nat :=
  (view.pieces.map Piece.capacity).sum

variable {pool : ElementPool} {memory : Memory} {view : View} {piece : Piece}

/-- A slab is full exactly if each of its slots is live. -/
theorem Piece.Held.count_eq_iff (held : piece.Held memory) :
    piece.count = piece.capacity ↔
      ∀ slot < piece.capacity, piece.Live (piece.shape.slot slot) := by
  have every := held.partition.lawful.exhausted
  rw [held.partition.alloc?_eq_none_iff] at every
  apply every.trans
  refine forall₂_congr fun slot _ => ⟨fun live => ⟨slot, live, rfl⟩, ?_⟩
  rintro ⟨other, live, same⟩
  rwa [held.usable.slot_inj.1 same]

/-- As many elements are live as there are slots exactly if every slab is full. -/
theorem View.Sound.population_eq_iff (sound : view.Sound memory) :
    view.population = view.capacity ↔ ∀ piece ∈ view.pieces, piece.count = piece.capacity := by
  have below : ∀ piece ∈ view.pieces, piece.count ≤ piece.capacity :=
    fun piece member => (sound.held piece member).count_le
  unfold View.population View.capacity
  generalize view.pieces = pieces at below
  -- By induction on the pieces: two sums of which one is termwise the smaller agree term by term.
  induction pieces with
  | nil => simp
  | cons piece rest ih =>
    obtain ⟨here, there⟩ := List.forall_mem_cons.1 below
    have others := ih there
    have least := List.sum_le_sum there
    rw [List.map_cons, List.map_cons, List.sum_cons, List.sum_cons, List.forall_mem_cons]
    constructor
    · intro same
      exact ⟨by omega, others.1 (by omega)⟩
    · rintro ⟨first, more⟩
      rw [first, others.2 more]

namespace Shows

theorem capacity_eq (shows : pool.Shows memory view) : pool.capacity memory = view.capacity := by
  unfold ElementPool.capacity View.capacity
  rw [(shows.bases_perm.map _).sum_eq, List.map_map]
  refine congrArg List.sum (List.map_congr_left fun piece member => ?_)
  exact maxCount_eq (shows.sound.held piece member)

/-- A pool cannot serve a request exactly if every slab is full. -/
theorem attempt_eq_none_iff (shows : pool.Shows memory view) :
    view.attempt = none ↔ ∀ piece ∈ view.pieces, piece.count = piece.capacity := by
  constructor
  · intro nothing piece member
    obtain ⟨busy, row⟩ := shows.roomy_of_attempt_none nothing
    rcases List.mem_append.1 member with resident | carved
    · rw [Option.mem_toList.1 resident] at busy
      exact (shows.sound.held piece member).alloc?_eq_none_iff.1 busy
    · apply shows.sound.sorted.full
      unfold View.carved at carved
      rwa [row, List.nil_append] at carved
  · intro full
    -- A slab with room is not full, so the row of those is empty.
    apply shows.attempt_eq_none
    · rw [shows.partialSlabs_eq, List.map_eq_nil_iff, List.eq_nil_iff_forall_not_mem]
      intro piece roomy
      have member := View.mem_of_carved (View.carved_of_roomy roomy)
      exact (shows.sound.sorted.roomy piece roomy).2.ne (full piece member)
    · intro resident known
      rw [shows.resident] at known
      obtain ⟨piece, found, rfl⟩ := Option.map_eq_some_iff.1 known
      have member := View.mem_of_resident found
      exact (shows.sound.held piece member).header_isFull.2 (full piece member)

end Shows

end ElementPool

variable {σ : Type}

namespace World

variable {world : World σ} {name : String} {tenant : Tenant} {view : View} {address : Nat}
  {fault : Fault} {supply : σ}

/-- Every slot of every slab of a pool is live, whether the slab is the resident one or carved,
and whether the slot was ever handed out before or not. -/
def Full (world : World σ) (name : String) (pool : ElementPool) : Prop :=
  ∀ base ∈ pool.bases, let header := Slab.Header.load world.allocator.memory base
    ∀ slot < header.maxCount,
      (name, base + header.firstOffset + slot * header.elementSize) ∈ world.live

instance (world : World σ) (name : String) (pool : ElementPool) :
    Decidable (world.Full name pool) :=
  inferInstanceAs (Decidable (∀ base ∈ pool.bases, ∀ slot < _, _ ∈ world.live))

/-- A pool is full exactly if it has no slab to serve a request from. -/
theorem full_iff (shows : tenant.pool.Shows world.allocator.memory view)
    (books : ∀ address, (name, address) ∈ world.live ↔ view.Live address) :
    world.Full name tenant.pool ↔ view.attempt = none := by
  rw [shows.attempt_eq_none_iff]
  unfold Full
  simp only [shows.bases_perm.mem_iff, List.forall_mem_map]
  refine forall₂_congr fun piece member => ?_
  have held := shows.sound.held piece member
  rw [held.count_eq_iff, held.load]
  refine forall₂_congr fun slot inside => ?_
  have begins : piece.base + (piece.shape.header piece.stack).firstOffset +
      slot * (piece.shape.header piece.stack).elementSize = piece.shape.slot slot := rfl
  rw [begins, books]
  constructor
  · rintro ⟨other, present, live⟩
    -- Slabs lie apart, so the slot is live in the slab it is a slot of.
    have within := (shows.sound.held other present).contains_of_live live
    obtain rfl := shows.sound.unique member present (held.contains_slot inside) within
    exact live
  · exact fun live => ⟨piece, member, live⟩

variable [BlockSource σ]

/-- How a pool that draws on `supply` treats the slots it has. -/
structure Frugal (world : World σ) (name : String) (tenant : Tenant) (supply : σ) : Prop where
  counted : world.Full name tenant.pool ↔
    world.population name = tenant.pool.capacity world.allocator.memory
  /-- A request that is watched is the request. -/
  watched : (world.allocator.watched name).1 = world.allocator.alloc name
  /-- A full pool asks its source once, whatever the source answers. -/
  asks : world.Full name tenant.pool →
    (world.allocator.watched name).2 = [.asks tenant.source]
  /-- Any other pool serves the request by itself. Nothing is said to sources, and the answer is
  the same with other sources, another system and other requests announced. -/
  serves : ¬ world.Full name tenant.pool → ∃ address, (name, address) ∉ world.live ∧
    ∀ other : Allocator σ, other.memory = world.allocator.memory →
      other.pools = world.allocator.pools → ∃ after, after.SameSupply other ∧
        other.watched name = ((.answered [] (.ok address), after), [])
  fails : ∀ fault, (world.allocator.alloc name).1.outcome = .error fault ↔
    world.Full name tenant.pool ∧ BlockSource.take supply world.allocator.system = .error fault
  /-- An element that came back at any time before was handed out again before the source is
  asked, if the pool still has its slab. -/
  finds : ∀ (earlier : World σ) (address : Nat) (acts : List (Act σ)), earlier.Reachable →
    earlier.Honest (.release name address) → earlier.accepts name address = true →
    (earlier.perform (.release name address)).HonestRun acts →
    world = (earlier.perform (.release name address)).run acts →
    tenant.pool.IsSlot world.allocator.memory address →
    (world.allocator.watched name).2 ≠ [] →
    ∃ before act after, acts = before ++ act :: after ∧
      ((earlier.perform (.release name address)).run before).Hands act name address

namespace Sound

/-- A request that a pool can serve by itself is served, and nothing is said to sources. -/
theorem alloc_served {allocator : Allocator σ} {arranged : View}
    (found : allocator.pools.find? name = some tenant)
    (shows : tenant.pool.Shows allocator.memory view) (ready : tenant.pool.ready = true)
    (served : view.attempt = some (address, arranged)) : ∃ after, after.SameSupply allocator ∧
      allocator.watched name = ((.answered [] (.ok address), after), []) := by
  obtain ⟨-, -, next, changed, -, attempted, -⟩ := shows.attempt_some served
  refine ⟨_, ?_, Allocator.watched_served found ready attempted⟩
  exact ⟨rfl, rfl, rfl⟩

/-- A request that a pool cannot serve by itself fails exactly if its source does. -/
theorem alloc_drained (sound : world.Sound)
    (found : world.allocator.pools.find? name = some tenant)
    (shows : tenant.pool.Shows world.allocator.memory view) (ready : tenant.pool.ready = true)
    (carves : tenant.pool.Carves) (nothing : view.attempt = none)
    (present : world.allocator.sources.find? tenant.source = some supply) :
    (world.allocator.alloc name).1.outcome = .error fault ↔
      BlockSource.take supply world.allocator.system = .error fault := by
  have sought := seek_drained sound.names found shows ready nothing
  cases took : BlockSource.take supply world.allocator.system with
  | error refusal =>
    rw [Allocator.takeBlock_refused present took] at sought
    simp only [Allocator.alloc_settled sought, Reply.outcome, Except.error.injEq]
  | ok taken =>
    rw [Allocator.takeBlock_taken present took] at sought
    obtain ⟨next, adopted, here, made⟩ := Allocator.seek_adopts found carves sought
    rw [Allocator.alloc_awaiting sought, Allocator.publish_adopted here made]
    simp only [Reply.outcome, reduceCtorEq]

/-- A slot that was given back and is live now was handed out in between. -/
theorem handed_again (sound : world.Sound) {acts : List (Act σ)}
    (honest : world.Honest (.release name address)) (accepted : world.accepts name address = true)
    (later : (world.perform (.release name address)).HonestRun acts)
    (live : (name, address) ∈ ((world.perform (.release name address)).run acts).live) :
    ∃ before act after, acts = before ++ act :: after ∧
      ((world.perform (.release name address)).run before).Hands act name address := by
  obtain ⟨tenant, freed, found, taken⟩ := of_accepts accepted
  obtain ⟨-, -, -, gone⟩ := sound.release_taken honest.2 found taken
  rcases (sound.perform honest).run_live later live with ⟨lasting, -⟩ |
    ⟨before, act, after, _, _, split, freshened, -⟩
  · have still := lasting.here
    rw [gone, sound.once.mem_erase_iff] at still
    exact absurd rfl still.1
  · exact ⟨before, act, after, split, freshened.hands⟩

end Sound

/-- **No slot is lost.** A pool asks its source exactly when each of its slots is live, and then
once; otherwise it serves the request by itself, so the source is the only one to fail it. -/
theorem no_slot_lost (reachable : world.Reachable)
    (found : world.allocator.pools.find? name = some tenant) (ready : tenant.pool.ready = true)
    (whole : tenant.pool.blockSize % wordBytes = 0) (bounded : tenant.pool.blockSize < wordLimit)
    (present : world.allocator.sources.find? tenant.source = some supply) :
    world.Frugal name tenant supply := by
  have sound := Sound.of_reachable reachable
  obtain ⟨view, shows, books⟩ := sound.shown name tenant found
  have carves := (Measured.of_reachable reachable name tenant found).carves ready whole bounded
  have full := full_iff shows books
  refine ⟨?counted, Allocator.watched_reply _ _, ?asks, ?serves, ?fails, ?finds⟩
  case counted =>
    rw [full, shows.attempt_eq_none_iff, sound.population_eq shows books, shows.capacity_eq,
      shows.sound.population_eq_iff]
  case asks =>
    intro everything
    exact Allocator.contacts_drained found ready carves (shows.attempt_none (full.1 everything))
  case serves =>
    intro roomy
    rw [full] at roomy
    obtain ⟨⟨address, arranged⟩, served⟩ := Option.ne_none_iff_exists'.1 roomy
    obtain ⟨piece, fresh, -, -, placed, -⟩ := shows.attempt_some served
    refine ⟨address, ?_, fun other memory pools => ?_⟩
    · rw [books]
      exact (placed.live shows.sound).1
    · rw [← pools] at found
      rw [← memory] at shows
      exact Sound.alloc_served found shows ready served
  case fails =>
    intro fault
    rw [full]
    cases served : view.attempt with
    | none =>
      rw [sound.alloc_drained found shows ready carves served present]
      exact (and_iff_right rfl).symm
    | some result =>
      obtain ⟨address, arranged⟩ := result
      obtain ⟨after, -, answered⟩ := Sound.alloc_served found shows ready served
      have same := world.allocator.watched_reply name
      have settled : (world.allocator.alloc name).1 = .answered [] (.ok address) := by
        rw [answered] at same
        exact congrArg Prod.fst same.symm
      rw [settled]
      exact iff_of_false (fun absurd => by cases absurd) fun absurd => by cases absurd.1
  case finds =>
    rintro earlier address acts before honest accepted later rfl slot asked
    refine (Sound.of_reachable before).handed_again honest accepted later ((books address).2 ?_)
    -- A pool that is full still has every slot of every slab live; any other would have served.
    cases served : view.attempt with
    | none =>
      obtain ⟨piece, member, inside, slot⟩ := shows.slot_owner slot
      have held := shows.sound.held piece member
      obtain ⟨number, used, rfl⟩ := (held.isSlot_iff address).1 slot
      have everything := held.count_eq_iff.1 (shows.attempt_eq_none_iff.1 served piece member)
      exact ⟨piece, member, everything number (held.lt_capacity used)⟩
    | some result =>
      obtain ⟨after, -, answered⟩ := Sound.alloc_served found shows ready served
      rw [answered] at asked
      exact absurd rfl asked

/-- The pool with room at the end of the day is full two requests later, and one of them found
the element that was given back. -/
theorem no_slot_lost_workday : ∃ tenant supply,
    let world := workshop.run (workday ++ [.request "wide", .request "wide"])
    world.allocator.pools.find? "wide" = some tenant ∧ world.Full "wide" tenant.pool ∧
      ("wide", 69728) ∉ (workshop.run workday).live ∧ ("wide", 69728) ∈ world.live ∧
      world.Frugal "wide" tenant supply := by
  have facts : (World.start workshop.allocator).HonestRun
        (workday ++ [.request "wide", .request "wide"]) ∧
      ("wide", 69728) ∉ (workshop.run workday).live ∧
      let world := workshop.run (workday ++ [.request "wide", .request "wide"])
      ("wide", 69728) ∈ world.live ∧ (world.allocator.pools.find? "wide").map (fun tenant =>
        (tenant.pool.ready, tenant.pool.blockSize, decide (world.Full "wide" tenant.pool),
          (world.allocator.sources.find? tenant.source).isSome)) = some (true, 4096, true, true) := by
    decide +kernel
  obtain ⟨honest, vacant, again, known⟩ := facts
  have same : World.start workshop.allocator = workshop := rfl
  have reachable : (workshop.run (workday ++ [.request "wide", .request "wide"])).Reachable := by
    refine ⟨workshop.allocator, _, honest, ?_⟩
    rw [same]
  obtain ⟨tenant, found, holds⟩ := Option.map_eq_some_iff.1 known
  simp only [Prod.mk.injEq, decide_eq_true_eq, Option.isSome_iff_exists] at holds
  obtain ⟨ready, size, full, supply, present⟩ := holds
  refine ⟨tenant, supply, found, full, vacant, again, ?_⟩
  exact no_slot_lost reachable found ready (by rw [size]; decide) (by rw [size]; decide) present

end World

end SlabAllocator
