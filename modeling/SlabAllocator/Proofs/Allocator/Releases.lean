import SlabAllocator.Proofs.Allocator.Conservation
import SlabAllocator.Proofs.Allocator.Measures
import SlabAllocator.Proofs.ElementPool.Wear

/-! Releases commute. While its source takes blocks back, a pool takes back whatever is
live in it, and what is left in the end is told by the elements that were released. So it
makes no difference in which order they were, but for the order of slabs with room and the
order of vacant slots. -/
namespace SlabAllocator

open ElementPool

variable {σ : Type} [BlockSource σ]

/-- The source takes back whichever of these blocks it is offered, in whatever order. -/
def Allocator.Welcomes (allocator : Allocator σ) (source : String) (blocks : List Nat) : Prop :=
  ∀ offered, offered.Subperm blocks → ∀ offer ∈ (allocator.offerAll source offered).1,
    offer.accepted = true

/-- Blocks are welcome after others were taken back. -/
theorem Allocator.Welcomes.later {allocator : Allocator σ} {source : String}
    {blocks returned next : List Nat} (welcome : allocator.Welcomes source blocks)
    (known : (returned ++ next).Subperm blocks) :
    ∀ offer ∈ ((allocator.offerAll source returned).2.offerAll source next).1,
      offer.accepted = true := by
  intro offer member
  apply welcome _ known
  rw [offerAll_append]
  exact List.mem_append_right _ member

namespace World

variable {world after : World σ} {name : String} {tenant : Tenant} {view arranged : View}
  {next : ElementPool} {elements done returned : List Nat} {element : Nat}

/-- Elements of a pool are released one after the other. -/
def releases (name : String) (elements : List Nat) : List (Act σ) :=
  elements.map (.release name)

/-- Elements of a pool are released one after the other, and each release succeeds. -/
def TakesAll (world : World σ) (name : String) : List Nat → Prop
  | [] => True
  | element :: rest => (world.allocator.free name element).1 = .ok () ∧
      (world.perform (.release name element)).TakesAll name rest

/-- One element more to be taken out of a list. -/
private theorem diff_concat {α β : Type} [BEq β] [LawfulBEq β] (whole : List β) (entry : α → β)
    (first : List α) (last : α) : whole.diff ((first ++ [last]).map entry) =
      (whole.diff (first.map entry)).erase (entry last) := by
  rw [List.map_append, List.diff_append, List.map_singleton, List.diff_cons, List.diff_nil]

/-! ## One release -/

/-- What is left of a world when elements of a pool are `done` with: the pool is worn down, and
the blocks of slabs that went were `returned`. -/
structure Released (world after : World σ) (name : String) (tenant : Tenant) (view : View)
    (done : List Nat) (next : ElementPool) (arranged : View) (returned : List Nat) : Prop where
  sound : after.Sound
  found : after.allocator.pools.find? name = some { tenant with pool := next }
  others : ∀ other, other ≠ name →
    after.allocator.pools.find? other = world.allocator.pools.find? other
  shown : next.Shows after.allocator.memory arranged
  worn : view.Worn arranged
  books : ∀ address, (name, address) ∈ after.live ↔ arranged.Live address
  live : after.live = world.live.diff (done.map fun address => (name, address))
  windows : after.windows = world.windows
  lent : after.lent = world.lent
  same : tenant.pool.Same next
  ready : next.ready = tenant.pool.ready
  tally : next.tally = (fun tally => tally.free tenant.pool.config)^[done.length] tenant.pool.tally
  supply : after.allocator.SameSupply (world.allocator.offerAll tenant.source returned).2
  blocks : tenant.pool.blocks.Perm (returned ++ next.blocks)

namespace Released

theorem start (sound : world.Sound) (found : world.allocator.pools.find? name = some tenant)
    (shows : tenant.pool.Shows world.allocator.memory view)
    (books : ∀ address, (name, address) ∈ world.live ↔ view.Live address) :
    world.Released world name tenant view [] tenant.pool view [] where
  sound := sound
  found := found
  others := fun _ _ => rfl
  shown := shows
  worn := .refl view
  books := books
  live := (List.diff_nil _).symm
  windows := rfl
  lent := rfl
  same := .refl _
  ready := rfl
  tally := rfl
  supply := .refl _
  blocks := .refl _

/-- What is live is released, honestly and with success. -/
theorem release (state : world.Released after name tenant view done next arranged returned)
    (welcome : world.allocator.Welcomes tenant.source tenant.pool.blocks)
    (live : (name, element) ∈ after.live) :
    after.Honest (.release name element) ∧ (after.allocator.free name element).1 = .ok () ∧
      ∃ worn left given, world.Released (after.perform (.release name element)) name tenant view
        (done ++ [element]) worn left given := by
  have alive := (state.books element).1 live
  obtain ⟨piece, fresh, left, freed, moved, taken, shown, -⟩ := state.shown.free_live alive
  have obeys : after.Obeys (.release name element) := by
    simp only [Obeys, pool?, state.found, Option.map_some, Option.mem_def, Option.some.injEq,
      forall_eq']
    exact state.shown.unchained_of_live alive
  have honest : after.Honest (.release name element) := ⟨fun _ absurd => (by cases absurd), obeys⟩
  obtain ⟨pools, memory, -, less⟩ := state.sound.release_taken obeys state.found taken
  obtain ⟨same, ready, tally, -⟩ := free_counted taken
  -- The slab that goes, if one does, is one of those the source takes back.
  have blocks : tenant.pool.blocks.Perm
      ((returned ++ freed.retired.toList) ++ freed.pool.blocks) := by
    rw [List.append_assoc]
    exact state.blocks.trans ((state.shown.blocks_returned shown moved).append_left _)
  have listed : (returned ++ freed.retired.toList).Subperm tenant.pool.blocks :=
    (List.sublist_append_left _ _).subperm.trans blocks.symm.subperm
  obtain ⟨offers, supply⟩ :=
    Allocator.offerAll_congr state.supply tenant.source freed.retired.toList
  have accepted := welcome.later listed
  rw [← offers] at accepted
  refine ⟨honest, Allocator.free_answer state.found taken accepted, freed.pool, left,
    returned ++ freed.retired.toList, ?_⟩
  exact {
    sound := state.sound.perform honest
    found := by rw [pools, Table.find?_insert_self]
    others := fun other different => by
      rw [pools, Table.find?_insert_of_ne _ _ different, state.others other different]
    shown := by rwa [memory]
    worn := state.worn.trans moved.worn
    books := fun address => by
      rw [less, state.sound.once.mem_erase_iff, (moved.live state.shown.sound).2, state.books]
      simp only [ne_eq, Prod.mk.injEq, true_and]
    live := by rw [less, state.live, diff_concat]
    windows := state.windows
    lent := state.lent
    same := state.same.trans same
    ready := ready.trans state.ready
    tally := by
      rw [tally, state.tally, state.same.config, List.length_append, List.length_singleton,
        Function.iterate_succ_apply']
    supply := by
      rw [Allocator.offerAll_append]
      exact (Allocator.free_supply state.found taken).trans supply
    blocks := blocks }

/-- Live elements are released one after the other, honestly and with success. -/
theorem run (state : world.Released after name tenant view done next arranged returned)
    (welcome : world.allocator.Welcomes tenant.source tenant.pool.blocks) (once : elements.Nodup)
    (live : ∀ element ∈ elements, (name, element) ∈ after.live) :
    after.HonestRun (releases name elements) ∧ after.TakesAll name elements ∧
      ∃ worn left given, world.Released (after.run (releases name elements)) name tenant view
        (done ++ elements) worn left given := by
  -- By induction on the elements: each one given back leaves the others live.
  induction elements generalizing after done next arranged returned with
  | nil =>
    rw [List.append_nil]
    exact ⟨trivial, trivial, next, arranged, returned, state⟩
  | cons element rest ih =>
    obtain ⟨fresh, once⟩ := List.nodup_cons.1 once
    obtain ⟨here, others⟩ := List.forall_mem_cons.1 live
    obtain ⟨honest, success, worn, left, given, moved⟩ := state.release welcome here
    have stays : ∀ other ∈ rest, (name, other) ∈ (after.perform (.release name element)).live := by
      intro other member
      have different : (name, other) ≠ (name, element) := by
        rintro ⟨⟩
        exact fresh member
      have less : (after.perform (.release name element)).live = after.live.erase (name, element) := by
        rw [moved.live, state.live, diff_concat]
      rw [less]
      exact (List.mem_erase_of_ne different).2 (others other member)
    obtain ⟨honestRest, successes, last⟩ := ih moved once stays
    rw [List.append_assoc] at last
    exact ⟨⟨honest, honestRest⟩, ⟨success, successes⟩, last⟩

end Released

/-! ## Two orders -/

section

variable {world one other : World (Ledger σ)} {finished more given : List Nat} {its : ElementPool}
  {placed : View}

/-- Two worlds are the same but for two orders in one pool: that of the slabs with room, and
that of the vacant slots of slabs. -/
structure Rearranged (one other : World (Ledger σ)) (name : String) : Prop where
  live : other.live = one.live
  others : ∀ owner, owner ≠ name →
    other.allocator.pools.find? owner = one.allocator.pools.find? owner
  pool : ∃ mine its, one.pool? name = some mine ∧ other.pool? name = some its ∧
    mine.Reordered its one.allocator.memory other.allocator.memory ∧
    its.stats? other.allocator.memory = mine.stats? one.allocator.memory
  /-- Every source has the same blocks outstanding. -/
  books : ∀ source, other.allocator.books source = one.allocator.books source
  windows : other.windows = one.windows
  lent : other.lent = one.lent

/-- What is left after releases does not depend on their order. -/
theorem Released.rearranged (shows : tenant.pool.Shows world.allocator.memory view)
    (welcome : world.allocator.Welcomes tenant.source tenant.pool.blocks)
    (state : world.Released one name tenant view done next arranged returned)
    (also : world.Released other name tenant view finished its placed given)
    (order : finished.Perm done) (measured : one.Measured) (measuredToo : other.Measured) :
    one.Rearranged other name := by
  have live : other.live = one.live := by
    rw [state.live, also.live]
    exact (order.map _).diff_left _
  have alike : arranged.Alike placed :=
    View.Worn.alike shows.sound state.worn also.worn state.shown.sound also.shown.sound
      fun address => by rw [← state.books, ← also.books, live]
  have tally : its.tally = next.tally := by
    rw [state.tally, also.tally, order.length_eq]
  have reordered : next.Reordered its one.allocator.memory other.allocator.memory :=
    state.shown.reordered also.shown alike (also.same.config.trans state.same.config.symm)
      (also.ready.trans state.ready.symm) tally (measured name _ state.found)
      (measuredToo name _ also.found)
  -- The blocks that are left are the same, so those that went are.
  have gone : given.Perm returned := by
    have index : its.index = next.index := by rw [reordered.fields]
    have size : its.blockSize = next.blockSize := by rw [reordered.fields]
    have left : its.blocks = next.blocks := by
      unfold ElementPool.blocks
      rw [index, size]
    have whole := also.blocks.symm.trans state.blocks
    rw [left] at whole
    exact (List.perm_append_right_iff _).1 whole
  have books (after : World (Ledger σ)) (returned : List Nat) (left : List Nat)
      (blocks : tenant.pool.blocks.Perm (returned ++ left))
      (supply : after.allocator.SameSupply (world.allocator.offerAll tenant.source returned).2)
      (source : String) : after.allocator.books source =
        if source = tenant.source then (world.allocator.books tenant.source).diff returned
        else world.allocator.books source := by
    rw [Allocator.books_congr supply.sources]
    refine Allocator.offerAll_books_accepted (welcome returned ?_) source
    exact (List.sublist_append_left _ _).subperm.trans blocks.symm.subperm
  exact {
    live := live
    others := fun owner different =>
      (also.others owner different).trans (state.others owner different).symm
    pool := ⟨next, its, by unfold pool?; rw [state.found]; rfl,
      by unfold pool?; rw [also.found]; rfl, reordered, reordered.stats⟩
    books := fun source => by
      rw [books one returned next.blocks state.blocks state.supply,
        books other given its.blocks also.blocks also.supply, gone.diff_left]
    windows := also.windows.trans state.windows.symm
    lent := also.lent.trans state.lent.symm }

/-- Elements of a pool can be released in one order or in another. -/
structure Commute (world : World (Ledger σ)) (name : String) (one other : List Nat) : Prop where
  honest : world.HonestRun (releases name one) ∧ world.HonestRun (releases name other)
  success : world.TakesAll name one ∧ world.TakesAll name other
  same : (world.run (releases name one)).Rearranged (world.run (releases name other)) name

/-- **Releases commute.** While the source takes its blocks back, all live elements of a pool
can be released, in every order, and it makes no difference in which. -/
theorem releases_commute {orders : List Nat} (reachable : world.Reachable)
    (found : world.allocator.pools.find? name = some tenant)
    (welcome : world.allocator.Welcomes tenant.source tenant.pool.blocks) (once : elements.Nodup)
    (live : ∀ element ∈ elements, (name, element) ∈ world.live)
    (order : orders.Perm elements) : world.Commute name elements orders := by
  have sound := Sound.of_reachable reachable
  have measured := Measured.of_reachable reachable
  obtain ⟨view, shows, books⟩ := sound.shown name tenant found
  have start := Released.start sound found shows books
  obtain ⟨honest, success, next, arranged, returned, state⟩ := start.run welcome once live
  obtain ⟨honestToo, successToo, its, placed, given, also⟩ := start.run welcome
    (order.nodup_iff.2 once) fun element member => live element (order.mem_iff.1 member)
  exact ⟨⟨honest, honestToo⟩, ⟨success, successToo⟩, state.rearranged shows welcome also order
    (measured.run sound honest) (measured.run sound honestToo)⟩

end

/-- A shelf that refuses nothing takes back whatever it is offered. -/
theorem welcomes_shelf {allocator : Allocator (Ledger Shelf)} {source : String}
    {ledger : Ledger Shelf} (found : allocator.sources.find? source = some ledger)
    (willing : ledger.source.refusing = false) (blocks : List Nat) :
    allocator.Welcomes source blocks := by
  intro offered known
  induction offered generalizing allocator ledger with
  | nil => exact fun _ absurd => by cases absurd
  | cons block rest ih =>
    have back : ∃ given, BlockSource.give ledger allocator.system block = .ok given ∧
        given.1.source.refusing = false := by
      simp only [BlockSource.give, Ledger.give, Shelf.give, willing, Bool.false_eq_true, ↓reduceIte]
      exact ⟨_, rfl, rfl⟩
    obtain ⟨given, gave, still⟩ := back
    unfold Allocator.offerAll
    simp only [Allocator.giveBlock_given found gave]
    have fewer := (List.sublist_cons_self block rest).subperm.trans known
    exact List.forall_mem_cons.2 ⟨rfl, ih (Table.find?_insert_self _ _ _) still fewer⟩

/-- Elements of a resident slab and of three carved ones are in use. -/
def harvest : List (Act (Ledger Shelf)) :=
  [.create "wide" "shelf" 4096 2000 .production, .setUp "wide" 2, .request "wide",
    .request "wide", .request "wide", .publish ⟨"wide", 65536, 4096⟩, .request "wide",
    .request "wide", .publish ⟨"wide", 69632, 4096⟩, .request "wide",
    .request "wide", .publish ⟨"wide", 73728, 4096⟩]

/-- The resident slab is emptied and one of the carved ones goes. The other two are reopened,
one after the other. -/
def sold : List Nat :=
  [17592186044480, 17592186046480, 65632, 69728, 73824]

/-- The slabs of the wide pool that have room. -/
def openSlabs (world : World (Ledger Shelf)) : Option (List Nat) :=
  (world.allocator.pools.find? "wide").map fun tenant =>
    tenant.pool.partialSlabs world.allocator.memory

theorem releases_commute_harvest :
    ((countinghouse.run harvest).run (releases "wide" sold)).openSlabs = some [65536, 69632] ∧
      ((countinghouse.run harvest).run (releases "wide" sold.reverse)).openSlabs =
        some [69632, 65536] ∧
      (countinghouse.run harvest).Commute "wide" sold sold.reverse := by
  -- The run is evaluated once for all that is to be known of it.
  obtain ⟨honest, live, shelved, served, one, other⟩ : countinghouse.HonestRun harvest ∧
      (∀ element ∈ sold, ("wide", element) ∈ (countinghouse.run harvest).live) ∧
      ((countinghouse.run harvest).allocator.sources.find? "shelf").map
        (fun ledger => ledger.source.refusing) = some false ∧
      ((countinghouse.run harvest).allocator.pools.find? "wide").map Tenant.source =
        some "shelf" ∧
      ((countinghouse.run harvest).run (releases "wide" sold)).openSlabs = some [65536, 69632] ∧
      ((countinghouse.run harvest).run (releases "wide" sold.reverse)).openSlabs =
        some [69632, 65536] := by
    decide +kernel
  obtain ⟨ledger, kept, willing⟩ := Option.map_eq_some_iff.1 shelved
  obtain ⟨tenant, found, source⟩ := Option.map_eq_some_iff.1 served
  have welcome : (countinghouse.run harvest).allocator.Welcomes tenant.source tenant.pool.blocks := by
    rw [source]
    exact welcomes_shelf kept willing _
  exact ⟨one, other, releases_commute ⟨_, harvest, honest, rfl⟩ found welcome (by decide) live
    (List.reverse_perm sold)⟩

end World

end SlabAllocator
