import SlabAllocator.Proofs.Allocator.Interlude
import SlabAllocator.Proofs.Allocator.Ledger
import SlabAllocator.Proofs.Allocator.Measures
import SlabAllocator.Proofs.ElementPool.Filling

/-! Any number of requests to one pool, one after the other. `Stocked` says which blocks the
source of a pool has in store; `alloc` is one request, served from the slabs of the pool or
from a new one, and `rounds` any number of them. -/
namespace SlabAllocator

open ElementPool

variable {σ : Type}

namespace Allocator

variable {allocator left right after middle last : Allocator σ} {name source : String}
  {block count depth : Nat} {rest : List Nat} {outcome : Except Fault Nat}

/-- The allocator with an interlude announced for the next block of a source. -/
def announcing (allocator : Allocator σ) (source : String) (interlude : Interlude) : Allocator σ :=
  { allocator with interludes := allocator.interludes.insert source interlude }

/-- The allocator with no interlude announced for a source. -/
def quieted (allocator : Allocator σ) (source : String) : Allocator σ :=
  { allocator with interludes := allocator.interludes.erase source }

variable [BlockSource σ]

/-- The blocks a source hands out when it is asked so many times, if it grants them all. -/
def grants (allocator : Allocator σ) (source : String) : Nat → Option (List Nat)
  | 0 => some []
  | count + 1 =>
    match allocator.takeBlock source with
    | (.ok block, after) => (after.grants source count).map fun rest => block :: rest
    | (.error _, _) => none

theorem grants_congr (same : left.SameSupply right) (source : String) (count : Nat) :
    left.grants source count = right.grants source count := by
  -- By induction on the number of blocks drawn.
  induction count generalizing left right with
  | zero => rfl
  | succ count ih =>
    obtain ⟨outcome, supply⟩ := takeBlock_congr same source
    unfold grants
    cases took : left.takeBlock source with
    | mk answer after =>
      cases tookToo : right.takeBlock source with
      | mk answerToo afterToo =>
        rw [took, tookToo] at outcome supply
        obtain rfl : answer = answerToo := outcome
        cases answer with
        | error fault => rfl
        | ok block =>
          have rest : after.grants source count = afterToo.grants source count := ih supply
          simp only
          rw [rest]

theorem grants_cons (granted : allocator.grants source (count + 1) = some (block :: rest)) :
    ∃ after, allocator.takeBlock source = (.ok block, after) ∧
      after.grants source count = some rest := by
  unfold grants at granted
  cases took : allocator.takeBlock source with
  | mk answer after =>
    rw [took] at granted
    cases answer with
    | error fault => cases granted
    | ok first =>
      obtain ⟨others, known, same⟩ := Option.map_eq_some_iff.1 granted
      cases same
      exact ⟨after, rfl, known⟩

theorem length_of_grants (granted : allocator.grants source count = some rest) :
    rest.length = count := by
  induction count generalizing allocator rest with
  | zero =>
    cases granted
    rfl
  | succ count ih =>
    cases rest with
    | nil =>
      unfold grants at granted
      split at granted
      · simp at granted
      · cases granted
    | cons block rest =>
      obtain ⟨after, -, further⟩ := grants_cons granted
      rw [List.length_cons, ih further]

/-- Announcements have no part in taking a block. -/
theorem takeBlock_announced (allocator : Allocator σ) (interludes : Table Interlude)
    (source : String) :
    { allocator with interludes := interludes }.takeBlock source =
      ((allocator.takeBlock source).1,
        { (allocator.takeBlock source).2 with interludes := interludes }) := by
  unfold takeBlock refuse
  simp only
  split
  · rfl
  · split <;> rfl

theorem takeBlock_quieted (allocator : Allocator σ) (source : String) (interlude : Interlude) :
    ((allocator.announcing source interlude).takeBlock source).2.quieted source =
      ((allocator.quieted source).takeBlock source).2 := by
  have quiet := allocator.takeBlock_announced (allocator.interludes.erase source) source
  have announced :=
    allocator.takeBlock_announced (allocator.interludes.insert source interlude) source
  unfold announcing quieted
  rw [quiet, announced]
  simp only [Table.erase_insert]

theorem grants_announced (allocator : Allocator σ) (interludes : Table Interlude)
    (source : String) (count : Nat) :
    { allocator with interludes := interludes }.grants source count =
      allocator.grants source count := by
  induction count generalizing allocator with
  | zero => rfl
  | succ count ih =>
    unfold grants
    rw [takeBlock_announced]
    cases allocator.takeBlock source with
    | mk answer after =>
      cases answer with
      | error fault => rfl
      | ok block =>
        simp only
        rw [ih after]

/-- A request whose block arrives with nothing in between. -/
theorem allocAt_carved (sought : allocator.seek name = (.awaiting source block, after))
    (quiet : after.interludes.find? source = none)
    (published : after.publish name block = (outcome, last)) (depth : Nat) :
    allocAt depth allocator name = (.answered [] outcome, last) := by
  rw [allocAt_eq, allocWith_eq]
  unfold runInterlude
  simp only [sought, quiet, published]

/-- A request in whose window an interlude is served. -/
theorem allocAt_raced (interlude : Interlude) {replies : List Reply}
    (sought : allocator.seek name = (.awaiting source block, after))
    (announced : after.interludes.find? source = some interlude)
    (served : repeated (fun during => allocAt depth during interlude.pool) interlude.count
      (after.quieted source) = (replies, middle))
    (published : middle.publish name block = (outcome, last)) :
    allocAt (depth + 1) allocator name = (.answered replies outcome, last) := by
  unfold quieted at served
  unfold allocAt
  rw [allocWith_eq]
  unfold runInterlude
  simp only [sought, announced, served, published]

end Allocator

namespace World

/-- The world with no interlude announced for a source. -/
def quieted (world : World σ) (source : String) : World σ :=
  { world with allocator := world.allocator.quieted source }

variable {world after : World σ} {name : String} {tenant : Tenant} {pool next : ElementPool}
  {view arranged first : View} {address block count : Nat} {blocks rest addresses : List Nat}

/-- Elements of a pool were handed out and counted, and nothing else of the books changed. -/
structure Gained (world after : World σ) (name : String) (pool next : ElementPool)
    (addresses : List Nat) : Prop where
  live : after.live = world.live ++ addresses.map fun address => (name, address)
  windows : after.windows = world.windows
  interludes : after.allocator.interludes = world.allocator.interludes
  same : pool.Same next
  tally : next.tally = pool.tally.allocs pool.config pool.elementSize addresses.length

namespace Gained

theorem refl (world : World σ) (name : String) (pool : ElementPool) :
    world.Gained world name pool pool [] :=
  ⟨(List.append_nil _).symm, rfl, rfl, .refl _, rfl⟩

theorem trans {last : World σ} {final : ElementPool} {more : List Nat}
    (early : world.Gained after name pool next addresses)
    (late : after.Gained last name next final more) :
    world.Gained last name pool final (addresses ++ more) where
  live := by rw [late.live, early.live, List.map_append, List.append_assoc]
  windows := late.windows.trans early.windows
  interludes := late.interludes.trans early.interludes
  same := early.same.trans late.same
  tally := by
    rw [late.tally, early.tally, early.same.config, early.same.elementSize, List.length_append,
      Tally.allocs_add]

/-- One element, counted once. -/
theorem single {bytes : Nat} (live : after.live = world.live ++ [(name, address)])
    (windows : after.windows = world.windows)
    (interludes : after.allocator.interludes = world.allocator.interludes)
    (counted : pool.Counted next (pool.tally.alloc pool.config pool.elementSize) bytes) :
    world.Gained after name pool next [address] :=
  ⟨live, windows, interludes, counted.same, counted.tally⟩

end Gained

variable [BlockSource σ]

/-- A pool that is set up, arranged like this, can have these blocks from its source: nobody
holds them, and they lie apart from each other. -/
structure Stocked (world : World σ) (name : String) (tenant : Tenant) (view : View)
    (blocks : List Nat) : Prop where
  sound : world.Sound
  found : world.allocator.pools.find? name = some tenant
  shows : tenant.pool.Shows world.allocator.memory view
  ready : tenant.pool.ready = true
  measured : tenant.pool.Measured
  whole : tenant.pool.blockSize % wordBytes = 0
  laid : Region.Laid
    (blocks.map (fun block => ⟨block, tenant.pool.blockSize⟩) ++ world.regions)
  grants : world.allocator.grants tenant.source blocks.length = some blocks

namespace Stocked

/-- The pool moved on, and the blocks in store are the same. -/
private theorem moved {tally : Tally} {bytes : Nat}
    (stocked : world.Stocked name tenant view blocks) (sound : after.Sound)
    (advances : Sound.Advances world after.allocator name tenant pool arranged)
    (counted : tenant.pool.Counted pool tally bytes) (measured : pool.Measured)
    (regions : after.regions.Perm world.regions)
    (supply : after.allocator.SameSupply world.allocator) :
    after.Stocked name { tenant with pool := pool } arranged blocks where
  sound := sound
  found := by
    rw [advances.pools]
    exact Table.find?_insert_self _ _ _
  shows := advances.shown
  ready := counted.ready.trans stocked.ready
  measured := measured
  whole := by
    rw [counted.same.blockSize]
    exact stocked.whole
  laid := by
    rw [counted.same.blockSize]
    exact stocked.laid.perm (regions.append_left _)
  grants := by
    rw [Allocator.grants_congr supply]
    exact stocked.grants

/-- An element from the slabs the pool has. -/
theorem served (stocked : world.Stocked name tenant view blocks)
    (served : view.attempt = some (address, arranged)) :
    ∃ pool piece fresh, view.Placed piece fresh address arranged ∧
      world.allocator.seek name =
        (.settled (.ok address), (world.perform (.request name)).allocator) ∧
      (world.perform (.request name)).Stocked name { tenant with pool := pool } arranged blocks ∧
      world.Gained (world.perform (.request name)) name tenant.pool pool [address] := by
  have sound := stocked.sound
  obtain ⟨pool, changed, piece, fresh, attempted, sought, placed, shown, within⟩ :=
    Sound.seek_arranged stocked.found stocked.shows stocked.ready served
  have performed := perform_request sought
  have counted := attempt_counted attempted
  have honest : world.Honest (.request name) := by
    refine ⟨fun region its => ?_, trivial⟩
    simp only [World.granted, sought] at its
    cases its
  have kept := sound.perform honest
  rw [performed] at kept ⊢
  have advances : Sound.Advances world
      ({ world.allocator.setPool name tenant pool with memory := changed }.hand address)
      name tenant pool arranged :=
    .of_within sound stocked.found stocked.shows rfl shown counted.same.blockSize
      (stocked.shows.region_of_piece placed.mem) within
  refine ⟨pool, piece, fresh, placed, sought, stocked.moved kept advances counted
    (stocked.measured.attempt stocked.shows attempted placed shown)
    (sound.regions_served advances stocked.shows placed rfl) ⟨rfl, rfl, rfl⟩,
    .single rfl rfl rfl counted⟩

/-- A block is on its way for a pool without room. -/
theorem drawn (stocked : world.Stocked name tenant view (block :: rest))
    (nothing : view.attempt = none) :
    world.allocator.seek name =
        (.awaiting tenant.source block, (world.perform (.request name)).allocator) ∧
      (world.perform (.request name)).allocator = (world.allocator.takeBlock tenant.source).2 ∧
      (world.perform (.request name)).Stocked name tenant view rest ∧
      (world.perform (.request name)).live = world.live ∧
      (world.perform (.request name)).windows =
        ⟨name, block, tenant.pool.blockSize⟩ :: world.windows := by
  have sound := stocked.sound
  obtain ⟨taken, took, granted⟩ := Allocator.grants_cons stocked.grants
  have kept := world.allocator.takeBlock_same tenant.source
  have sought := Sound.seek_drained sound.names stocked.found stocked.shows stocked.ready nothing
  rw [took] at sought kept
  have size : ((world.pool? name).map ElementPool.blockSize).getD 0 = tenant.pool.blockSize := by
    unfold pool?
    rw [stocked.found]
    rfl
  have performed : world.perform (.request name) = { world with
      allocator := taken
      windows := ⟨name, block, tenant.pool.blockSize⟩ :: world.windows } := by
    simp only [World.perform, sought, size]
  have laid := stocked.laid
  rw [List.map_cons, List.cons_append] at laid
  have honest : world.Honest (.request name) := by
    refine ⟨fun region its => ?_, trivial⟩
    simp only [World.granted, sought, size, Option.mem_def, Option.some.injEq] at its
    subst its
    exact ⟨laid.placed _ List.mem_cons_self, fun held member =>
      (List.pairwise_cons.1 laid.apart).1 held (List.mem_append_right _ member)⟩
  have after := sound.perform honest
  rw [performed] at after ⊢
  refine ⟨sought, by rw [took], ⟨after, ?_, ?_, stocked.ready, stocked.measured, stocked.whole, ?_,
    granted⟩, rfl, rfl⟩
  · rw [kept.2]
    exact stocked.found
  · exact stocked.shows.of_agree fun region _ => .of_eq kept.1 region
  · refine laid.perm (((Sound.regions_awaiting kept.2 _).append_left _).trans ?_)
    exact List.perm_middle

/-- The block on its way becomes a slab of the pool. -/
theorem carved (stocked : world.Stocked name tenant view blocks)
    (member : ⟨name, block, tenant.pool.blockSize⟩ ∈ world.windows) :
    let window : Window := ⟨name, block, tenant.pool.blockSize⟩
    ∃ pool address arranged last, (view.blank block).shape.Usable ∧
      view.adopt block = some (address, arranged) ∧
      world.allocator.publish name block = (.ok address, last) ∧
      world.perform (.publish window) = { world with
        allocator := last
        live := world.live ++ [(name, address)]
        windows := world.windows.erase window } ∧
      last.interludes = world.allocator.interludes ∧
      (world.perform (.publish window)).Stocked name { tenant with pool := pool } arranged blocks ∧
      tenant.pool.Counted pool (tenant.pool.tally.alloc tenant.pool.config tenant.pool.elementSize)
        (tenant.pool.carvedBytes + tenant.pool.blockSize) := by
  intro window
  have sound := stocked.sound
  have usable := sound.window_usable member stocked.found stocked.shows stocked.measured
    stocked.ready stocked.whole
  obtain ⟨adopted, arranged, made, published, placed, shown, within, -⟩ :=
    sound.publish_fit member stocked.found stocked.shows usable
  have counted := adopt?_counted made
  have performed := perform_publish world window published
  -- Publishing is granted nothing new, so the act is honest as it stands.
  have kept : (world.perform (.publish window)).Sound :=
    sound.perform ⟨fun _ absurd => (by cases absurd), member⟩
  refine ⟨adopted.pool, adopted.address, arranged, _, usable, placed, published, performed, rfl, ?_,
    counted⟩
  rw [performed] at kept ⊢
  have advances : Sound.Advances world
      (({ world.allocator.setPool name tenant adopted.pool with memory := adopted.memory }.note
        [.slabCarved adopted.finish adopted.capacity]).hand adopted.address)
      name tenant adopted.pool arranged :=
    .of_carved sound member stocked.found stocked.shows rfl shown counted.same.blockSize within
  exact stocked.moved kept advances counted
    (stocked.measured.adopt? stocked.shows made placed shown)
    (sound.regions_carved member advances stocked.shows placed rfl rfl) ⟨rfl, rfl, rfl⟩

theorem slots_pos (stocked : world.Stocked name tenant view blocks)
    (filled : first.Filled count view) : 0 < first.slots := by
  have some := stocked.measured.slots_pos stocked.ready
  rw [stocked.shows.slots_eq] at some
  unfold View.slots at some ⊢
  rwa [filled.blockSize, filled.elementSize] at some

/-- **One request.** A pool with blocks in store serves it, from a new slab if all are full. -/
theorem alloc (stocked : world.Stocked name tenant view blocks)
    (filled : first.Filled count view)
    (quiet : world.allocator.interludes.find? tenant.source = none)
    (enough : (count + 1) ⌈/⌉ first.slots ≤ count ⌈/⌉ first.slots + blocks.length) :
    ∃ (after : World σ) (pool : ElementPool) (arranged : View) (left : List Nat) (address : Nat),
      (∀ depth, Allocator.allocAt depth world.allocator name =
        (.answered [] (.ok address), after.allocator)) ∧
      after.Stocked name { tenant with pool := pool } arranged left ∧
      first.Filled (count + 1) arranged ∧ world.Gained after name tenant.pool pool [address] ∧
      arranged.carved.length + left.length = view.carved.length + blocks.length := by
  have positive := stocked.slots_pos filled
  cases served : view.attempt with
  | some result =>
    obtain ⟨address, arranged⟩ := result
    obtain ⟨pool, piece, fresh, placed, sought, still, gained⟩ := stocked.served served
    have same := placed.length_carved
    exact ⟨_, pool, arranged, blocks, address, Allocator.allocAt_settled sought, still,
      filled.served stocked.shows.sound positive placed, gained, by rw [same]⟩
  | none =>
    obtain ⟨-, row⟩ := stocked.shows.roomy_of_attempt_none served
    rw [View.ceilDiv_succ positive, if_pos (filled.dvd_of_row row)] at enough
    cases blocks with
    | nil =>
      rw [List.length_nil] at enough
      omega
    | cons block rest =>
      obtain ⟨sought, taken, waiting, live, windows⟩ := stocked.drawn served
      have unchanged := world.allocator.takeBlock_interludes tenant.source
      rw [← taken] at unchanged
      have member : ⟨name, block, tenant.pool.blockSize⟩ ∈
          (world.perform (.request name)).windows := by
        rw [windows]
        exact List.mem_cons_self
      obtain ⟨pool, address, arranged, last, usable, placed, published, performed, kept, still,
        counted⟩ := waiting.carved member
      have grown := View.length_carved_of_adopt placed
      rw [← unchanged] at quiet
      refine ⟨_, pool, arranged, rest, address, fun depth => ?_, still,
        filled.adopted positive row usable placed, .single ?_ ?_ ?_ counted, ?_⟩
      · rw [Allocator.allocAt_carved sought quiet published depth, performed]
      · rw [performed, live]
      · rw [performed, windows]
        exact List.erase_cons_head _ _
      · rw [performed]
        exact kept.trans unchanged
      · rw [grown, List.length_cons, Nat.add_right_comm, Nat.add_assoc]

/-- A request that is served without interludes of its own. -/
def Plain (request : Allocator σ → Reply × Allocator σ) (name : String) : Prop :=
  ∀ allocator, ∃ depth, request allocator = Allocator.allocAt depth allocator name

/-- **Any number of requests**, one after the other. -/
theorem rounds {more : Nat} (stocked : world.Stocked name tenant view blocks)
    (filled : first.Filled count view)
    (quiet : world.allocator.interludes.find? tenant.source = none)
    (enough : (count + more) ⌈/⌉ first.slots ≤ count ⌈/⌉ first.slots + blocks.length) :
    ∃ (after : World σ) (pool : ElementPool) (arranged : View) (left addresses : List Nat),
      (∀ request, Plain request name → Allocator.repeated request more world.allocator =
        (addresses.map fun address => .answered [] (.ok address), after.allocator)) ∧
      addresses.length = more ∧ after.Stocked name { tenant with pool := pool } arranged left ∧
      first.Filled (count + more) arranged ∧
      world.Gained after name tenant.pool pool addresses := by
  -- By induction on the requests that are left; the blocks that remain cover the rounded-up
  -- quotient.
  induction more generalizing world tenant view blocks count with
  | zero =>
    exact ⟨world, tenant.pool, view, blocks, [], fun _ _ => rfl, rfl, stocked, filled, .refl ..⟩
  | succ more ih =>
    have step := (gc_mul_ceilDiv (stocked.slots_pos filled)).monotone_l
      (show count + 1 ≤ count + (more + 1) by omega)
    obtain ⟨after, next, arranged, left, address, answered, still, further, gained, stock⟩ :=
      stocked.alloc filled quiet (Nat.le_trans step enough)
    have kept := filled.carved
    have grown := further.carved
    obtain ⟨last, final, settled, rest, addresses, answeredRest, length, stillRest, furtherRest,
      gainedRest⟩ := ih still further (by rw [gained.interludes]; exact quiet)
        (by rw [Nat.add_assoc, Nat.add_comm 1]; omega)
    refine ⟨last, final, settled, rest, address :: addresses, fun request plain => ?_,
      by rw [List.length_cons, length], stillRest, ?_, gained.trans gainedRest⟩
    · obtain ⟨depth, same⟩ := plain world.allocator
      unfold Allocator.repeated
      simp only [same, answered, answeredRest request plain]
      rfl
    · rw [Nat.add_assoc, Nat.add_comm 1] at furtherRest
      exact furtherRest

/-- A pool without room serves any number of requests from new slabs alone. -/
theorem rounds_from_full (stocked : world.Stocked name tenant view blocks)
    (quiet : world.allocator.interludes.find? tenant.source = none)
    (nothing : view.attempt = none) (enough : count ⌈/⌉ tenant.pool.slots ≤ blocks.length) :
    ∃ (after : World σ) (pool : ElementPool) (arranged : View) (left addresses : List Nat),
      (∀ request, Plain request name → Allocator.repeated request count world.allocator =
        (addresses.map fun address => .answered [] (.ok address), after.allocator)) ∧
      addresses.length = count ∧ after.Stocked name { tenant with pool := pool } arranged left ∧
      world.Gained after name tenant.pool pool addresses ∧
      pool.slabCount = tenant.pool.slabCount + count ⌈/⌉ tenant.pool.slots := by
  obtain ⟨busy, row⟩ := stocked.shows.roomy_of_attempt_none nothing
  have slots := stocked.shows.slots_eq
  rw [slots] at enough ⊢
  have room : (0 + count) ⌈/⌉ view.slots ≤ 0 ⌈/⌉ view.slots + blocks.length := by
    rwa [Nat.zero_add, zero_ceilDiv, Nat.zero_add]
  obtain ⟨after, pool, arranged, left, addresses, answered, length, still, filled, gained⟩ :=
    stocked.rounds (.start busy row) quiet room
  rw [Nat.zero_add] at filled
  refine ⟨after, pool, arranged, left, addresses, answered, length, still, gained, ?_⟩
  rw [still.shows.slabCount_eq, filled.carved, stocked.shows.slabCount_eq]

end Stocked

end World

end SlabAllocator
