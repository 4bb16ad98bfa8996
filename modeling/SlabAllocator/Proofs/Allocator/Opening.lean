import SlabAllocator.Proofs.Allocator.Capacity

/-! A pool from its making to its first new slab. Until it is set up a pool is as it was made,
and nothing is on its way to it. From then on its resident slab serves as many elements as the
pool was set up for, and only the request after the last of them needs a block. -/
namespace SlabAllocator

open ElementPool

variable {σ : Type} [BlockSource σ]

namespace World

variable {world : World σ} {act : Act σ} {acts : List (Act σ)} {name source : String}
  {tenant : Tenant} {view : View} {pool next : ElementPool} {count : Nat}

namespace Treats

/-- A pool that was set up stays so, and keeps its resident slab. -/
theorem stays (treats : world.Treats act name pool next) (ready : pool.ready = true) :
    next.ready = true ∧ next.resident = pool.resident := by
  cases treats with
  | rests => exact ⟨ready, rfl⟩
  | setsUp its made =>
    rw [(init_cases made).1] at ready
    cases ready
  | serves its out attempted =>
    exact ⟨(attempt_counted attempted).ready.trans ready, (steady_attempt attempted).resident⟩
  | carves its member mine out made =>
    exact ⟨(adopt?_counted made).ready.trans ready, (steady_adopt? made).resident⟩
  | takesBack its back taken =>
    exact ⟨(free_counted taken).ready.trans ready, (steady_free taken).resident⟩

/-- Nothing is taken back unless somebody gives it back. -/
theorem keeps (treats : world.Treats act name pool next)
    (holds : ∀ address, act ≠ .release name address) : countOf name (world.returns act) = 0 := by
  cases treats with
  | rests out back => exact back
  | setsUp its made =>
    subst its
    rfl
  | serves its out attempted =>
    subst its
    rfl
  | carves its member mine out made =>
    subst its
    rfl
  | takesBack its back taken => exact absurd its (holds _)

end Treats

/-- A block is asked for when no slab has room, and nothing else happens. -/
theorem Sound.awaiting_drained {block : Nat} {after : Allocator σ}
    (sound : world.Sound) (sought : world.allocator.seek name = (.awaiting source block, after))
    (found : world.allocator.pools.find? name = some tenant)
    (shows : tenant.pool.Shows world.allocator.memory view) :
    tenant.pool.ready = true ∧ tenant.source = source ∧ view.attempt = none ∧
      after.memory = world.allocator.memory ∧ after.pools = world.allocator.pools := by
  obtain ⟨owner, known, ready, same⟩ := Allocator.seek_awaiting sought
  obtain rfl : owner = tenant := Option.some.inj (known.symm.trans found)
  refine ⟨ready, same, ?_⟩
  cases served : view.attempt with
  | none =>
    have kept := world.allocator.takeBlock_same owner.source
    rw [seek_drained sound.names found shows ready served] at sought
    split at sought
    · cases sought
    · next taken =>
      cases sought
      rw [taken] at kept
      exact ⟨rfl, kept⟩
  | some result =>
    obtain ⟨_, _, _, _, -, settled, -⟩ := seek_arranged found shows ready served
    rw [sought] at settled
    cases settled

/-- The block that has just come on its way was needed: no slab of its pool has room. -/
theorem Sound.window_drained (sound : world.Sound) {window : Window}
    (waiting : window ∈ (world.perform act).windows) (fresh : window ∉ world.windows)
    (found : world.allocator.pools.find? window.pool = some tenant)
    (shows : tenant.pool.Shows world.allocator.memory view) :
    tenant.pool.ready = true ∧ view.attempt = none := by
  obtain ⟨rfl, idles, opened⟩ := (sound.window_cases waiting).resolve_left fresh
  cases sought : world.allocator.seek window.pool with
  | mk progress after =>
    cases progress with
    | settled outcome =>
      rw [perform_request sought] at opened
      exact absurd opened.symm (List.cons_ne_self _ _)
    | awaiting source block =>
      obtain ⟨ready, -, nothing, -⟩ := sound.awaiting_drained sought found shows
      exact ⟨ready, nothing⟩

/-! ## Before the set-up -/

/-- A pool as it was made, with no block on its way to it. -/
structure Dormant (world : World σ) (name : String) (pool : ElementPool) : Prop where
  made : ∃ requested, pool = .new pool.blockSize requested pool.config
  quiet : ∀ window ∈ world.windows, window.pool ≠ name

/-- Pools that are not set up are dormant. -/
def Rested (world : World σ) : Prop :=
  ∀ name tenant, world.allocator.pools.find? name = some tenant → tenant.pool.ready = false →
    world.Dormant name tenant.pool

omit [BlockSource σ] in
theorem Rested.start (allocator : Allocator σ) : (World.start allocator).Rested :=
  fun _ _ absurd => by cases absurd

/-- A pool that is not set up after an act has not moved. -/
theorem Dormant.rests (dormant : world.Dormant name pool)
    (treats : world.Treats act name pool next) (still : next.ready = false)
    (found : world.allocator.pools.find? name = some { tenant with pool := pool }) :
    next = pool := by
  obtain ⟨requested, made⟩ := dormant.made
  have unready : pool.ready = false := by
    rw [made]
    rfl
  -- Only setting up wakes a pool: it has nothing to serve from, no window and no slab to take back
  -- into.
  cases treats with
  | rests => rfl
  | setsUp its made =>
    rw [(init_counted made).1] at still
    cases still
  | serves its out attempted =>
    subst its
    rw [handouts_settled (Allocator.seek_unready found unready)] at out
    cases out
  | carves its member mine out made => exact absurd mine (dormant.quiet _ member)
  | takesBack its back taken =>
    rw [made] at taken
    cases taken

theorem Rested.perform (rested : world.Rested) (sound : world.Sound) (honest : world.Honest act) :
    (world.perform act).Rested := by
  intro name tenant found unready
  -- A pool that is not ready now was made by this act, or was not ready before it.
  cases before : world.allocator.pools.find? name with
  | none =>
    obtain ⟨source, blockSize, elementSize, config, rfl⟩ :=
      sound.create_of_come honest before found
    have made : (world.perform (.create name source blockSize elementSize
        config)).allocator.pools.find? name = some ⟨.new blockSize elementSize config, source⟩ :=
      Table.find?_insert_self _ _ _
    rw [made] at found
    cases found
    refine ⟨⟨elementSize, rfl⟩, fun window member mine => ?_⟩
    obtain ⟨owner, known, -⟩ := sound.awaited window member
    rw [mine, before] at known
    cases known
  | some owner =>
    have lasting : act ≠ .drop name := by
      rintro rfl
      have found : (world.allocator.dropPool name).pools.find? name = some tenant := found
      rw [world.allocator.dropPool_pools name, Table.find?_erase_self] at found
      cases found
    obtain ⟨next, moved, treats⟩ := sound.lasts honest before lasting
    rw [found] at moved
    cases moved
    have idle : owner.pool.ready = false := by
      cases ready : owner.pool.ready with
      | false => rfl
      | true =>
        rw [(treats.stays ready).1] at unready
        cases unready
    have dormant := rested name owner before idle
    have same : next = owner.pool := dormant.rests treats unready before
    subst same
    refine ⟨dormant.made, fun window member mine => ?_⟩
    by_cases old : window ∈ world.windows
    · exact dormant.quiet window old mine
    · subst mine
      obtain ⟨view, shows, -⟩ := sound.shown window.pool owner before
      rw [(sound.window_drained member old before shows).1] at idle
      cases idle

theorem Rested.run (rested : world.Rested) (sound : world.Sound) (honest : world.HonestRun acts) :
    (world.run acts).Rested := by
  induction acts generalizing world with
  | nil => exact rested
  | cons act rest ih =>
    obtain ⟨here, later⟩ := honest
    exact ih (rested.perform sound here) (sound.perform here) later

theorem Rested.of_reachable (reachable : world.Reachable) : world.Rested := by
  obtain ⟨allocator, acts, honest, rfl⟩ := reachable
  exact (Rested.start allocator).run (.start allocator) honest

/-! ## From the set-up on -/

/-- A pool that was set up with `count` elements and has taken none back. No block becomes a
slab, or is on its way to the pool, before all of them are live. -/
structure Opening (world : World σ) (name : String) (count : Nat) (pool : ElementPool) : Prop where
  ready : pool.ready = true
  resident : pool.resident.map Resident.size =
    if count = 0 then none else some (count * pool.elementSize + Slab.headerBytes)
  uncarved : pool.carvedBytes = 0 ∨ count < world.population name
  patient : ∀ window ∈ world.windows, window.pool = name → count ≤ world.population name

namespace Opening

omit [BlockSource σ] in
/-- Before its first new slab the pool has the slots it was set up with. -/
theorem capacity_eq (opening : world.Opening name count pool) (measured : pool.Measured)
    (shows : pool.Shows world.allocator.memory view) (bare : pool.carvedBytes = 0) :
    view.pieces = view.resident.toList ∧ view.capacity = count := by
  obtain ⟨positive, room⟩ := measured.fits opening.ready
  -- The bytes that were carved count the slabs, so a pool that carved none has none.
  have none : view.carved = [] := by
    have slabs := measured.carved
    rw [bare, eq_comm, Nat.mul_eq_zero, shows.slabCount_eq, List.length_eq_zero_iff] at slabs
    exact slabs.resolve_left (by omega)
  have only : view.pieces = view.resident.toList := by
    unfold View.pieces
    rw [none, List.append_nil]
  refine ⟨only, ?_⟩
  have resident := opening.resident
  rw [shows.resident, Option.map_map] at resident
  unfold View.capacity
  rw [only]
  cases known : view.resident with
  | none =>
    rw [known] at resident
    split at resident
    · next empty => exact empty.symm
    · cases resident
  | some piece =>
    have width := shows.sound.sorted.elements piece (View.mem_of_resident known)
    rw [known] at resident
    split at resident
    · cases resident
    · have size : piece.shape.size = count * pool.elementSize + Slab.headerBytes :=
        Option.some.inj resident
      show piece.shape.capacity = count
      unfold Slab.Shape.capacity
      rw [size, width, ← shows.elementSize, Nat.add_sub_cancel, Nat.mul_div_cancel _ positive]

omit [BlockSource σ] in
/-- Before its first new slab the pool is out of room once all elements it was set up with are
live. -/
theorem attempt_eq_none_iff (opening : world.Opening name count pool) (sound : world.Sound)
    (measured : pool.Measured) (shows : pool.Shows world.allocator.memory view)
    (books : ∀ address, (name, address) ∈ world.live ↔ view.Live address)
    (bare : pool.carvedBytes = 0) :
    view.attempt = none ↔ world.population name = count := by
  rw [shows.attempt_eq_none_iff, ← shows.sound.population_eq_iff,
    (opening.capacity_eq measured shows bare).2, sound.population_eq shows books]

/-- The pool is out of room at the first block that comes on its way. -/
theorem step (opening : world.Opening name count pool) (sound : world.Sound)
    (measured : world.Measured) (honest : world.Honest act)
    (found : world.allocator.pools.find? name = some ⟨pool, source⟩) (lasting : act ≠ .drop name)
    (holds : ∀ address, act ≠ .release name address) : ∃ next,
      (world.perform act).allocator.pools.find? name = some ⟨next, source⟩ ∧
        (world.perform act).Opening name count next ∧
        next.resident = pool.resident ∧ pool.Same next ∧
        (world.perform act).population name =
          world.population name + countOf name (world.handouts act) := by
  obtain ⟨next, moved, treats⟩ := sound.lasts honest found lasting
  obtain ⟨ready, resident⟩ := treats.stays opening.ready
  have same := treats.same
  have books := population_step sound honest lasting
  rw [treats.keeps holds, Nat.add_zero] at books
  refine ⟨next, moved, ⟨ready, ?resident, ?uncarved, ?patient⟩, resident, same, books⟩
  case resident =>
    rw [resident, same.elementSize]
    exact opening.resident
  case uncarved =>
    rw [books]
    -- Either nothing was carved so far, or the requested elements are already exceeded.
    rcases opening.uncarved with bare | beyond
    · cases treats with
      | rests => exact .inl bare
      | setsUp its made =>
        left
        rw [(init_counted made).2.2]
        exact bare
      | serves its out attempted =>
        left
        rw [(attempt_counted attempted).carvedBytes]
        exact bare
      | carves its member mine out made =>
        have patient := opening.patient _ member mine
        exact .inr (by omega)
      | takesBack its back taken => exact absurd its (holds _)
    · exact .inr (by omega)
  case patient =>
    intro window waiting mine
    rw [books]
    apply Nat.le_add_right_of_le
    by_cases old : window ∈ world.windows
    · exact opening.patient window old mine
    · subst mine
      obtain ⟨view, shows, known⟩ := sound.shown window.pool _ found
      have drained := (sound.window_drained waiting old found shows).2
      rcases opening.uncarved with bare | beyond
      · have weighed := measured window.pool _ found
        exact ((opening.attempt_eq_none_iff sound weighed shows known bare).1 drained).ge
      · exact beyond.le

theorem run (opening : world.Opening name count pool) (sound : world.Sound)
    (measured : world.Measured) (honest : world.HonestRun acts)
    (found : world.allocator.pools.find? name = some ⟨pool, source⟩)
    (holds : ∀ act ∈ acts, act ≠ .drop name ∧ ∀ address, act ≠ .release name address) : ∃ next,
      (world.run acts).allocator.pools.find? name = some ⟨next, source⟩ ∧
        (world.run acts).Opening name count next ∧
        next.resident = pool.resident ∧ pool.Same next ∧
        (world.run acts).population name =
          world.population name + countOf name (world.along handouts acts) := by
  induction acts generalizing world pool with
  | nil => exact ⟨pool, found, opening, rfl, .refl _, rfl⟩
  | cons act rest ih =>
    obtain ⟨here, later⟩ := honest
    obtain ⟨⟨lasting, mine⟩, others⟩ := List.forall_mem_cons.1 holds
    obtain ⟨next, moved, opened, kept, same, books⟩ :=
      opening.step sound measured here found lasting mine
    obtain ⟨last, left, still, also, alike, more⟩ :=
      ih opened (sound.perform here) (measured.perform sound here) later moved others
    refine ⟨last, left, still, also.trans kept, same.trans alike, more.trans ?_⟩
    rw [books, along, countOf_append, Nat.add_assoc]

/-- A request that comes early enough is served by the resident slab. -/
theorem served (opening : world.Opening name count pool) (sound : world.Sound)
    (measured : world.Measured) (found : world.allocator.pools.find? name = some ⟨pool, source⟩)
    (early : world.population name < count) : ∃ resident address after,
      pool.resident = some resident ∧ resident.region.contains address = true ∧
        world.allocator.watched name = ((.answered [] (.ok address), after), []) := by
  obtain ⟨view, shows, books⟩ := sound.shown name _ found
  have bare := opening.uncarved.resolve_right (Nat.lt_asymm early)
  have weighed := measured name _ found
  cases served : view.attempt with
  | none =>
    have late := (opening.attempt_eq_none_iff sound weighed shows books bare).1 served
    exact absurd late (Nat.ne_of_lt early)
  | some result =>
    obtain ⟨address, arranged⟩ := result
    obtain ⟨piece, fresh, -, -, placed, -⟩ := shows.attempt_some served
    obtain ⟨after, -, answered⟩ := Sound.alloc_served found shows opening.ready served
    have member := placed.mem
    rw [(opening.capacity_eq weighed shows bare).1, Option.mem_toList] at member
    have held := shows.sound.held piece (View.mem_of_resident member)
    refine ⟨⟨piece.base, piece.shape.size⟩, address, after, ?_,
      held.contains_of_alloc placed.handed, answered⟩
    rw [shows.resident, member]
    rfl

/-- The request after the last of them needs a block. -/
theorem asked (opening : world.Opening name count pool) (sound : world.Sound)
    (measured : world.Measured) (found : world.allocator.pools.find? name = some ⟨pool, source⟩)
    (carves : pool.Carves) (spent : world.population name = count) :
    (world.allocator.watched name).2 = [.asks source] := by
  obtain ⟨view, shows, books⟩ := sound.shown name _ found
  have bare := opening.uncarved.resolve_right spent.not_gt
  have weighed := measured name _ found
  have nothing := (opening.attempt_eq_none_iff sound weighed shows books bare).2 spent
  exact Allocator.contacts_drained found opening.ready carves (shows.attempt_none nothing)

end Opening

/-- A dormant pool that is set up has all its slots before it. -/
theorem Dormant.opening {setup : Setup} (dormant : world.Dormant name tenant.pool)
    (sound : world.Sound) (found : world.allocator.pools.find? name = some tenant)
    (made : tenant.pool.init world.allocator.memory world.allocator.system count = .ok setup) :
    (world.perform (.setUp name count)).allocator.pools.find? name =
        some { tenant with pool := setup.pool } ∧
      (world.perform (.setUp name count)).Opening name count setup.pool ∧
      (world.perform (.setUp name count)).population name = 0 := by
  obtain ⟨requested, new⟩ := dormant.made
  have bare : tenant.pool.resident = none := by
    rw [new]
    rfl
  have pools : (world.perform (.setUp name count)).allocator.pools =
      world.allocator.pools.insert name { tenant with pool := setup.pool } := by
    simp only [World.perform, Allocator.initPool_made found made]
    rfl
  obtain ⟨ready, -, carved⟩ := init_counted made
  refine ⟨by rw [pools, Table.find?_insert_self], ⟨ready, ?_, ?_, ?_⟩, ?_⟩
  · rw [(same_init made).elementSize]
    obtain ⟨empty, same, -⟩ | ⟨wanted, base, same, -⟩ := init_system made
    · rw [same, bare, if_pos empty]
      rfl
    · rw [same, if_neg wanted]
      rfl
  · left
    rw [carved, new]
    rfl
  · exact fun window waiting mine => absurd mine (dormant.quiet window waiting)
  · obtain ⟨view, shows, books⟩ := sound.shown name tenant found
    have slabs : view.carved.length = 0 := by
      rw [← shows.slabCount_eq, new]
      rfl
    have idle := shows.idle (by rw [new]; rfl)
    show world.population name = 0
    rw [sound.population_eq shows books]
    unfold View.population View.pieces
    rw [idle, List.eq_nil_of_length_eq_zero slabs]
    rfl

end World

end SlabAllocator
