import SlabAllocator.Proofs.Allocator.Exclusive
import SlabAllocator.Proofs.ElementPool.Footprint

/-! What an act of an honest run writes and what it moves. One pool moves at most, and
outside the headers of slabs an act writes only where it is told to write and into an
element that it hands out or takes back. `perform_byte` is the lemma that every other
frame property rests on. -/
namespace SlabAllocator

open ElementPool

variable {σ : Type} [BlockSource σ]

/-- What an act leaves in a byte as far as it is asked to write. -/
def Act.over (act : Act σ) (address : Nat) (byte : UInt8) : UInt8 :=
  match act with
  | .write start length content =>
    if start ≤ address ∧ address < start + length then content (address - start) else byte
  | _ => byte

/-- A request that is answered with an element was served from the slabs of the pool. -/
theorem Allocator.attempt_of_seek {allocator after : Allocator σ} {name : String}
    {tenant moved : Tenant} {address : Nat} (found : allocator.pools.find? name = some tenant)
    (sought : allocator.seek name = (.settled (.ok address), after))
    (left : after.pools.find? name = some moved) :
    tenant.pool.attempt allocator.memory = .served address moved.pool after.memory := by
  have ways := allocator.seek_cases name
  rw [sought] at ways
  cases ways with
  | served its ready served =>
    cases its.symm.trans found
    unfold hand setPool at left
    simp only [Table.find?_insert_self, Option.some.injEq] at left
    subst left
    exact served

namespace World

variable {world : World σ} {act : Act σ} {name : String} {address byte : Nat}

/-- The act hands an element out: it is a request to the pool, or it carves a block that
was on its way to the pool. -/
structure Hands (world : World σ) (act : Act σ) (name : String) (address : Nat) : Prop where
  asked : act = .request name ∨
    ∃ window ∈ world.windows, act = .publish window ∧ window.pool = name
  vacant : (name, address) ∉ world.live
  live : (world.perform act).live = world.live ++ [(name, address)]

/-- Nothing of the pools, of memory or of the books changes. -/
structure Idles (world : World σ) (act : Act σ) : Prop where
  memory : (world.perform act).allocator.memory = world.allocator.memory
  pools : (world.perform act).allocator.pools = world.allocator.pools
  live : (world.perform act).live = world.live

/-- An element of `tenant`'s pool is handed out, in a slab the pool has afterwards. -/
structure Freshened (world : World σ) (act : Act σ) (name : String) (address : Nat)
    (tenant : Tenant) (next : ElementPool) : Prop where
  found : world.allocator.pools.find? name = some tenant
  same : tenant.pool.Same next
  pools : (world.perform act).allocator.pools =
    world.allocator.pools.insert name { tenant with pool := next }
  /-- No slab goes. -/
  grown : tenant.pool.regions ⊆ next.regions
  hands : world.Hands act name address
  written : ∃ slab ∈ (world.perform act).slabs, tenant.pool.Freshens world.allocator.memory
    (world.perform act).allocator.memory slab.start address

namespace Sound

/-! ## Handing out -/

/-- A request changes nothing yet, or hands an element out. -/
theorem request_cases (sound : world.Sound) (name : String) :
    world.Idles (.request name) ∨
      ∃ address tenant next, world.Freshened (.request name) name address tenant next := by
  cases found : world.allocator.pools.find? name with
  | none =>
    refine .inl ⟨?_, ?_, ?_⟩ <;> simp only [World.perform, Allocator.seek_absent found] <;> rfl
  | some tenant =>
    obtain ⟨view, shows, books⟩ := sound.shown name tenant found
    rcases seek_cases sound.names found shows with ⟨fault, after, sought, memory, pools⟩ |
      ⟨block, after, sought, memory, pools⟩ |
      ⟨address, next, changed, after, arranged, piece, fresh, sought, memory, pools, placed, shown,
        -⟩
    · refine .inl ⟨?_, ?_, ?_⟩ <;> simp only [World.perform, sought, memory, pools]
    · refine .inl ⟨?_, ?_, ?_⟩ <;> simp only [World.perform, sought, memory, pools]
    · have moved : after.pools.find? name = some { tenant with pool := next } := by
        rw [pools, Table.find?_insert_self]
      have attempted := Allocator.attempt_of_seek found sought moved
      obtain ⟨base, mine, written⟩ := shows.attempt_writes attempted
      obtain ⟨slab, slabMine, begins⟩ : ∃ slab ∈ tenant.pool.regions, slab.start = base := by
        obtain ⟨owner, member, rfl⟩ := shows.piece_of_base mine
        exact ⟨owner.shape.region, shows.region_of_piece member, rfl⟩
      have performed : world.perform (.request name) =
          { world with allocator := after, live := world.live ++ [(name, address)] } :=
        perform_request sought
      have vacant := (placed.live shows.sound).1
      have grown : tenant.pool.regions ⊆ next.regions := fun region mine =>
        shown.regions_perm.mem_iff.2 (placed.regions.mem_iff.2 (shows.regions_perm.mem_iff.1 mine))
      refine .inr ⟨address, tenant, next, found, same_attempt attempted, ?_, grown,
        ⟨.inl rfl, ?_, ?_⟩, slab, ?_, ?_⟩
      · rw [performed]
        exact pools
      · rw [books]
        exact vacant
      · rw [performed]
      · rw [performed]
        exact slab_of_pool moved (grown slabMine)
      · rw [performed, begins]
        exact written

/-- Carving a block changes nothing, or hands its first element out. -/
theorem publish_freshened (sound : world.Sound) {window : Window}
    (member : window ∈ world.windows) : world.Idles (.publish window) ∨
      ∃ address tenant next, world.Freshened (.publish window) window.pool address tenant next := by
  obtain ⟨tenant, found, -⟩ := sound.awaited window member
  obtain ⟨view, shows, books⟩ := sound.shown window.pool tenant found
  have block := sound.blank_region member found shows
  obtain ⟨-, fault, after, published, memory, pools⟩ |
    ⟨adopted, arranged, after, made, published, memory, pools, placed, shown, -, vacant, -⟩ :=
    sound.publish_cases member found shows
  · refine .inl ⟨?_, ?_, ?_⟩ <;> simp only [World.perform, published, memory, pools]
  · have performed := perform_publish world window published
    have ranges := shown.regions_perm.trans (View.adopt_regions placed)
    refine .inr ⟨adopted.address, tenant, adopted.pool, found, same_adopt? made, ?_,
      fun region mine => ?_, ⟨.inr ⟨window, member, rfl, rfl⟩, ?_, ?_⟩, window.region, ?_, ?_⟩
    · rw [performed]
      exact pools
    · rw [ranges.mem_iff]
      exact List.mem_cons_of_mem _ (shows.regions_perm.mem_iff.1 mine)
    · rw [books]
      exact vacant
    · rw [performed]
      rfl
    · rw [performed]
      have moved : after.pools.find? window.pool = some { tenant with pool := adopted.pool } := by
        rw [pools, Table.find?_insert_self]
      refine slab_of_pool moved ?_
      show window.region ∈ adopted.pool.regions
      rw [ranges.mem_iff, block]
      exact List.mem_cons_self
    · rw [performed]
      show tenant.pool.Freshens _ after.memory _ _
      rw [memory]
      exact shows.adopt?_writes (sound.usable_of_adopted member found shows made)
        (sound.blank_apart member found shows) made

/-! ## The other acts -/

omit [BlockSource σ] in
theorem element_eq {tenant : Tenant} (found : world.allocator.pools.find? name = some tenant)
    (address : Nat) : world.element (name, address) = ⟨address, tenant.pool.elementSize⟩ := by
  unfold element pool?
  rw [found]
  rfl

theorem setUp_cases (world : World σ) (name : String) (count : Nat) :
    world.Idles (.setUp name count) ∨ ∃ tenant setup,
      world.allocator.pools.find? name = some tenant ∧
      tenant.pool.init world.allocator.memory world.allocator.system count = .ok setup ∧
      (world.perform (.setUp name count)).allocator.pools =
        world.allocator.pools.insert name { tenant with pool := setup.pool } ∧
      (world.perform (.setUp name count)).allocator.memory = setup.memory ∧
      (world.perform (.setUp name count)).live = world.live := by
  rcases world.allocator.initPool_cases name count with ⟨fault, answered⟩ |
    ⟨tenant, setup, found, made, answered⟩
  · refine .inl ⟨?_, ?_, rfl⟩ <;> simp only [World.perform, answered] <;> rfl
  · refine .inr ⟨tenant, setup, found, made, ?_, ?_, rfl⟩ <;>
      simp only [World.perform, answered] <;> rfl

omit [BlockSource σ] in
/-- What a pool takes back its arrangement takes back, and nothing is written but in the slab
the element belongs to and in links. -/
theorem returned_of_taken (obeys : world.Obeys (.release name address)) {tenant : Tenant}
    {view : View} {freed : Freed} (found : world.allocator.pools.find? name = some tenant)
    (shows : tenant.pool.Shows world.allocator.memory view)
    (taken : tenant.pool.free world.allocator.memory address = .ok freed) :
    ∃ piece fresh arranged, view.Returned piece fresh address freed.retired arranged ∧
      freed.pool.Shows freed.memory arranged ∧
      world.allocator.memory.ChangedAmong freed.memory (piece.shape.region :: view.links) := by
  simp only [Obeys, pool?, found, Option.map_some, Option.mem_def, Option.some.injEq,
    forall_eq'] at obeys
  have visible := shows.not_hidden obeys
  cases outcome : view.free address with
  | error fault =>
    rw [shows.free_error visible outcome] at taken
    cases taken
  | ok result =>
    obtain ⟨gone, arranged⟩ := result
    obtain ⟨piece, fresh, back, returned, same, rfl, shown, within⟩ := shows.free_ok visible outcome
    rw [taken] at same
    cases same
    exact ⟨piece, fresh, arranged, returned, shown, within⟩

/-- What a pool takes back was a live element, and it is no longer. -/
theorem release_taken (sound : world.Sound) (obeys : world.Obeys (.release name address))
    {tenant : Tenant} {freed : Freed} (found : world.allocator.pools.find? name = some tenant)
    (taken : tenant.pool.free world.allocator.memory address = .ok freed) :
    (world.perform (.release name address)).allocator.pools =
        world.allocator.pools.insert name { tenant with pool := freed.pool } ∧
      (world.perform (.release name address)).allocator.memory = freed.memory ∧
      (name, address) ∈ world.live ∧
      (world.perform (.release name address)).live = world.live.erase (name, address) := by
  obtain ⟨view, shows, books⟩ := sound.shown name tenant found
  obtain ⟨piece, fresh, arranged, returned, -⟩ := returned_of_taken obeys found shows taken
  obtain ⟨memory, pools⟩ := free_moved found taken
  refine ⟨pools, memory, (books address).2 (returned.live shows.sound).1, ?_⟩
  simp only [World.perform, accepts, pool?, found, Option.map_some, taken, ↓reduceIte]

/-- An address that comes back is refused and nothing moves, or its element was live. -/
theorem release_cases (sound : world.Sound) (obeys : world.Obeys (.release name address)) :
    world.Idles (.release name address) ∨ ∃ tenant freed,
      world.allocator.pools.find? name = some tenant ∧
      tenant.pool.free world.allocator.memory address = .ok freed ∧
      (world.perform (.release name address)).allocator.pools =
        world.allocator.pools.insert name { tenant with pool := freed.pool } ∧
      (world.perform (.release name address)).allocator.memory = freed.memory ∧
      (name, address) ∈ world.live ∧
      (world.perform (.release name address)).live = world.live.erase (name, address) := by
  cases found : world.allocator.pools.find? name with
  | none =>
    refine .inl ⟨?_, ?_, ?_⟩ <;>
      simp only [World.perform, Allocator.free_absent address found, accepts, pool?, found,
        Option.map_none, Bool.false_eq_true, ↓reduceIte] <;> rfl
  | some tenant =>
    cases taken : tenant.pool.free world.allocator.memory address with
    | error fault =>
      obtain ⟨memory, pools⟩ := free_refused found taken
      refine .inl ⟨memory, pools, ?_⟩
      simp only [World.perform, accepts, pool?, found, Option.map_some, taken,
        Bool.false_eq_true, ↓reduceIte]
    | ok freed => exact .inr ⟨tenant, freed, rfl, taken, sound.release_taken obeys found taken⟩

/-! ## What stays the same -/

omit [BlockSource σ] in
private theorem pool_same_of_insert {after : World σ} {moved : String} {tenant : Tenant}
    {next pool : ElementPool} (found : world.allocator.pools.find? moved = some tenant)
    (pools : after.allocator.pools =
      world.allocator.pools.insert moved { tenant with pool := next })
    (same : tenant.pool.Same next) (known : world.pool? name = some pool) :
    ∃ next, after.pool? name = some next ∧ pool.Same next := by
  unfold pool? at known ⊢
  rw [pools]
  by_cases here : name = moved
  · subst here
    rw [found] at known
    cases known
    exact ⟨next, by rw [Table.find?_insert_self]; rfl, same⟩
  · exact ⟨pool, by rw [Table.find?_insert_of_ne _ _ here, known], .refl pool⟩

omit [BlockSource σ] in
private theorem pool_same_of_eq {after : World σ} {pool : ElementPool}
    (pools : after.allocator.pools = world.allocator.pools) (known : world.pool? name = some pool) :
    ∃ next, after.pool? name = some next ∧ pool.Same next := by
  unfold pool? at known ⊢
  rw [pools]
  exact ⟨pool, known, .refl pool⟩

/-- A pool keeps its sizes and its configuration until it ends. -/
theorem pool_same (sound : world.Sound) (honest : world.Honest act) {pool : ElementPool}
    (known : world.pool? name = some pool) (lasting : act ≠ .drop name) :
    ∃ next, (world.perform act).pool? name = some next ∧ pool.Same next := by
  obtain ⟨-, obeys⟩ := honest
  cases act with
  | create other source blockSize elementSize config =>
    have different : name ≠ other := by
      rintro rfl
      unfold pool? at known
      obtain ⟨tenant, found, -⟩ := Option.map_eq_some_iff.1 known
      exact obeys (Table.mem_names found)
    refine ⟨pool, ?_, .refl pool⟩
    unfold pool? at known ⊢
    show ((world.allocator.pools.insert other _).find? name).map _ = _
    rw [Table.find?_insert_of_ne _ _ different, known]
  | setUp other count =>
    rcases setUp_cases world other count with idles | ⟨tenant, setup, found, made, pools, -⟩
    · exact pool_same_of_eq idles.pools known
    · exact pool_same_of_insert found pools (same_init made) known
  | request other =>
    rcases sound.request_cases other with idles | ⟨address, tenant, next, freshened⟩
    · exact pool_same_of_eq idles.pools known
    · exact pool_same_of_insert freshened.found freshened.pools freshened.same known
  | publish window =>
    rcases sound.publish_freshened obeys with idles | ⟨address, tenant, next, freshened⟩
    · exact pool_same_of_eq idles.pools known
    · exact pool_same_of_insert freshened.found freshened.pools freshened.same known
  | release other address =>
    rcases sound.release_cases obeys with idles | ⟨tenant, freed, found, taken, pools, -⟩
    · exact pool_same_of_eq idles.pools known
    · exact pool_same_of_insert found pools (same_free taken) known
  | write => exact pool_same_of_eq rfl known
  | take source =>
    refine pool_same_of_eq ?_ known
    rw [allocator_take]
    exact (world.allocator.takeBlock_same source).2
  | give loan =>
    refine pool_same_of_eq ?_ known
    rw [allocator_give]
    exact (world.allocator.giveBlock_same loan.source loan.region.start).2
  | drop other =>
    have different : name ≠ other := by
      rintro rfl
      exact lasting rfl
    refine ⟨pool, ?_, .refl pool⟩
    unfold pool? at known ⊢
    show ((world.allocator.dropPool other).pools.find? name).map _ = _
    rw [world.allocator.dropPool_pools other, Table.find?_erase_of_ne _ different, known]
  | outside other => exact pool_same_of_eq rfl known

end Sound

/-- A byte outside the headers of all slabs, and outside all live elements but one. -/
structure Clear (world : World σ) (owner : Option (String × Nat)) (byte : Nat) : Prop where
  headers : ∀ slab ∈ world.slabs, (Slab.headerRegion slab.start).contains byte = false
  elements : ∀ element ∈ world.live, (world.element element).contains byte = true →
    owner = some element

theorem Freshened.range {tenant : Tenant} {next : ElementPool}
    (freshened : world.Freshened act name address tenant next) :
    (world.perform act).element (name, address) = ⟨address, tenant.pool.elementSize⟩ := by
  have moved : (world.perform act).allocator.pools.find? name =
      some { tenant with pool := next } := by
    rw [freshened.pools, Table.find?_insert_self]
  rw [Sound.element_eq moved, freshened.same.elementSize]

namespace Sound

variable {owner : Option (String × Nat)}

omit [BlockSource σ] in
/-- Links stand in headers. -/
theorem link_clear (sound : world.Sound) {tenant : Tenant}
    (found : world.allocator.pools.find? name = some tenant)
    (headers : ∀ slab ∈ tenant.pool.regions, (Slab.headerRegion slab.start).contains byte = false) :
    ∀ link ∈ tenant.pool.links world.allocator.memory, link.contains byte = false := by
  obtain ⟨view, shows, -⟩ := sound.shown name tenant found
  rw [shows.links_eq]
  intro link known
  obtain ⟨piece, carved, rfl⟩ := List.mem_map.1 known
  exact (Slab.links_within_header piece.base).not_contains
    (headers _ (shows.region_of_piece (View.mem_of_carved carved)))

/-- Outside the headers of all slabs an element that is handed out is all that is written. -/
theorem freshened_outside (sound : world.Sound) {tenant : Tenant} {next : ElementPool}
    (freshened : world.Freshened act name address tenant next)
    (headers : ∀ slab ∈ (world.perform act).slabs,
      (Slab.headerRegion slab.start).contains byte = false) :
    (world.perform act).allocator.memory.byte byte =
      if (⟨address, tenant.pool.elementSize⟩ : Region).contains byte then
        tenant.pool.config.allocPattern.getD (world.allocator.memory.byte byte)
      else world.allocator.memory.byte byte := by
  obtain ⟨slab, held, written⟩ := freshened.written
  have moved : (world.perform act).allocator.pools.find? name =
      some { tenant with pool := next } := by
    rw [freshened.pools, Table.find?_insert_self]
  refine written byte (headers slab held) (sound.link_clear freshened.found fun region mine => ?_)
  exact headers region (slab_of_pool moved (freshened.grown mine))

private theorem byte_freshened (sound : world.Sound) {tenant : Tenant} {next : ElementPool}
    (freshened : world.Freshened act name address tenant next)
    (after : (world.perform act).Clear owner byte)
    (steady : ∀ element ∈ owner, element ∈ world.live ↔ element ∈ (world.perform act).live) :
    (world.perform act).allocator.memory.byte byte = world.allocator.memory.byte byte := by
  have live : (name, address) ∈ (world.perform act).live := by
    rw [freshened.hands.live]
    simp
  rw [sound.freshened_outside freshened after.headers, if_neg]
  intro inside
  rw [← freshened.range] at inside
  have mine := after.elements _ live inside
  exact freshened.hands.vacant ((steady _ mine).2 live)

omit [BlockSource σ] in
private theorem byte_released (sound : world.Sound) {tenant : Tenant} {freed : Freed}
    (found : world.allocator.pools.find? name = some tenant)
    (taken : tenant.pool.free world.allocator.memory address = .ok freed)
    (live : (name, address) ∈ world.live)
    (before : world.Clear owner byte) (other : owner ≠ some (name, address)) :
    freed.memory.byte byte = world.allocator.memory.byte byte := by
  obtain ⟨view, shows, books⟩ := sound.shown name tenant found
  obtain ⟨piece, member, -, written, -⟩ := shows.free_writes taken
  have wide : wordBytes ≤ tenant.pool.elementSize := by
    rw [shows.elementSize, ← shows.sound.sorted.elements piece member]
    exact (shows.sound.held piece member).usable.wide
  have outside : (⟨address, tenant.pool.elementSize⟩ : Region).contains byte = false := by
    rw [← element_eq found, Bool.eq_false_iff]
    exact fun inside => other (before.elements _ live inside)
  have header := before.headers _ (slab_of_pool found (shows.region_of_piece member))
  have first : Region.Within ⟨address, wordBytes⟩ ⟨address, tenant.pool.elementSize⟩ :=
    ⟨Nat.le_refl _, Nat.add_le_add_left wide address⟩
  have link := first.not_contains outside
  have rest : (⟨address + wordBytes, tenant.pool.elementSize - wordBytes⟩ : Region).contains byte =
      false := by
    refine Region.Within.not_contains ⟨Nat.le_add_right _ _, ?_⟩ outside
    unfold Region.finish
    simp only
    omega
  have links := sound.link_clear found fun slab mine => before.headers slab (slab_of_pool found mine)
  rw [written byte header links link, rest]
  simp only [Bool.false_eq_true, and_false, ↓reduceIte]

/-- **What an act does not own it does not write.** A byte behind all headers, in no element
that the act hands out or takes back, changes only as far as it is written. -/
theorem perform_byte (sound : world.Sound) (honest : world.Honest act)
    (before : world.Clear owner byte) (after : (world.perform act).Clear owner byte)
    (steady : ∀ element ∈ owner, element ∈ world.live ↔ element ∈ (world.perform act).live) :
    (world.perform act).allocator.memory.byte byte =
      act.over byte (world.allocator.memory.byte byte) := by
  obtain ⟨-, obeys⟩ := honest
  cases act with
  | create => rfl
  | setUp name count =>
    rcases setUp_cases world name count with idles | ⟨tenant, setup, found, made, pools, memory, -⟩
    · rw [idles.memory]
      rfl
    · rw [memory]
      refine init_writes made fun resident known => ?_
      have moved : (world.perform (.setUp name count)).allocator.pools.find? name =
          some { tenant with pool := setup.pool } := by
        rw [pools, Table.find?_insert_self]
      refine after.headers resident.region (slab_of_pool moved (List.mem_append_left _ ?_))
      exact Option.mem_toList.2 (Option.mem_map_of_mem _ known)
  | request name =>
    rcases sound.request_cases name with idles | ⟨address, tenant, next, freshened⟩
    · rw [idles.memory]
      rfl
    · exact sound.byte_freshened freshened after steady
  | publish window =>
    rcases sound.publish_freshened obeys with idles | ⟨address, tenant, next, freshened⟩
    · rw [idles.memory]
      rfl
    · exact sound.byte_freshened freshened after steady
  | release name address =>
    rcases sound.release_cases obeys with idles | ⟨tenant, freed, found, taken, -, memory, live, gone⟩
    · rw [idles.memory]
      rfl
    · rw [memory]
      refine sound.byte_released found taken live before fun same => ?_
      have left := (steady _ same).1 live
      rw [gone] at left
      exact sound.once.not_mem_erase left
  | write start length content => exact Memory.byte_paint _ _ _ _ _
  | take source =>
    rw [allocator_take, (world.allocator.takeBlock_same source).1]
    rfl
  | give loan =>
    rw [allocator_give, (world.allocator.giveBlock_same loan.source loan.region.start).1]
    rfl
  | drop name =>
    show (world.allocator.dropPool name).memory.byte byte = _
    cases found : world.allocator.pools.find? name with
    | none =>
      rw [Allocator.dropPool_absent found]
      rfl
    | some tenant =>
      obtain ⟨view, shows, -⟩ := sound.shown name tenant found
      have clear := sound.link_clear found fun slab mine =>
        before.headers slab (slab_of_pool found mine)
      rw [shows.links_eq] at clear
      exact world.allocator.dropPool_writes found shows byte clear
  | outside => rfl

end Sound

end World

end SlabAllocator
