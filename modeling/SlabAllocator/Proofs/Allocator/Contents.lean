import SlabAllocator.Proofs.Allocator.Footprint

/-! What the bytes of elements hold over a run. Between the act that hands an element out
and the present a byte of it changes by being written only; the bytes of a block on its way
and those of an element that was taken back are followed the same way. Each of the three is
one step, `perform_byte` at a byte that is clear, and an induction over the acts. -/
namespace SlabAllocator.World

open ElementPool

variable {σ : Type} [BlockSource σ] {world : World σ} {act : Act σ} {acts : List (Act σ)}
  {name : String} {address byte : Nat} {window : Window} {slab : Region}

/-- A byte after some acts if nothing but writing changes it. -/
def overwritten (acts : List (Act σ)) (address : Nat) (byte : UInt8) : UInt8 :=
  acts.foldl (fun byte act => act.over address byte) byte

/-- Something holds in every world that acts lead through. -/
def Throughout (holds : World σ → Prop) (world : World σ) : List (Act σ) → Prop
  | [] => holds world
  | act :: rest => holds world ∧ (world.perform act).Throughout holds rest

theorem Throughout.here {holds : World σ → Prop} (throughout : world.Throughout holds acts) :
    holds world := by
  cases acts with
  | nil => exact throughout
  | cons act rest => exact throughout.1

/-- The block of a window arrived at a request, after some acts of a run, and has been on its
way through the acts since. Its bytes are what they were before the request and what was
written there since. -/
structure Arrival (world : World σ) (before after : List (Act σ)) (window : Window) : Prop where
  opened : ((world.run before).perform (.request window.pool)).windows =
    window :: (world.run before).windows
  lasting : ((world.run before).perform (.request window.pool)).Throughout
    (fun later => window ∈ later.windows) after
  contents : ∀ byte, window.region.contains byte = true →
    (world.run (before ++ .request window.pool :: after)).allocator.memory.byte byte =
      overwritten after byte ((world.run before).allocator.memory.byte byte)

/-- An element was handed out by `pool`, after some acts of a run, and has been live through
the acts since. Its bytes are what was written there since, or what `pool` fills fresh
elements with, or what they were before. -/
structure Origin (world : World σ) (before : List (Act σ)) (act : Act σ) (after : List (Act σ))
    (name : String) (address : Nat) (pool : ElementPool) : Prop where
  known : (world.run before).pool? name = some pool
  hands : (world.run before).Hands act name address
  /-- A block that is carved for the element arrived before. -/
  arrived : ∀ window, act = .publish window → ∃ early late,
    before = early ++ .request name :: late ∧ world.Arrival early late window
  lasting : ((world.run before).perform act).Throughout
    (fun later => (name, address) ∈ later.live) after
  contents : ∀ byte, (⟨address, pool.elementSize⟩ : Region).contains byte = true →
    (world.run (before ++ act :: after)).allocator.memory.byte byte =
      overwritten after byte
        (pool.config.allocPattern.getD ((world.run before).allocator.memory.byte byte))

/-- What becomes of an element that `pool` takes back: outside the header of its slab and the
links of slabs on the rings only its link word and its fill are written, so nothing else of any
slot, and the fill stays until the element is handed out again or its slab goes. -/
structure Forgets (world : World σ) (name : String) (address : Nat) (pool : ElementPool)
    (freed : Freed) (slab : Region) : Prop where
  cell : pool.IsCell slab address
  retired : ∀ base ∈ freed.retired, base = slab.start ∧ base ∈ pool.slabs world.allocator.memory
  memory : (world.perform (.release name address)).allocator.memory = freed.memory
  written : pool.Scrubs world.allocator.memory freed slab.start address
  /-- Of the slots of all slabs, of whichever pool and live or not, nothing else is written. -/
  slots : ∀ other tenant home start, world.allocator.pools.find? other = some tenant →
    tenant.pool.IsCell home start → ∀ byte,
    (⟨start, tenant.pool.elementSize⟩ : Region).contains byte = true →
    (⟨address, wordBytes⟩ : Region).contains byte = false →
    freed.memory.byte byte =
      if freed.retired = none ∧
          (⟨address + wordBytes, pool.elementSize - wordBytes⟩ : Region).contains byte then
        pool.config.deallocPattern.getD (world.allocator.memory.byte byte)
      else world.allocator.memory.byte byte
  scrubbed : freed.retired = none → ∀ pattern ∈ pool.config.deallocPattern, ∀ more,
    (world.perform (.release name address)).HonestRun more →
    (world.perform (.release name address)).Throughout (fun later =>
      (name, address) ∉ later.live ∧ ∃ pool, later.pool? name = some pool ∧ slab ∈ pool.regions)
      more →
    ∀ byte, (⟨address + wordBytes, pool.elementSize - wordBytes⟩ : Region).contains byte = true →
      ((world.perform (.release name address)).run more).allocator.memory.byte byte = pattern

theorem honestRun_append {first second : List (Act σ)}
    (honest : world.HonestRun (first ++ second)) :
    world.HonestRun first ∧ (world.run first).HonestRun second := by
  induction first generalizing world with
  | nil => exact ⟨trivial, honest⟩
  | cons act rest ih =>
    obtain ⟨early, late⟩ := ih honest.2
    exact ⟨⟨honest.1, early⟩, late⟩

namespace Sound

/-! ## Clear bytes -/

omit [BlockSource σ] in
theorem slab_owner (sound : world.Sound) (held : slab ∈ world.slabs) :
    ∃ name tenant view, world.allocator.pools.find? name = some tenant ∧
      tenant.pool.Shows world.allocator.memory view ∧
      ∃ piece ∈ view.pieces, piece.shape.region = slab := by
  obtain ⟨entry, known, mine⟩ := List.mem_flatMap.1 held
  have found := Table.find?_of_mem sound.names known
  obtain ⟨view, shows, -⟩ := sound.shown entry.1 entry.2 found
  exact ⟨entry.1, entry.2, view, found, shows, shows.piece_of_region mine⟩

omit [BlockSource σ] in
theorem header_within (sound : world.Sound) (held : slab ∈ world.slabs) :
    (Slab.headerRegion slab.start).Within slab := by
  obtain ⟨name, tenant, view, -, shows, piece, member, rfl⟩ := sound.slab_owner held
  exact Slab.Holds.header_within (shows.sound.held piece member).usable

omit [BlockSource σ] in
/-- The bytes of a cell are clear of everything but the element that may lie there. -/
theorem clear_of_cell (sound : world.Sound) {tenant : Tenant}
    (found : world.allocator.pools.find? name = some tenant)
    (cell : tenant.pool.IsCell slab address)
    (inside : (⟨address, tenant.pool.elementSize⟩ : Region).contains byte = true) :
    world.Clear (some (name, address)) byte := by
  obtain ⟨view, shows, -⟩ := sound.shown name tenant found
  obtain ⟨behind, within⟩ := shows.cell_within cell
  refine ⟨fun other held => ?_, fun element live also => ?_⟩
  · by_cases same : slab = other
    · subst same
      exact behind.symm.not_contains inside
    · have apart := Region.apart_of_ne sound.slabs_apart (slab_of_pool found cell.1) held same
      exact (apart.within within (sound.header_within held)).not_contains inside
  · obtain ⟨other, start⟩ := element
    obtain ⟨owner, its, known, shown, books, range⟩ := sound.located live
    rw [element_eq known] at also
    obtain ⟨piece, member, liveAt⟩ := (books start).1 live
    have beside := shown.cell_of_live member liveAt
    -- Another element is in another cell of the pool or in a slab of another one.
    by_cases same : other = name
    · subst same
      obtain rfl : owner = tenant := Option.some.inj (known.symm.trans found)
      by_cases equal : address = start
      · rw [equal]
      · have outside := (shows.cells_apart cell beside equal).not_contains inside
        rw [also] at outside
        cases outside
    · have abroad : piece.shape.region ∈ world.beside name := by
        refine List.mem_flatMap.2 ⟨(other, owner), Table.mem_of_find? ?_, beside.1⟩
        rw [Table.find?_erase_of_ne _ same, known]
      have apart := sound.beside_apart found cell.1 abroad
      have outside := (apart.within within (shown.cell_within beside).2).not_contains inside
      rw [also] at outside
      cases outside

omit [BlockSource σ] in
theorem clear_of_live (sound : world.Sound) (live : (name, address) ∈ world.live)
    (inside : (world.element (name, address)).contains byte = true) :
    world.Clear (some (name, address)) byte := by
  obtain ⟨tenant, view, found, shows, books, -⟩ := sound.located live
  obtain ⟨piece, member, liveAt⟩ := (books address).1 live
  rw [element_eq found] at inside
  exact sound.clear_of_cell found (shows.cell_of_live member liveAt) inside

omit [BlockSource σ] in
theorem clear_of_window (sound : world.Sound) (member : window ∈ world.windows)
    (inside : window.region.contains byte = true) : world.Clear none byte := by
  refine ⟨fun slab held => ?_, fun element live also => ?_⟩
  · have apart := sound.window_apart member held
    exact (apart.within ⟨Nat.le_refl _, Nat.le_refl _⟩ (sound.header_within held)).not_contains inside
  · have outside := ((sound.exclusive live).windows window member).symm.not_contains inside
    rw [also] at outside
    cases outside

omit [BlockSource σ] in
/-- Nobody writes into a cell that is nobody's. -/
theorem over_of_vacant (obeys : world.Obeys act)
    (clear : world.Clear (some (name, address)) byte) (vacant : (name, address) ∉ world.live)
    (held : slab ∈ world.slabs) (inside : slab.contains byte = true) (value : UInt8) :
    act.over byte value = value := by
  cases act with
  | write start length content =>
    refine if_neg fun covered => ?_
    have covers : (⟨start, length⟩ : Region).contains byte = true :=
      (Region.contains_iff _ _).2 covered
    rcases obeys with ⟨element, live, within⟩ | apart
    · have mine := clear.elements element live (within.contains covers)
      rw [Option.some.inj mine] at vacant
      exact vacant live
    · have outside := (apart slab held).not_contains covers
      rw [inside] at outside
      cases outside
  | _ => rfl

/-! ## Live elements -/

/-- An element is live because it was, or because it is handed out now. -/
theorem live_cases (sound : world.Sound) (honest : world.Honest act)
    (live : (name, address) ∈ (world.perform act).live) :
    (name, address) ∈ world.live ∨ ∃ tenant next, world.Freshened act name address tenant next := by
  -- Only a hand-over adds to the books, and it adds the one address it hands out.
  have handed : ∀ {other : String} {start : Nat} {tenant : Tenant} {next : ElementPool},
      world.Freshened act other start tenant next → (name, address) ∈ world.live ∨
        ∃ tenant next, world.Freshened act name address tenant next := by
    intro other start tenant next freshened
    rw [freshened.hands.live, List.mem_append, List.mem_singleton] at live
    refine live.imp_right fun same => ?_
    cases same
    exact ⟨tenant, next, freshened⟩
  obtain ⟨-, obeys⟩ := honest
  cases act with
  | create => exact .inl live
  | setUp => exact .inl live
  | request other =>
    rcases sound.request_cases other with idles | ⟨start, tenant, next, freshened⟩
    · exact .inl (idles.live ▸ live)
    · exact handed freshened
  | publish window =>
    rcases sound.publish_freshened obeys with idles | ⟨start, tenant, next, freshened⟩
    · exact .inl (idles.live ▸ live)
    · exact handed freshened
  | release other start =>
    rcases sound.release_cases obeys with idles | ⟨tenant, freed, -, -, -, -, -, gone⟩
    · exact .inl (idles.live ▸ live)
    · rw [gone] at live
      exact .inl (List.mem_of_mem_erase live)
  | write => exact .inl live
  | take source =>
    unfold World.perform at live
    simp only at live
    split at live <;> exact .inl live
  | give loan =>
    unfold World.perform at live
    simp only at live
    split at live <;> exact .inl live
  | drop other => exact .inl (List.mem_filter.1 live).1
  | outside => exact .inl live

theorem element_kept (sound : world.Sound) (honest : world.Honest act)
    (live : (name, address) ∈ world.live) (still : (name, address) ∈ (world.perform act).live) :
    (world.perform act).element (name, address) = world.element (name, address) := by
  obtain ⟨tenant, -, found, -⟩ := sound.located live
  have known : world.pool? name = some tenant.pool := by
    unfold pool?
    rw [found]
    rfl
  have lasting : act ≠ .drop name := by
    rintro rfl
    exact of_decide_eq_true (List.mem_filter.1 still).2 rfl
  obtain ⟨next, after, same⟩ := sound.pool_same honest known lasting
  unfold element
  rw [known, after, Option.map_some, Option.map_some, same.elementSize]

/-- An act that leaves an element live leaves its bytes alone unless it writes them. -/
theorem live_kept (sound : world.Sound) (honest : world.Honest act)
    (live : (name, address) ∈ world.live) (still : (name, address) ∈ (world.perform act).live)
    (inside : (world.element (name, address)).contains byte = true) :
    (world.perform act).allocator.memory.byte byte =
      act.over byte (world.allocator.memory.byte byte) := by
  have after : ((world.perform act).element (name, address)).contains byte = true := by
    rwa [sound.element_kept honest live still]
  refine sound.perform_byte honest (sound.clear_of_live live inside)
    ((sound.perform honest).clear_of_live still after) fun element mine => ?_
  obtain rfl := Option.some.inj mine
  exact iff_of_true live still

/-- A fresh element holds the pattern of its pool, or what was there. -/
theorem freshened_byte (sound : world.Sound) (honest : world.Honest act) {tenant : Tenant}
    {next : ElementPool} (freshened : world.Freshened act name address tenant next)
    (inside : (⟨address, tenant.pool.elementSize⟩ : Region).contains byte = true) :
    (world.perform act).allocator.memory.byte byte =
      tenant.pool.config.allocPattern.getD (world.allocator.memory.byte byte) := by
  have live : (name, address) ∈ (world.perform act).live := by
    rw [freshened.hands.live]
    simp
  have clear := (sound.perform honest).clear_of_live live (by rwa [freshened.range])
  rw [sound.freshened_outside freshened clear.headers, if_pos inside]

/-! ## Runs -/

/-- An element that is live now has been live since before these acts, or was handed out by
one of them; its bytes follow from there. -/
theorem run_live (sound : world.Sound) (honest : world.HonestRun acts)
    (live : (name, address) ∈ (world.run acts).live) :
    (world.Throughout (fun later => (name, address) ∈ later.live) acts ∧
      ∀ byte, (world.element (name, address)).contains byte = true →
        (world.run acts).allocator.memory.byte byte =
          overwritten acts byte (world.allocator.memory.byte byte)) ∨
    ∃ before act after tenant next, acts = before ++ act :: after ∧
      (world.run before).Freshened act name address tenant next ∧
      ((world.run before).perform act).Throughout (fun later => (name, address) ∈ later.live)
        after ∧
      ∀ byte, (⟨address, tenant.pool.elementSize⟩ : Region).contains byte = true →
        (world.run acts).allocator.memory.byte byte = overwritten after byte
          (tenant.pool.config.allocPattern.getD ((world.run before).allocator.memory.byte byte)) := by
  -- By induction on the run. The element was live before the rest of it, or the first act handed it
  -- out.
  induction acts generalizing world with
  | nil => exact .inl ⟨live, fun byte _ => rfl⟩
  | cons act rest ih =>
    obtain ⟨here, later⟩ := honest
    rcases ih (sound.perform here) later live with ⟨lasting, contents⟩ |
      ⟨before, handing, after, tenant, next, rfl, freshened, lasting, contents⟩
    · rcases sound.live_cases here lasting.here with old | ⟨tenant, next, freshened⟩
      · refine .inl ⟨⟨old, lasting⟩, fun byte inside => ?_⟩
        have kept := sound.live_kept here old lasting.here inside
        rw [← sound.element_kept here old lasting.here] at inside
        exact (contents byte inside).trans (by rw [kept]; rfl)
      · refine .inr ⟨[], act, rest, tenant, next, rfl, freshened, lasting, fun byte inside => ?_⟩
        have fresh := sound.freshened_byte here freshened inside
        rw [← freshened.range] at inside
        exact (contents byte inside).trans (by rw [fresh]; rfl)
    · exact .inr ⟨act :: before, handing, after, tenant, next, rfl, freshened, lasting, contents⟩

/-- A block is on its way because it was, or because it was requested now, and then nothing
else happened. -/
theorem window_cases (sound : world.Sound) (waiting : window ∈ (world.perform act).windows) :
    window ∈ world.windows ∨ act = .request window.pool ∧ world.Idles act ∧
      (world.perform act).windows = window :: world.windows := by
  cases act with
  | request name =>
    cases sought : world.allocator.seek name with
    | mk progress after =>
      cases progress with
      | settled outcome =>
        rw [perform_request sought] at waiting
        exact .inl waiting
      | awaiting source block =>
        have performed : world.perform (.request name) = { world with
            allocator := after
            windows := ⟨name, block, ((world.pool? name).map ElementPool.blockSize).getD 0⟩ ::
              world.windows } := by
          simp only [World.perform, sought]
        -- A request that leaves a block waiting has handed out no element.
        have idles : world.Idles (.request name) := by
          refine (sound.request_cases name).resolve_right ?_
          rintro ⟨address, tenant, next, freshened⟩
          have grown := freshened.hands.live
          rw [performed] at grown
          exact List.cons_ne_nil _ _ (List.self_eq_append_right.1 grown)
        rw [performed] at waiting
        refine (List.mem_cons.1 waiting).symm.imp_right fun same => ?_
        rw [same]
        exact ⟨rfl, idles, by rw [performed]⟩
  | publish other =>
    unfold World.perform at waiting
    simp only at waiting
    split at waiting <;> exact .inl (List.mem_of_mem_erase waiting)
  | take source =>
    unfold World.perform at waiting
    simp only at waiting
    split at waiting <;> exact .inl waiting
  | give loan =>
    unfold World.perform at waiting
    simp only at waiting
    split at waiting <;> exact .inl waiting
  | create => exact .inl waiting
  | setUp => exact .inl waiting
  | release => exact .inl waiting
  | write => exact .inl waiting
  | drop => exact .inl waiting
  | outside => exact .inl waiting

/-- An act that leaves a block on its way leaves its bytes alone unless it writes them. -/
theorem window_kept (sound : world.Sound) (honest : world.Honest act)
    (waiting : window ∈ world.windows) (still : window ∈ (world.perform act).windows)
    (inside : window.region.contains byte = true) :
    (world.perform act).allocator.memory.byte byte =
      act.over byte (world.allocator.memory.byte byte) :=
  sound.perform_byte honest (sound.clear_of_window waiting inside)
    ((sound.perform honest).clear_of_window still inside) fun _ nobody => by cases nobody

/-- A block that is on its way now has been since before these acts, or arrived at one of
them; its bytes follow from there. -/
theorem run_window (sound : world.Sound) (honest : world.HonestRun acts)
    (waiting : window ∈ (world.run acts).windows) :
    (world.Throughout (fun later => window ∈ later.windows) acts ∧
      ∀ byte, window.region.contains byte = true →
        (world.run acts).allocator.memory.byte byte =
          overwritten acts byte (world.allocator.memory.byte byte)) ∨
    ∃ before after, acts = before ++ .request window.pool :: after ∧
      world.Arrival before after window := by
  -- The induction of `run_live` for blocks in flight: a request opens the window, or it was open.
  induction acts generalizing world with
  | nil => exact .inl ⟨waiting, fun byte _ => rfl⟩
  | cons act rest ih =>
    obtain ⟨here, later⟩ := honest
    rcases ih (sound.perform here) later waiting with ⟨lasting, contents⟩ |
      ⟨before, after, rfl, opened, lasting, contents⟩
    · rcases sound.window_cases lasting.here with old | ⟨rfl, idles, opened⟩
      · refine .inl ⟨⟨old, lasting⟩, fun byte inside => ?_⟩
        have kept := sound.window_kept here old lasting.here inside
        exact (contents byte inside).trans (by rw [kept]; rfl)
      · refine .inr ⟨[], rest, rfl, opened, lasting, fun byte inside => ?_⟩
        refine (contents byte inside).trans ?_
        rw [idles.memory]
        rfl
    · exact .inr ⟨act :: before, after, rfl, opened, lasting, contents⟩

omit [BlockSource σ] in
theorem found_of_pool? {pool : ElementPool} (known : world.pool? name = some pool) :
    ∃ tenant, world.allocator.pools.find? name = some tenant ∧ tenant.pool = pool :=
  Option.map_eq_some_iff.1 known

/-- While a cell is nobody's and its slab stays, its bytes stay. -/
theorem run_vacant (sound : world.Sound) {pool : ElementPool} (honest : world.HonestRun acts)
    (known : world.pool? name = some pool) (cell : pool.IsCell slab address)
    (lasting : world.Throughout (fun later => (name, address) ∉ later.live ∧
      ∃ pool, later.pool? name = some pool ∧ slab ∈ pool.regions) acts)
    (inside : (⟨address, pool.elementSize⟩ : Region).contains byte = true) :
    (world.run acts).allocator.memory.byte byte = world.allocator.memory.byte byte := by
  -- By induction on the run; no act writes to a cell that is vacant before and after it.
  induction acts generalizing world pool with
  | nil => rfl
  | cons act rest ih =>
    obtain ⟨here, later⟩ := honest
    obtain ⟨⟨vacant, -⟩, lasting⟩ := lasting
    obtain ⟨still, after, remains, held⟩ := lasting.here
    have sound' := sound.perform here
    -- A pool that is still there is the same pool, so the cell is still one of its cells.
    have standing : act ≠ .drop name := by
      rintro rfl
      have gone : (world.perform (.drop name)).pool? name = none := by
        unfold pool?
        show ((world.allocator.dropPool name).pools.find? name).map _ = none
        rw [world.allocator.dropPool_pools name, Table.find?_erase_self]
        rfl
      rw [gone] at remains
      cases remains
    obtain ⟨next, known', same⟩ := sound.pool_same here known standing
    obtain rfl : next = after := Option.some.inj (known'.symm.trans remains)
    have cell' : next.IsCell slab address := by
      refine ⟨held, ?_⟩
      rw [same.elementSize]
      exact cell.2
    have inside' : (⟨address, next.elementSize⟩ : Region).contains byte = true := by
      rwa [same.elementSize]
    obtain ⟨tenant, found, rfl⟩ := found_of_pool? known
    obtain ⟨owner, found', rfl⟩ := found_of_pool? known'
    have clear := sound.clear_of_cell found cell inside
    have kept := sound.perform_byte here clear (sound'.clear_of_cell found' cell' inside')
      fun element mine => by
        obtain rfl := Option.some.inj mine
        exact iff_of_false vacant still
    obtain ⟨view, shows, -⟩ := sound.shown name tenant found
    have whole := (shows.cell_within cell).2.contains inside
    refine (ih sound' later known' cell' lasting inside').trans (kept.trans ?_)
    exact over_of_vacant here.2 clear vacant (slab_of_pool found cell.1) whole _

/-- An element that is taken back is forgotten byte by byte. -/
theorem forgets (sound : world.Sound) {pool : ElementPool} {freed : Freed}
    (obeys : world.Obeys (.release name address)) (known : world.pool? name = some pool)
    (taken : pool.free world.allocator.memory address = .ok freed) :
    ∃ slab, world.Forgets name address pool freed slab := by
  obtain ⟨tenant, found, rfl⟩ := found_of_pool? known
  obtain ⟨view, shows, books⟩ := sound.shown name tenant found
  obtain ⟨pools, memory, live, gone⟩ := sound.release_taken obeys found taken
  obtain ⟨piece, member, inside, written, retired⟩ := shows.free_writes taken
  obtain ⟨owner, also, liveAt⟩ := (books address).1 live
  obtain rfl := shows.sound.unique also member
    ((shows.sound.held owner also).contains_of_live liveAt) inside
  have cell := shows.cell_of_live also liveAt
  -- Bytes of slots lie in no header, so neither among the links.
  have slots : ∀ other its home start, world.allocator.pools.find? other = some its →
      its.pool.IsCell home start → ∀ byte,
      (⟨start, its.pool.elementSize⟩ : Region).contains byte = true →
      (⟨address, wordBytes⟩ : Region).contains byte = false →
      freed.memory.byte byte =
        if freed.retired = none ∧
            (⟨address + wordBytes, tenant.pool.elementSize - wordBytes⟩ : Region).contains byte then
          tenant.pool.config.deallocPattern.getD (world.allocator.memory.byte byte)
        else world.allocator.memory.byte byte := by
    intro other its home start held cell byte inside behind
    have headers := (sound.clear_of_cell held cell inside).headers
    refine written byte (headers _ (slab_of_pool found (shows.region_of_piece also))) ?_ behind
    exact sound.link_clear found fun region mine => headers region (slab_of_pool found mine)
  refine ⟨owner.shape.region, cell, retired, memory, written, slots, ?_⟩
  intro kept pattern configured more honest lasting byte filled
  have whole : (⟨address, tenant.pool.elementSize⟩ : Region).contains byte = true := by
    rw [Region.contains_iff] at filled ⊢
    unfold Region.finish at filled ⊢
    simp only at filled ⊢
    omega
  -- The free list is threaded through the first word, so only the bytes behind it are filled.
  have behind : (⟨address, wordBytes⟩ : Region).contains byte = false := by
    rw [Region.contains_iff] at filled
    exact (Region.not_contains_iff _ _).2 (.inr filled.1)
  have now := slots _ _ _ _ found cell byte whole behind
  rw [if_pos ⟨kept, filled⟩, Option.mem_def.1 configured] at now
  have free : world.Honest (.release name address) := ⟨fun _ absurd => (by cases absurd), obeys⟩
  have left : (world.perform (.release name address)).pool? name = some freed.pool := by
    unfold pool?
    rw [pools, Table.find?_insert_self]
    rfl
  obtain ⟨-, after, remains, held⟩ := lasting.here
  obtain rfl : freed.pool = after := Option.some.inj (left.symm.trans remains)
  have same := same_free taken
  have vacated : freed.pool.IsCell owner.shape.region address := by
    refine ⟨held, ?_⟩
    rw [same.elementSize]
    exact cell.2
  rw [← same.elementSize] at whole
  rw [(sound.perform free).run_vacant honest left vacated lasting whole, memory, now]
  rfl

end Sound

/-- **Live data is never disturbed.** Every byte of a live element is what its owner wrote
there last, or the pattern fresh elements of its pool are filled with, or what was there before
the request; and taking an element back writes its link word and its fill, nothing else of
any slot. -/
theorem live_data_kept {allocator : Allocator σ}
    (honest : (World.start allocator).HonestRun acts) :
    (∀ name address, (name, address) ∈ ((World.start allocator).run acts).live →
      ∃ before act after pool, acts = before ++ act :: after ∧
        (World.start allocator).Origin before act after name address pool) ∧
    ∀ name address pool freed,
      ((World.start allocator).run acts).Obeys (.release name address) →
      ((World.start allocator).run acts).pool? name = some pool →
      pool.free ((World.start allocator).run acts).allocator.memory address = .ok freed →
      ∃ slab, ((World.start allocator).run acts).Forgets name address pool freed slab := by
  have sound := Sound.start allocator
  refine ⟨fun name address live => ?_, fun name address pool freed obeys known taken =>
    (sound.run honest).forgets obeys known taken⟩
  rcases sound.run_live honest live with ⟨lasting, -⟩ |
    ⟨before, act, after, tenant, next, rfl, freshened, lasting, contents⟩
  · cases lasting.here
  · refine ⟨before, act, after, tenant.pool, rfl, ?_, freshened.hands, ?_, lasting, contents⟩
    · unfold pool?
      rw [freshened.found]
      rfl
    · rintro window rfl
      rcases freshened.hands.asked with absurd | ⟨other, waiting, same, rfl⟩
      · cases absurd
      cases same
      rcases sound.run_window (honestRun_append honest).1 waiting with ⟨absurd, -⟩ |
        ⟨early, late, split, arrival⟩
      · cases absurd.here
      · exact ⟨early, late, split, arrival⟩

/-- A pool that fills its elements at both ends of their lives. One of its two elements is
written into, the other one was given back. -/
def painting : List (Act Shelf) :=
  [.create "painted" "shelf" 4096 2000 ⟨true, some 0xAA, some 0xDD⟩, .setUp "painted" 0,
    .request "painted", .publish ⟨"painted", 65536, 4096⟩, .write 65640 4 fun _ => 7,
    .request "painted", .release "painted" 67632]

theorem live_data_kept_painting :
    (workshop.run painting).live = [("painted", 65632)] ∧
    (workshop.run painting).allocator.memory.bytes 65636 10 =
      [0xAA, 0xAA, 0xAA, 0xAA, 7, 7, 7, 7, 0xAA, 0xAA] ∧
    (workshop.run painting).allocator.memory.bytes 67640 3 = [0xDD, 0xDD, 0xDD] ∧
    (∃ before act after pool, painting = before ++ act :: after ∧
      workshop.Origin before act after "painted" 65632 pool) ∧
    ∃ pool freed slab, (workshop.run painting).pool? "painted" = some pool ∧
      (workshop.run painting).Forgets "painted" 65632 pool freed slab := by
  have honest : (World.start workshop.allocator).HonestRun painting := by decide +kernel
  obtain ⟨kept, frees⟩ := live_data_kept honest
  have live : (workshop.run painting).live = [("painted", 65632)] := by decide +kernel
  have obeys : (workshop.run painting).Obeys (.release "painted" 65632) := by decide +kernel
  have accepted : (workshop.run painting).accepts "painted" 65632 = true := by decide +kernel
  refine ⟨live, by decide +kernel, by decide +kernel, kept _ _ ?_, ?_⟩
  · show _ ∈ (workshop.run painting).live
    rw [live]
    exact List.mem_singleton_self _
  · unfold accepts at accepted
    split at accepted
    · cases accepted
    · next pool known =>
      split at accepted
      · next freed taken =>
        obtain ⟨slab, forgets⟩ := frees _ _ pool freed obeys known taken
        exact ⟨pool, freed, slab, known, forgets⟩
      · cases accepted

end SlabAllocator.World
