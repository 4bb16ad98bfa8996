import SlabAllocator.Proofs.Allocator.Soundness

/-! Every act of an honest run keeps a world sound. -/
namespace SlabAllocator.World.Sound

open ElementPool

variable {σ : Type} [BlockSource σ] {world : World σ} {name source : String} {tenant : Tenant}
  {view : View}

/-- A pool without room asks its source and is left as it was. -/
theorem seek_drained {allocator : Allocator σ} (once : allocator.pools.names.Nodup)
    (found : allocator.pools.find? name = some tenant)
    (shows : tenant.pool.Shows allocator.memory view) (ready : tenant.pool.ready = true)
    (nothing : view.attempt = none) :
    allocator.seek name = match allocator.takeBlock tenant.source with
      | (.error fault, after) => (.settled (.error fault), after)
      | (.ok block, after) => (.awaiting tenant.source block, after) := by
  have same : { allocator.setPool name tenant tenant.pool with memory := allocator.memory } =
      allocator := by
    unfold Allocator.setPool
    rw [Table.insert_same once found]
  have drained := Allocator.seek_drained found ready (shows.attempt_none nothing)
  rw [same] at drained
  exact drained

/-- A pool with room hands out the element its arrangement says. -/
theorem seek_arranged {allocator : Allocator σ} {address : Nat} {arranged : View}
    (found : allocator.pools.find? name = some tenant)
    (shows : tenant.pool.Shows allocator.memory view) (ready : tenant.pool.ready = true)
    (served : view.attempt = some (address, arranged)) :
    ∃ next changed piece fresh,
      tenant.pool.attempt allocator.memory = .served address next changed ∧
      allocator.seek name = (.settled (.ok address),
        { allocator.setPool name tenant next with memory := changed }.hand address) ∧
      view.Placed piece fresh address arranged ∧ next.Shows changed arranged ∧
      allocator.memory.ChangedAmong changed (piece.shape.region :: view.links) := by
  obtain ⟨piece, fresh, next, changed, placed, answered, shown, within⟩ := shows.attempt_some served
  exact ⟨next, changed, piece, fresh, answered, Allocator.seek_served found ready answered, placed,
    shown, within⟩

/-- How a request begins: it fails and nothing moves, or a block is on its way and
nothing moves, or the pool hands out the element its arrangement says. -/
theorem seek_cases {allocator : Allocator σ} (once : allocator.pools.names.Nodup)
    (found : allocator.pools.find? name = some tenant)
    (shows : tenant.pool.Shows allocator.memory view) :
    (∃ fault after, allocator.seek name = (.settled (.error fault), after) ∧
      after.memory = allocator.memory ∧ after.pools = allocator.pools) ∨
    (∃ block after, allocator.seek name = (.awaiting tenant.source block, after) ∧
      after.memory = allocator.memory ∧ after.pools = allocator.pools) ∨
    ∃ address next changed after arranged piece fresh,
      allocator.seek name = (.settled (.ok address), after) ∧
      after.memory = changed ∧
      after.pools = allocator.pools.insert name { tenant with pool := next } ∧
      view.Placed piece fresh address arranged ∧ next.Shows changed arranged ∧
      allocator.memory.ChangedAmong changed (piece.shape.region :: view.links) := by
  cases ready : tenant.pool.ready with
  | false => exact .inl ⟨_, _, Allocator.seek_unready found ready, rfl, rfl⟩
  | true =>
    -- The view decides: what it cannot serve, the pool’s slabs cannot serve.
    cases served : view.attempt with
    | none =>
      rw [seek_drained once found shows ready served]
      have kept := allocator.takeBlock_same tenant.source
      cases took : allocator.takeBlock tenant.source with
      | mk outcome after =>
        rw [took] at kept
        cases outcome with
        | error fault => exact .inl ⟨fault, after, rfl, kept⟩
        | ok block => exact .inr (.inl ⟨block, after, rfl, kept⟩)
    | some result =>
      obtain ⟨address, arranged⟩ := result
      obtain ⟨next, changed, piece, fresh, -, sought, placed, shown, within⟩ :=
        seek_arranged found shows ready served
      exact .inr (.inr ⟨address, next, changed, _, arranged, piece, fresh, sought, rfl, rfl, placed,
        shown, within⟩)

/-- The books after an element was handed out. -/
private theorem books_handed {arranged : View} {live : List (String × Nat)}
    {address : Nat} (once : live.Nodup)
    (books : ∀ address, (name, address) ∈ live ↔ view.Live address)
    (handed : ¬ view.Live address ∧
      ∀ other, arranged.Live other ↔ other = address ∨ view.Live other) :
    (∀ other, (name, other) ∈ live ++ [(name, address)] ↔ arranged.Live other) ∧
      (∀ pool other, pool ≠ name →
        ((pool, other) ∈ live ++ [(name, address)] ↔ (pool, other) ∈ live)) ∧
      (live ++ [(name, address)]).Nodup := by
  obtain ⟨vacant, grown⟩ := handed
  refine ⟨fun other => ?_, fun pool other different => ?_, ?_⟩
  · rw [List.mem_append, List.mem_singleton, grown, ← books]
    simp only [Prod.mk.injEq, true_and]
    exact or_comm
  · rw [List.mem_append, List.mem_singleton, Prod.mk.injEq]
    tauto
  -- The address was not live, so the books did not list it.
  · rw [List.nodup_append]
    refine ⟨once, List.nodup_singleton _, ?_⟩
    rintro element member other last rfl
    rw [List.mem_singleton] at last
    subst last
    exact vacant ((books address).1 member)

omit [BlockSource σ] in
/-- A pool that hands out an element of its slabs holds the ranges it held. -/
theorem regions_served {after : World σ} {next : ElementPool} {arranged : View}
    {piece fresh : Piece} {address : Nat} (sound : world.Sound)
    (advances : Advances world after.allocator name tenant next arranged)
    (shows : tenant.pool.Shows world.allocator.memory view)
    (placed : view.Placed piece fresh address arranged)
    (lent : after.lentRegions = world.lentRegions) : after.regions.Perm world.regions := by
  apply (sound.regions_update advances.found advances.pools).trans
  apply List.Perm.trans ?_ (slabs_perm sound.names advances.found).symm
  rw [lent]
  refine List.Perm.append_right _ (advances.shown.regions_perm.trans ?_)
  exact placed.regions.trans shows.regions_perm.symm

omit [BlockSource σ] in
/-- A block on its way to a pool is a range more. -/
theorem regions_awaiting {after : Allocator σ} (pools : after.pools = world.allocator.pools)
    (window : Window) :
    { world with allocator := after, windows := window :: world.windows : World σ }.regions.Perm
      (window.region :: world.regions) := by
  unfold regions slabs
  rw [pools, List.map_cons, List.append_assoc, List.append_assoc, List.cons_append]
  exact List.perm_middle

theorem request (sound : world.Sound)
    (fresh : ∀ region ∈ world.granted (.request name), world.Fresh region) :
    (world.perform (.request name)).Sound := by
  unfold perform
  unfold granted at fresh
  simp only at fresh ⊢
  cases found : world.allocator.pools.find? name with
  | none =>
    rw [Allocator.seek_absent found]
    exact sound.idle rfl rfl
  | some tenant =>
    obtain ⟨view, shows, books⟩ := sound.shown name tenant found
    rcases seek_cases sound.names found shows with ⟨fault, after, sought, memory, pools⟩ |
      ⟨block, after, sought, memory, pools⟩ |
      ⟨address, next, changed, after, arranged, piece, fresh, sought, memory, pools, placed, shown,
        within⟩
    · rw [sought]
      exact sound.idle memory pools
    -- The block is in nobody’s slab yet: it is in flight, its window the only thing that is new.
    · rw [sought] at fresh ⊢
      simp only [pool?, found, Option.map_some, Option.getD_some, Option.mem_def,
        Option.some.injEq, forall_eq'] at fresh ⊢
      obtain ⟨lies, apart⟩ := fresh
      have stays := pools.trans (Table.insert_same sound.names found).symm
      refine sound.update ⟨found, stays, shows.of_agree fun region _ => .of_eq memory region,
        fun region _ => .of_eq memory region, rfl⟩ books (fun _ _ _ => .rfl) sound.once ?_ ?_
      · exact (sound.laid.cons lies apart).perm (regions_awaiting pools _)
      · intro window member
        rcases List.mem_cons.1 member with rfl | old
        · exact .inr ⟨rfl, rfl⟩
        · exact .inl old
    · rw [sought]
      have member := shows.region_of_piece placed.mem
      obtain ⟨live, others, once⟩ :=
        books_handed sound.once books (placed.live shows.sound)
      subst memory
      have size := shown.blockSize.trans (placed.blockSize.trans shows.blockSize.symm)
      have advances := Advances.of_within sound found shows pools shown size member within
      exact sound.update advances live others once
        (sound.laid.perm (sound.regions_served advances shows placed rfl)) fun window old => .inl old

/-- A block that is no slab for the pool goes straight back, and nothing moves. -/
theorem publish_none {allocator : Allocator σ} {block : Nat}
    (found : allocator.pools.find? name = some tenant)
    (unfit : tenant.pool.adopt? allocator.memory block = none) :
    ∃ fault after, allocator.publish name block = (.error fault, after) ∧
      after.memory = allocator.memory ∧ after.pools = allocator.pools := by
  rw [Allocator.publish_unfit found unfit]
  have kept := allocator.giveBlock_same tenant.source block
  cases gave : allocator.giveBlock tenant.source block with
  | mk outcome after =>
    rw [gave] at kept
    cases outcome with
    | error fault => exact ⟨fault, after, rfl, kept⟩
    | ok _ => exact ⟨_, _, rfl, kept⟩

omit [BlockSource σ] in
theorem blank_region (sound : world.Sound) {window : Window} (member : window ∈ world.windows)
    (found : world.allocator.pools.find? window.pool = some tenant)
    (shows : tenant.pool.Shows world.allocator.memory view) :
    (view.blank window.region.start).shape.region = window.region := by
  obtain ⟨owner, known, size⟩ := sound.awaited window member
  obtain rfl : owner = tenant := Option.some.inj (known.symm.trans found)
  show (⟨window.region.start, view.blockSize⟩ : Region) = window.region
  rw [← shows.blockSize, size]

omit [BlockSource σ] in
/-- A slab made of a block on its way lies apart from those the pool has. -/
theorem blank_apart (sound : world.Sound) {window : Window} (member : window ∈ world.windows)
    (found : world.allocator.pools.find? window.pool = some tenant)
    (shows : tenant.pool.Shows world.allocator.memory view) :
    ∀ other ∈ view.regions, (view.blank window.region.start).shape.region.Apart other := by
  intro other its
  rw [← shows.regions_perm.mem_iff] at its
  rw [sound.blank_region member found shows]
  exact sound.window_apart member (slab_of_pool found its)

omit [BlockSource σ] in
/-- A block on its way that no slab can be made of is left alone and goes back. -/
theorem publish_unfit (sound : world.Sound) {window : Window} (member : window ∈ world.windows)
    (found : world.allocator.pools.find? window.pool = some tenant)
    (shows : tenant.pool.Shows world.allocator.memory view)
    (unfit : ¬ (view.blank window.region.start).shape.Usable) :
    tenant.pool.adopt? world.allocator.memory window.region.start = none := by
  have lies := sound.laid.placed window.region (mem_regions_of_window member)
  refine shows.adopt?_none lies.1 ?_ unfit
  have finish := congrArg Region.finish (sound.blank_region member found shows)
  exact Nat.lt_of_le_of_lt (Nat.le_of_eq finish) lies.2.2

omit [BlockSource σ] in
/-- A block on its way that became a slab is one that a slab can be made of. -/
theorem usable_of_adopted (sound : world.Sound) {window : Window} {adopted : Adopted}
    (member : window ∈ world.windows)
    (found : world.allocator.pools.find? window.pool = some tenant)
    (shows : tenant.pool.Shows world.allocator.memory view)
    (made : tenant.pool.adopt? world.allocator.memory window.region.start = some adopted) :
    (view.blank window.region.start).shape.Usable := by
  apply Classical.byContradiction
  intro unfit
  rw [sound.publish_unfit member found shows unfit] at made
  cases made

/-- A block on its way that fits becomes the slab its arrangement says. -/
theorem publish_fit (sound : world.Sound) {window : Window} (member : window ∈ world.windows)
    (found : world.allocator.pools.find? window.pool = some tenant)
    (shows : tenant.pool.Shows world.allocator.memory view)
    (usable : (view.blank window.region.start).shape.Usable) :
    ∃ adopted arranged,
      tenant.pool.adopt? world.allocator.memory window.region.start = some adopted ∧
      world.allocator.publish window.pool window.region.start = (.ok adopted.address,
        ({ world.allocator.setPool window.pool tenant adopted.pool with
          memory := adopted.memory }.note [.slabCarved adopted.finish adopted.capacity]).hand
            adopted.address) ∧
      view.adopt window.region.start = some (adopted.address, arranged) ∧
      adopted.pool.Shows adopted.memory arranged ∧
      world.allocator.memory.ChangedAmong adopted.memory (window.region :: view.links) ∧
      ¬ view.Live adopted.address ∧
      ∀ other, arranged.Live other ↔ other = adopted.address ∨ view.Live other := by
  have region := sound.blank_region member found shows
  have apart := sound.blank_apart member found shows
  obtain ⟨adopted, arranged, made, computed, placed, shown, within, held⟩ :=
    shows.adopt?_some usable apart
  rw [region] at within
  exact ⟨adopted, arranged, computed, Allocator.publish_adopted found computed, placed, shown,
    within, View.adopt_live placed shows.sound held apart⟩

/-- How a block on its way ends up: it is no slab for the pool and nothing moves, or it is
the slab the arrangement says. -/
theorem publish_cases (sound : world.Sound) {window : Window} (member : window ∈ world.windows)
    (found : world.allocator.pools.find? window.pool = some tenant)
    (shows : tenant.pool.Shows world.allocator.memory view) :
    (tenant.pool.adopt? world.allocator.memory window.region.start = none ∧ ∃ fault after,
      world.allocator.publish window.pool window.region.start = (.error fault, after) ∧
      after.memory = world.allocator.memory ∧ after.pools = world.allocator.pools) ∨
    ∃ adopted arranged after,
      tenant.pool.adopt? world.allocator.memory window.region.start = some adopted ∧
      world.allocator.publish window.pool window.region.start = (.ok adopted.address, after) ∧
      after.memory = adopted.memory ∧
      after.pools =
        world.allocator.pools.insert window.pool { tenant with pool := adopted.pool } ∧
      view.adopt window.region.start = some (adopted.address, arranged) ∧
      adopted.pool.Shows adopted.memory arranged ∧
      world.allocator.memory.ChangedAmong adopted.memory (window.region :: view.links) ∧
      ¬ view.Live adopted.address ∧
      ∀ other, arranged.Live other ↔ other = adopted.address ∨ view.Live other := by
  -- A block the pool cannot carve is refused before the memory is touched.
  by_cases usable : (view.blank window.region.start).shape.Usable
  · obtain ⟨adopted, arranged, computed, published, rest⟩ :=
      sound.publish_fit member found shows usable
    exact .inr ⟨adopted, arranged, _, computed, published, rfl, rfl, rest⟩
  · have unfit := sound.publish_unfit member found shows usable
    exact .inl ⟨unfit, publish_none found unfit⟩

/-- A range that goes from one end of the line to the other. -/
private theorem perm_hand_over {region : Region} {mine others before after : List Region}
    (handed : before.Perm (region :: after)) :
    (mine ++ (others ++ before)).Perm (region :: mine ++ (others ++ after)) := by
  apply ((handed.append_left others).append_left mine).trans
  rw [← List.append_assoc, List.cons_append, ← List.append_assoc]
  exact List.perm_middle

omit [BlockSource σ] in
/-- A block that becomes a slab goes from one hand to the other. -/
theorem regions_carved {after : World σ} {next : ElementPool} {arranged : View} {address : Nat}
    {window : Window} (sound : world.Sound) (member : window ∈ world.windows)
    (advances : Advances world after.allocator window.pool tenant next arranged)
    (shows : tenant.pool.Shows world.allocator.memory view)
    (placed : view.adopt window.region.start = some (address, arranged))
    (windows : after.windows = world.windows.erase window) (lent : after.lent = world.lent) :
    after.regions.Perm world.regions := by
  apply (sound.regions_update advances.found advances.pools).trans
  refine List.Perm.trans ?_ (slabs_perm sound.names advances.found).symm
  have grown := advances.shown.regions_perm.trans
    ((View.adopt_regions placed).trans (shows.regions_perm.symm.cons _))
  rw [sound.blank_region member advances.found shows] at grown
  -- The region changes hands, from the blocks in flight to the slabs of the pool.
  have handed : world.lentRegions.Perm (window.region :: after.lentRegions) := by
    unfold lentRegions
    rw [windows, lent]
    exact ((List.perm_cons_erase member).map Window.region).append_right _
  exact (grown.append_right _).trans (perm_hand_over handed).symm

theorem publish (sound : world.Sound) {window : Window} (member : window ∈ world.windows) :
    (world.perform (.publish window)).Sound := by
  obtain ⟨tenant, found, size⟩ := sound.awaited window member
  obtain ⟨view, shows, books⟩ := sound.shown window.pool tenant found
  obtain ⟨-, fault, after, published, memory, pools⟩ |
    ⟨adopted, arranged, after, -, published, memory, pools, placed, shown, within, grown⟩ :=
    sound.publish_cases member found shows
  · unfold perform
    simp only
    rw [published]
    refine sound.keep pools (fun region _ => .of_eq memory region) rfl ?_
      fun other old => List.mem_of_mem_erase old
    -- The refused block goes back, so the regions are those before less this window.
    refine sound.laid.subperm (List.Sublist.subperm ?_)
    unfold regions slabs
    rw [pools]
    exact ((List.Sublist.refl _).append (List.erase_sublist.map _)).append (.refl _)
  · obtain ⟨live, others, once⟩ := books_handed sound.once books grown
    unfold perform
    simp only
    rw [published]
    rw [← memory] at shown within
    have size := shown.blockSize.trans ((View.adopt_blockSize placed).trans shows.blockSize.symm)
    have advances : Advances world after window.pool tenant adopted.pool arranged :=
      .of_carved sound member found shows pools shown size within
    refine sound.update advances live others once ?_
      fun other old => .inl (List.mem_of_mem_erase old)
    exact sound.laid.perm (sound.regions_carved member advances shows placed rfl rfl)

/-- An element the pool lets go of is gone, whether or not the source takes the block
of its slab back. -/
theorem free_moved {allocator : Allocator σ} {address : Nat} {freed : Freed}
    (found : allocator.pools.find? name = some tenant)
    (taken : tenant.pool.free allocator.memory address = .ok freed) :
    (allocator.free name address).2.memory = freed.memory ∧
      (allocator.free name address).2.pools =
        allocator.pools.insert name { tenant with pool := freed.pool } := by
  cases gone : freed.retired with
  | none =>
    rw [Allocator.free_kept found taken gone]
    exact ⟨rfl, rfl⟩
  | some base =>
    have kept := (allocator.letGo name tenant freed).giveBlock_same tenant.source base
    rw [Allocator.free_emptied found taken gone]
    cases gave : (allocator.letGo name tenant freed).giveBlock tenant.source base with
    | mk outcome last =>
      rw [gave] at kept
      cases outcome <;> exact kept

theorem free_refused {allocator : Allocator σ} {address : Nat} {fault : Fault}
    (found : allocator.pools.find? name = some tenant)
    (refused : tenant.pool.free allocator.memory address = .error fault) :
    (allocator.free name address).2.memory = allocator.memory ∧
      (allocator.free name address).2.pools = allocator.pools := by
  rw [Allocator.free_rejected found refused]
  exact ⟨rfl, rfl⟩

theorem release (sound : world.Sound) {address : Nat}
    (obeys : world.Obeys (.release name address)) :
    (world.perform (.release name address)).Sound := by
  unfold Obeys at obeys
  unfold perform accepts
  simp only at obeys ⊢
  cases found : world.allocator.pools.find? name with
  | none =>
    simp only [Allocator.free_absent address found, pool?, found, Option.map_none,
      Bool.false_eq_true, ↓reduceIte]
    exact sound.idle rfl rfl
  | some tenant =>
    obtain ⟨view, shows, books⟩ := sound.shown name tenant found
    simp only [pool?, found, Option.map_some, Option.mem_def, Option.some.injEq,
      forall_eq'] at obeys ⊢
    -- A caller that keeps to the discipline never hands in a slot that waits in the middle of a
    -- free list, the one repeat the slab does not see.
    have visible := shows.not_hidden obeys
    cases freed : view.free address with
    | error fault =>
      have refused := shows.free_error visible freed
      obtain ⟨memory, pools⟩ := free_refused found refused
      simp only [refused, Bool.false_eq_true, ↓reduceIte]
      exact sound.idle memory pools
    | ok outcome =>
      obtain ⟨gone, arranged⟩ := outcome
      obtain ⟨piece, fresh, result, returned, taken, -, shown, within⟩ :=
        shows.free_ok visible freed
      obtain ⟨memory, pools⟩ := free_moved found taken
      obtain ⟨-, left⟩ := returned.live shows.sound
      have member := shows.region_of_piece returned.mem
      simp only [taken, ↓reduceIte]
      rw [← memory] at shown within
      have size := shown.blockSize.trans (returned.blockSize.trans shows.blockSize.symm)
      refine sound.update (.of_within sound found shows pools shown size member within)
        (fun other => ?_) (fun pool other different => ?_) (sound.once.erase _) ?_
        fun window old => .inl old
      · rw [sound.once.mem_erase_iff, left, books]
        simp only [ne_eq, Prod.mk.injEq, true_and]
      · rw [sound.once.mem_erase_iff]
        simp only [ne_eq, Prod.mk.injEq, different, false_and, not_false_eq_true, true_and]
      -- A retired slab leaves the pool, nothing else about the regions changes.
      · have fewer : result.pool.regions.Subperm tenant.pool.regions := by
          refine shown.regions_perm.subperm.trans (List.Subperm.trans ?_ shows.regions_perm.symm.subperm)
          exact (List.sublist_append_right _ _).subperm.trans
            (returned.regions shows.sound).symm.subperm
        apply (sound.laid.perm (slabs_perm sound.names found).symm).subperm
        exact (sound.regions_update found pools).subperm.trans
          ((List.subperm_append_right _).2 fewer)

/-- A pool that is set up gets its resident slab in a range nobody holds. -/
theorem init_advances {count : Nat} {setup : Setup}
    (fresh : ∀ region ∈ world.granted (.setUp name count), world.Fresh region)
    (found : world.allocator.pools.find? name = some tenant)
    (shows : tenant.pool.Shows world.allocator.memory view)
    (made : tenant.pool.init world.allocator.memory world.allocator.system count = .ok setup) :
    (∀ resident ∈ setup.pool.resident, world.Fresh resident.region) ∧
      Advances world { world.allocator.setPool name tenant setup.pool with
        memory := setup.memory } name tenant setup.pool (view.equipped setup.pool.resident) ∧
      setup.pool.regions =
        (setup.pool.resident.map Resident.region).toList ++ tenant.pool.regions ∧
      ∀ address, (view.equipped setup.pool.resident).Live address ↔ view.Live address := by
  simp only [granted, pool?, found, Option.map_some, made] at fresh
  have granted : ∀ resident ∈ setup.pool.resident, world.Fresh resident.region :=
    fun resident member => fresh _ (Option.mem_map_of_mem _ member)
  have mine : ∀ region ∈ view.regions, region ∈ world.regions := by
    intro region member
    rw [← shows.regions_perm.mem_iff] at member
    exact mem_regions_of_slab (slab_of_pool found member)
  have bare : tenant.pool.resident = none := by
    rw [shows.resident, shows.idle (init_cases made).1]
    rfl
  obtain ⟨shown, -, live, frame⟩ := shows.init made
    (fun resident member => ⟨(granted resident member).1.1, (granted resident member).1.2.2⟩)
    (fun resident member region its => (granted resident member).2 region (mine region its))
  refine ⟨granted, ⟨found, rfl, shown, fun region its => frame region fun resident member => ?_,
    init_blockSize made⟩, init_regions bare made, live⟩
  exact (granted resident member).2 region (mem_regions_of_slab (slab_of_beside its))

theorem setUp (sound : world.Sound) {count : Nat}
    (fresh : ∀ region ∈ world.granted (.setUp name count), world.Fresh region) :
    (world.perform (.setUp name count)).Sound := by
  show World.Sound { world with allocator := (world.allocator.initPool name count).2 }
  rcases world.allocator.initPool_cases name count with ⟨fault, answered⟩ |
    ⟨tenant, setup, found, made, answered⟩
  · rw [answered]
    exact sound.idle rfl rfl
  · rw [answered]
    obtain ⟨view, shows, books⟩ := sound.shown name tenant found
    obtain ⟨granted, advances, ranges, live⟩ := init_advances fresh found shows made
    refine sound.update ⟨found, rfl, advances.shown, advances.frame, advances.size⟩
      (fun address => (books address).trans (live address).symm) (fun _ _ _ => .rfl) sound.once ?_
      fun window old => .inl old
    refine Region.Laid.perm ?_ (sound.regions_update found rfl)
    rw [ranges, List.append_assoc]
    have laid := sound.laid.perm (slabs_perm sound.names found).symm
    cases resident : setup.pool.resident with
    | none => exact laid
    | some slab =>
      obtain ⟨lies, apart⟩ := granted slab resident
      refine laid.cons lies fun other member => apart other ?_
      exact (slabs_perm sound.names found).mem_iff.2 member

theorem write (sound : world.Sound) {start length : Nat} {content : Nat → UInt8}
    (writable : world.Writable ⟨start, length⟩) :
    (world.perform (.write start length content)).Sound := by
  have written := Memory.changedWithin_paint world.allocator.memory start length content
  rcases writable with ⟨⟨name, address⟩, member, within⟩ | apart
  · have known := sound.owned _ member
    cases found : world.allocator.pools.find? name with
    | none => exact absurd known (Table.find?_eq_none_iff.1 found)
    | some tenant =>
      obtain ⟨view, shows, books⟩ := sound.shown name tenant found
      unfold element pool? at within
      simp only [found, Option.map_some, Option.getD_some] at within
      rw [shows.elementSize] at within
      obtain ⟨-, piece, inside, confined⟩ :=
        shows.sound.write_live ((books address).1 member) within written
      have mine := shows.region_of_piece inside
      have whole := confined.mono (Slab.Holds.body_within (shows.sound.held piece inside).usable)
      exact sound.update (.of_within sound found shows (Table.insert_same sound.names found).symm
        (shows.write_live ((books address).1 member) within written) rfl mine
        (whole.among List.mem_cons_self)) books (fun _ _ _ => .rfl) sound.once
        sound.laid fun window old => .inl old
  · exact sound.keep rfl (fun slab member => written.agree (apart slab member)) rfl sound.laid
      fun window old => old

theorem take (sound : world.Sound)
    (fresh : ∀ region ∈ world.granted (.take source), world.Fresh region) :
    (world.perform (.take source)).Sound := by
  have kept := world.allocator.takeBlock_same source
  unfold granted at fresh
  unfold perform
  simp only at fresh ⊢
  cases took : world.allocator.takeBlock source with
  | mk outcome after =>
    rw [took] at kept fresh
    cases outcome with
    | error fault => exact sound.idle kept.1 kept.2
    | ok block =>
      obtain ⟨lies, apart⟩ := fresh _ rfl
      refine sound.keep kept.2 (fun region _ => .of_eq kept.1 region) rfl ?_ fun window old => old
      apply (sound.laid.cons lies apart).perm
      unfold regions slabs
      rw [kept.2, List.map_cons]
      exact List.perm_middle

theorem give (sound : world.Sound) (loan : Loan) : (world.perform (.give loan)).Sound := by
  have kept := world.allocator.giveBlock_same loan.source loan.region.start
  unfold perform
  simp only
  cases gave : world.allocator.giveBlock loan.source loan.region.start with
  | mk outcome after =>
    rw [gave] at kept
    cases outcome with
    | error fault => exact sound.idle kept.1 kept.2
    | ok _ =>
      refine sound.keep kept.2 (fun region _ => .of_eq kept.1 region) rfl ?_ fun window old => old
      refine sound.laid.subperm (List.Sublist.subperm ?_)
      unfold regions slabs
      rw [kept.2]
      exact List.Sublist.append (.refl _) (List.erase_sublist.map _)

/-- A pool that ends writes links of its own slabs only. -/
theorem drop_spares (sound : world.Sound) {slab : Region} (its : slab ∈ world.beside name) :
    world.allocator.memory.Agree (world.allocator.dropPool name).memory slab := by
  cases found : world.allocator.pools.find? name with
  | none =>
    rw [Allocator.dropPool_absent found]
    exact .of_eq rfl slab
  | some tenant =>
    obtain ⟨view, shows, -⟩ := sound.shown name tenant found
    exact (world.allocator.dropPool_writes found shows).agree (sound.links_apart found shows its)

/-- The other pools are arranged as they were. -/
theorem drop_bystander (sound : world.Sound) {other : String}
    (found : world.allocator.pools.find? other = some tenant) (different : other ≠ name)
    (shows : tenant.pool.Shows world.allocator.memory view) :
    tenant.pool.Shows (world.allocator.dropPool name).memory view := by
  refine shows.of_agree fun region member => sound.drop_spares ?_
  rw [← shows.regions_perm.mem_iff] at member
  refine List.mem_flatMap.2 ⟨(other, tenant), Table.mem_of_find? ?_, member⟩
  rwa [Table.find?_erase_of_ne _ different]

theorem drop (sound : world.Sound) (closed : ∀ window ∈ world.windows, window.pool ≠ name) :
    (world.perform (.drop name)).Sound := by
  have pools := world.allocator.dropPool_pools name
  have mine : ∀ other address, other ≠ name →
      ((other, address) ∈ (world.perform (.drop name)).live ↔ (other, address) ∈ world.live) := by
    intro other address different
    unfold perform
    simp only [List.mem_filter, ne_eq, different, not_false_eq_true, decide_true, and_true]
  -- What is left to show, in this order: names, views, books, regions and windows.
  refine ⟨?_, fun other tenant held => ?_, fun element member => ?_, sound.once.filter _, ?_,
    fun window member => ?_⟩
  · show (world.allocator.dropPool name).pools.names.Nodup
    rw [pools]
    exact sound.names.sublist (List.filter_sublist.map _)
  · have different : other ≠ name := by
      rintro rfl
      have gone : (world.allocator.dropPool other).pools.find? other = some tenant := held
      rw [pools, Table.find?_erase_self] at gone
      cases gone
    have before : world.allocator.pools.find? other = some tenant := by
      rw [← Table.find?_erase_of_ne _ different, ← pools]
      exact held
    obtain ⟨view, shows, books⟩ := sound.shown other tenant before
    refine ⟨view, sound.drop_bystander before different shows, fun address => ?_⟩
    rw [mine other address different, books]
  · obtain ⟨old, different⟩ := List.mem_filter.1 member
    have different : element.1 ≠ name := of_decide_eq_true different
    have known := sound.owned element old
    cases found : world.allocator.pools.find? element.1 with
    | none => exact absurd known (Table.find?_eq_none_iff.1 found)
    | some tenant =>
      have held : (world.allocator.dropPool name).pools.find? element.1 = some tenant := by
        rw [pools, Table.find?_erase_of_ne _ different, found]
      exact Table.mem_names held
  · have left : (world.perform (.drop name)).regions = world.beside name ++ world.lentRegions := by
      rw [regions_eq]
      unfold beside
      rw [← pools]
      rfl
    rw [left]
    cases found : world.allocator.pools.find? name with
    | none =>
      have absent := Table.erase_of_absent (Table.find?_eq_none_iff.1 found)
      have laid := sound.laid
      rw [regions_eq] at laid
      unfold beside
      rwa [absent]
    | some tenant =>
      apply (sound.laid.perm (slabs_perm sound.names found).symm).subperm
      exact (List.sublist_append_right _ _).subperm
  · obtain ⟨tenant, held, size⟩ := sound.awaited window member
    refine ⟨tenant, ?_, size⟩
    show (world.allocator.dropPool name).pools.find? window.pool = some tenant
    rw [pools, Table.find?_erase_of_ne _ (closed window member), held]

theorem create (sound : world.Sound) {blockSize elementSize : Nat} {config : Config}
    (absent : name ∉ world.allocator.pools.names) :
    (world.perform (.create name source blockSize elementSize config)).Sound := by
  have entries := Table.entries_insert_absent absent
    (⟨.new blockSize elementSize config, source⟩ : Tenant)
  have names := Table.names_insert_absent absent
    (⟨.new blockSize elementSize config, source⟩ : Tenant)
  have blank := shows_new blockSize elementSize config world.allocator.memory
  -- What is left to show, in this order: names, views, books, regions and windows.
  refine ⟨?_, fun other tenant held => ?_, fun element member => ?_, sound.once, ?_,
    fun window member => ?_⟩
  · show (world.allocator.pools.insert name _).names.Nodup
    rw [names]
    refine List.nodup_append.2 ⟨sound.names, List.nodup_singleton _, ?_⟩
    rintro old member new last rfl
    rw [List.mem_singleton] at last
    subst last
    exact absent member
  · have held : (world.allocator.pools.insert name ⟨.new blockSize elementSize config,
        source⟩).find? other = some tenant := held
    by_cases same : other = name
    · subst same
      rw [Table.find?_insert_self] at held
      cases held
      -- A name that was unknown has no books, and a new pool has no live element.
      refine ⟨_, blank, fun address => ⟨fun member => absurd (sound.owned _ member) absent, ?_⟩⟩
      rintro ⟨piece, member, -⟩
      cases member
    · rw [Table.find?_insert_of_ne _ _ same] at held
      exact sound.shown other tenant held
  · show element.1 ∈ (world.allocator.pools.insert name _).names
    rw [names]
    exact List.mem_append_left _ (sound.owned element member)
  · have same : (world.perform (.create name source blockSize elementSize config)).regions =
        world.regions := by
      unfold regions slabs World.perform
      simp only [entries, List.flatMap_append, List.flatMap_singleton]
      rw [show (ElementPool.new blockSize elementSize config).regions = [] from rfl,
        List.append_nil]
    rw [same]
    exact sound.laid
  · obtain ⟨tenant, held, size⟩ := sound.awaited window member
    refine ⟨tenant, ?_, size⟩
    show (world.allocator.pools.insert name _).find? window.pool = some tenant
    rw [Table.find?_insert_of_ne, held]
    rintro same
    rw [← same] at absent
    exact absent (Table.mem_names held)

/-- **Every act keeps an honest world sound.** -/
theorem perform (sound : world.Sound) {act : Act σ} (honest : world.Honest act) :
    (world.perform act).Sound := by
  obtain ⟨fresh, obeys⟩ := honest
  cases act with
  | create => exact sound.create obeys
  | setUp => exact sound.setUp fresh
  | request => exact sound.request fresh
  | publish => exact sound.publish obeys
  | release => exact sound.release obeys
  | write => exact sound.write obeys
  | take => exact sound.take fresh
  | give loan => exact sound.give loan
  | drop => exact sound.drop obeys
  | outside => exact sound.idle rfl rfl

/-- Every world an honest run leads to is sound. -/
theorem run (sound : world.Sound) {acts : List (Act σ)} (honest : world.HonestRun acts) :
    (world.run acts).Sound := by
  induction acts generalizing world with
  | nil => exact sound
  | cons act rest ih =>
    obtain ⟨here, later⟩ := honest
    exact ih (sound.perform here) later

theorem of_reachable (reachable : world.Reachable) : world.Sound := by
  obtain ⟨allocator, acts, honest, rfl⟩ := reachable
  exact (start allocator).run honest

end SlabAllocator.World.Sound
