import SlabAllocator.Proofs.Allocator.Contents
import SlabAllocator.Proofs.Allocator.Ledger

/-! Who holds the blocks of sources. Whoever receives a block holds it until it is offered
back, and every offer is settled: the source takes the block back, or refuses it and then
nobody holds it. `held_step` says so of one act, and nobody offers a block of others. -/
namespace SlabAllocator

open ElementPool

namespace World

variable {σ : Type} {world after : World σ} {act : Act σ} {acts : List (Act σ)}
  {name source : String} {tenant : Tenant} {view : View} {address block : Nat}

/-- The source a pool draws on. -/
def sourceOf (world : World σ) (name : String) : String :=
  ((world.allocator.pools.find? name).map Tenant.source).getD ""

/-- The blocks of a pool with their source. -/
def blocksOf (tenant : Tenant) : List (String × Nat) :=
  tenant.pool.blocks.map fun block => (tenant.source, block)

/-- The blocks that are indexed by pools. -/
def indexed (world : World σ) : List (String × Nat) :=
  world.allocator.pools.entries.flatMap fun entry => blocksOf entry.2

/-- The blocks on their way to pools. -/
def waiting (world : World σ) : List (String × Nat) :=
  world.windows.map fun window => (world.sourceOf window.pool, window.region.start)

/-- The blocks that were taken from sources directly. -/
def borrowed (world : World σ) : List (String × Nat) :=
  world.lent.map fun loan => (loan.source, loan.region.start)

/-- Every block in somebody's hands. -/
def held (world : World σ) : List (String × Nat) :=
  world.indexed ++ (world.waiting ++ world.borrowed)

/-- What acts yield one after the other. -/
def along {β : Type} [BlockSource σ] (yield : World σ → Act σ → List β) (world : World σ) :
    List (Act σ) → List β
  | [] => []
  | act :: rest => yield world act ++ (world.perform act).along yield rest

variable [BlockSource σ]

/-- The block that an act receives from a source. -/
def received (world : World σ) : Act σ → List (String × Nat)
  | .request name =>
    match world.allocator.seek name with
    | (.awaiting source block, _) => [(source, block)]
    | (.settled _, _) => []
  | .take source =>
    match world.allocator.takeBlock source with
    | (.ok block, _) => [(source, block)]
    | (.error _, _) => []
  | _ => []

/-- The blocks that an act offers back to their source: that of a slab which lost its last
element, one that is unfit, those of all slabs of a pool that ends, or one that was lent. -/
def offers (world : World σ) : Act σ → List Offer
  | .publish window =>
    match world.allocator.pools.find? window.pool with
    | none => []
    | some tenant =>
      match tenant.pool.adopt? world.allocator.memory window.region.start with
      | some _ => []
      | none => (world.allocator.offerAll tenant.source [window.region.start]).1
  | .release name address =>
    match world.allocator.pools.find? name with
    | none => []
    | some tenant =>
      match tenant.pool.free world.allocator.memory address with
      | .error _ => []
      | .ok freed => (world.allocator.offerAll tenant.source freed.retired.toList).1
  | .give loan => (world.allocator.offerAll loan.source [loan.region.start]).1
  | .drop name =>
    match world.allocator.pools.find? name with
    | none => []
    | some tenant =>
      (world.allocator.offerAll tenant.source (tenant.pool.slabs world.allocator.memory)).1
  | _ => []

/-- The blocks that an act lets go of. A lent block that is refused stays lent. -/
def settled (world : World σ) (act : Act σ) : List (String × Nat) :=
  match act with
  | .give _ => Offer.taken (world.offers act)
  | _ => (world.offers act).map Offer.entry

/-- The blocks that an act lets go of although their source refuses them. -/
def leaked (world : World σ) (act : Act σ) : List (String × Nat) :=
  match act with
  | .give _ => []
  | _ => Offer.refused (world.offers act)

/-- The blocks of whoever acts. -/
def mine (world : World σ) : Act σ → List (String × Nat)
  | .publish window => [(world.sourceOf window.pool, window.region.start)]
  | .release name _ | .drop name => ((world.allocator.pools.find? name).map blocksOf).getD []
  | .give loan => [(loan.source, loan.region.start)]
  | _ => []

end World

/-! ## Blocks of a pool -/

namespace ElementPool.Shows

variable {pool next : ElementPool} {memory changed : Memory} {view arranged : View} {block : Nat}

/-- The index and the rings of a pool list the same blocks. -/
theorem blocks_slabs (shows : pool.Shows memory view) : pool.blocks.Perm (pool.slabs memory) := by
  rw [shows.slabs_eq]
  exact shows.blocks_perm

/-- A pool that comes to list other ends comes to list other blocks. -/
theorem blocks_of_ends {gone come : List Nat} (shows : pool.Shows memory view)
    (shown : next.Shows changed arranged) (same : arranged.blockSize = view.blockSize)
    (ends : (come.map (· + view.blockSize) ++ view.ends).Perm
      (gone.map (· + view.blockSize) ++ arranged.ends)) :
    (come ++ pool.blocks).Perm (gone ++ next.blocks) := by
  have whole := ((shows.indexed.append_left _).trans ends).trans (shown.indexed.symm.append_left _)
  -- The index lists where blocks end; a block’s size away is where they begin.
  have back := whole.map fun finish => finish - view.blockSize
  have cancel (blocks : List Nat) :
      (blocks.map (· + view.blockSize)).map (fun finish => finish - view.blockSize) = blocks := by
    rw [List.map_map]
    conv_rhs => rw [← List.map_id blocks]
    exact List.map_congr_left fun block _ => Nat.add_sub_cancel _ _
  rw [List.map_append, List.map_append, cancel, cancel] at back
  unfold blocks
  rw [shows.blockSize, shown.blockSize, same]
  exact back

/-- A release costs a pool the block of the slab that goes. -/
theorem blocks_returned {piece fresh : Piece} {address : Nat} {gone : Option Nat}
    (shows : pool.Shows memory view) (shown : next.Shows changed arranged)
    (returned : view.Returned piece fresh address gone arranged) :
    pool.blocks.Perm (gone.toList ++ next.blocks) := by
  have ends := returned.ends
  rw [Option.toList_map] at ends
  have lost : ([] ++ pool.blocks).Perm (gone.toList ++ next.blocks) :=
    shows.blocks_of_ends shown returned.blockSize ends
  exact lost

end ElementPool.Shows

namespace World

variable {σ : Type} {world after : World σ} {act : Act σ} {acts : List (Act σ)}
  {name source : String} {tenant : Tenant} {next : ElementPool} {view : View} {address block : Nat}

/-! ## Whose hands -/

/-- A pool that moves on exchanges its own blocks only. -/
theorem indexed_moved {gone come : List Nat} (once : world.allocator.pools.names.Nodup)
    (found : world.allocator.pools.find? name = some tenant)
    (pools : after.allocator.pools =
      world.allocator.pools.insert name { tenant with pool := next })
    (blocks : (come ++ tenant.pool.blocks).Perm (gone ++ next.blocks)) :
    (come.map (fun block => (tenant.source, block)) ++ world.indexed).Perm
      (gone.map (fun block => (tenant.source, block)) ++ after.indexed) := by
  obtain ⟨rest, before, -, behind⟩ :=
    Table.flatMap_split once found fun entry => blocksOf entry.2
  unfold indexed
  rw [pools]
  have whole := (blocks.map fun block => (tenant.source, block)).append_right rest
  rw [List.map_append, List.map_append, List.append_assoc, List.append_assoc] at whole
  exact ((before.append_left _).trans whole).trans
    ((behind { tenant with pool := next }).symm.append_left _)

theorem sourceOf_moved (found : world.allocator.pools.find? name = some tenant)
    (pools : after.allocator.pools =
      world.allocator.pools.insert name { tenant with pool := next }) (other : String) :
    after.sourceOf other = world.sourceOf other := by
  unfold sourceOf
  rw [pools]
  by_cases same : other = name
  · subst same
    rw [Table.find?_insert_self, found]
    rfl
  · rw [Table.find?_insert_of_ne _ _ same]

theorem waiting_eq (sources : ∀ window ∈ after.windows,
      after.sourceOf window.pool = world.sourceOf window.pool) :
    after.waiting = after.windows.map fun window =>
      (world.sourceOf window.pool, window.region.start) :=
  List.map_congr_left fun window member => by rw [sources window member]

theorem sourceOf_found (found : world.allocator.pools.find? name = some tenant) :
    world.sourceOf name = tenant.source := by
  unfold sourceOf
  rw [found]
  rfl

theorem held_same {first second : Allocator σ} {live others : List (String × Nat)}
    {windows : List Window} {lent : List Loan} (pools : first.pools = second.pools) :
    (⟨first, live, windows, lent⟩ : World σ).held = (⟨second, others, windows, lent⟩ : World σ).held := by
  unfold held indexed waiting borrowed sourceOf
  simp only [pools]

/-- What a pool does to its own blocks is all that happens when windows and loans stay. -/
theorem held_moved {gone come : List Nat} (once : world.allocator.pools.names.Nodup)
    (found : world.allocator.pools.find? name = some tenant)
    (pools : after.allocator.pools =
      world.allocator.pools.insert name { tenant with pool := next })
    (blocks : (come ++ tenant.pool.blocks).Perm (gone ++ next.blocks))
    (windows : after.windows = world.windows) (lent : after.lent = world.lent) :
    (come.map (fun block => (tenant.source, block)) ++ world.held).Perm
      (after.held ++ gone.map fun block => (tenant.source, block)) := by
  have index := indexed_moved once found pools blocks
  have waits : after.waiting = world.waiting := by
    rw [waiting_eq fun window _ => sourceOf_moved found pools window.pool, windows]
    rfl
  have loans : after.borrowed = world.borrowed := by
    unfold borrowed
    rw [lent]
  -- Windows and loans cancel out, so the books balance as soon as the indices do.
  rw [List.perm_iff_count] at index ⊢
  intro entry
  have counted := index entry
  unfold held
  rw [waits, loans]
  simp only [List.count_append] at counted ⊢
  omega

/-- A pool that keeps its blocks keeps them in its hands. -/
theorem held_steady (once : world.allocator.pools.names.Nodup)
    (found : world.allocator.pools.find? name = some tenant)
    (pools : after.allocator.pools =
      world.allocator.pools.insert name { tenant with pool := next })
    (blocks : tenant.pool.blocks.Perm next.blocks) (windows : after.windows = world.windows)
    (lent : after.lent = world.lent) : world.held.Perm after.held := by
  have kept : ([] ++ tenant.pool.blocks).Perm ([] ++ next.blocks) := blocks
  have moved := held_moved once found pools kept windows lent
  rwa [List.map_nil, List.nil_append, List.append_nil] at moved

theorem held_gained (once : world.allocator.pools.names.Nodup)
    (found : world.allocator.pools.find? name = some tenant)
    (pools : after.allocator.pools =
      world.allocator.pools.insert name { tenant with pool := next })
    (blocks : (block :: tenant.pool.blocks).Perm next.blocks)
    (windows : after.windows = world.windows) (lent : after.lent = world.lent) :
    ((tenant.source, block) :: world.held).Perm after.held := by
  have grown : ([block] ++ tenant.pool.blocks).Perm ([] ++ next.blocks) := blocks
  have moved := held_moved once found pools grown windows lent
  rwa [List.map_nil, List.append_nil] at moved

theorem held_lost {gone : List Nat} (once : world.allocator.pools.names.Nodup)
    (found : world.allocator.pools.find? name = some tenant)
    (pools : after.allocator.pools =
      world.allocator.pools.insert name { tenant with pool := next })
    (blocks : tenant.pool.blocks.Perm (gone ++ next.blocks))
    (windows : after.windows = world.windows) (lent : after.lent = world.lent) :
    world.held.Perm (after.held ++ gone.map fun block => (tenant.source, block)) :=
  have shrunk : ([] ++ tenant.pool.blocks).Perm (gone ++ next.blocks) := blocks
  held_moved once found pools shrunk windows lent

namespace Sound

variable [BlockSource σ]

/-! ## One act -/

private theorem held_create (sound : world.Sound) {blockSize elementSize : Nat} {config : Config}
    (absent : name ∉ world.allocator.pools.names) :
    (world.perform (.create name source blockSize elementSize config)).held = world.held := by
  have entries := Table.entries_insert_absent absent
    (⟨.new blockSize elementSize config, source⟩ : Tenant)
  unfold held
  congr 1
  · unfold indexed World.perform
    simp only [entries, List.flatMap_append, List.flatMap_singleton]
    exact List.append_nil _
  · congr 1
    refine waiting_eq fun window waiting => ?_
    obtain ⟨tenant, found, -⟩ := sound.awaited window waiting
    have different : window.pool ≠ name := by
      rintro same
      rw [← same] at absent
      exact absent (Table.mem_names found)
    unfold sourceOf World.perform
    simp only
    rw [Table.find?_insert_of_ne _ _ different]

private theorem held_setUp (sound : world.Sound) {count : Nat} :
    (world.perform (.setUp name count)).held.Perm world.held := by
  rcases setUp_cases world name count with idles | ⟨tenant, setup, found, made, pools, -⟩
  · exact .of_eq (held_same idles.pools)
  · have blocks : setup.pool.blocks = tenant.pool.blocks := by
      unfold blocks
      obtain ⟨-, -, fitted⟩ := init_cases made
      cases fitted <;> rfl
    exact (held_steady sound.names found pools (.of_eq blocks.symm) rfl rfl).symm

private theorem held_request (sound : world.Sound) :
    (world.received (.request name) ++ world.held).Perm (world.perform (.request name)).held := by
  cases found : world.allocator.pools.find? name with
  | none =>
    simp only [received, World.perform, Allocator.seek_absent found, List.nil_append]
    exact .of_eq (held_same rfl).symm
  | some tenant =>
    obtain ⟨view, shows, books⟩ := sound.shown name tenant found
    rcases seek_cases sound.names found shows with ⟨fault, after, sought, memory, pools⟩ |
      ⟨block, after, sought, memory, pools⟩ |
      ⟨address, next, changed, after, arranged, piece, fresh, sought, memory, pools, placed, shown,
        -⟩
    · simp only [received, World.perform, sought, List.nil_append]
      exact .of_eq (held_same pools).symm
    · simp only [received, World.perform, sought, pool?, found]
      unfold held indexed waiting borrowed sourceOf
      simp only [pools, List.map_cons, found, Option.map_some, Option.getD_some,
        List.cons_append, List.nil_append]
      exact List.perm_middle.symm
    · simp only [received, World.perform, sought, List.nil_append]
      have blocks : ([] ++ tenant.pool.blocks).Perm ([] ++ next.blocks) :=
        shows.blocks_of_ends shown placed.blockSize placed.ends.symm
      exact held_steady sound.names found pools blocks rfl rfl

omit [BlockSource σ] in
/-- A window that closes is one block less on its way. -/
private theorem held_closed {window : Window} (member : window ∈ world.windows) :
    world.held.Perm ({ world with windows := world.windows.erase window : World σ }.held ++
      [(world.sourceOf window.pool, window.region.start)]) := by
  have erased : world.waiting.Perm ((world.sourceOf window.pool, window.region.start) ::
      { world with windows := world.windows.erase window : World σ }.waiting) :=
    (List.perm_cons_erase member).map _
  unfold held
  rw [List.append_assoc]
  refine List.Perm.append_left _ ((erased.append_right _).trans ?_)
  exact (List.perm_append_singleton _ _).symm

private theorem held_publish (sound : world.Sound) {window : Window}
    (member : window ∈ world.windows) :
    world.held.Perm ((world.perform (.publish window)).held ++ world.settled (.publish window)) := by
  obtain ⟨tenant, found, -⟩ := sound.awaited window member
  obtain ⟨view, shows, -⟩ := sound.shown window.pool tenant found
  have closed := held_closed member
  have source := sourceOf_found found
  obtain ⟨unfit, fault, after, published, memory, pools⟩ |
    ⟨adopted, arranged, after, made, published, memory, pools, placed, shown, -⟩ :=
    sound.publish_cases member found shows
  · have offered : world.settled (.publish window) = [(tenant.source, window.region.start)] := by
      simp only [settled, offers, found, unfit, Allocator.offerAll_blocks, List.map_cons,
        List.map_nil]
    simp only [offered, World.perform, published]
    rw [← source]
    refine closed.trans (.of_eq (congrArg (· ++ _) ?_))
    exact (held_same pools).symm
  · have offered : world.settled (.publish window) = [] := by
      simp only [settled, offers, found, made, List.map_nil]
    simp only [offered, World.perform, published, List.append_nil]
    have blocks : ([window.region.start] ++ tenant.pool.blocks).Perm ([] ++ adopted.pool.blocks) :=
      shows.blocks_of_ends shown (View.adopt_blockSize placed) (View.adopt_ends placed).symm
    refine closed.trans (List.perm_append_comm.trans ?_)
    rw [source]
    exact held_gained sound.names found pools blocks rfl rfl

private theorem held_release (sound : world.Sound) (obeys : world.Obeys (.release name address)) :
    world.held.Perm ((world.perform (.release name address)).held ++
      world.settled (.release name address)) := by
  cases found : world.allocator.pools.find? name with
  | none =>
    have kept : (world.allocator.free name address).2.pools = world.allocator.pools := by
      rw [Allocator.free_absent address found]
      rfl
    simp only [settled, offers, found, List.map_nil, List.append_nil]
    exact .of_eq (held_same kept).symm
  | some tenant =>
    cases taken : tenant.pool.free world.allocator.memory address with
    | error fault =>
      simp only [settled, offers, found, taken, List.map_nil, List.append_nil]
      exact .of_eq (held_same (free_refused found taken).2).symm
    | ok freed =>
      obtain ⟨view, shows, books⟩ := sound.shown name tenant found
      obtain ⟨-, pools⟩ := free_moved found taken
      have visible := obeys
      simp only [Obeys, pool?, found, Option.map_some, Option.mem_def, Option.some.injEq,
        forall_eq'] at visible
      have visible := shows.not_hidden visible
      simp only [settled, offers, found, taken, Allocator.offerAll_blocks]
      refine held_lost sound.names found pools ?_ rfl rfl
      -- The view accepts what the pool accepts, and tells which block left its index.
      cases answered : view.free address with
      | error fault =>
        rw [shows.free_error visible answered] at taken
        cases taken
      | ok outcome =>
        obtain ⟨gone, arranged⟩ := outcome
        obtain ⟨piece, fresh, result, returned, also, rfl, shown, -⟩ :=
          shows.free_ok visible answered
        obtain rfl : result = freed := Except.ok.inj (also.symm.trans taken)
        exact shows.blocks_returned shown returned

private theorem held_take (source : String) :
    (world.received (.take source) ++ world.held).Perm (world.perform (.take source)).held := by
  have kept := (world.allocator.takeBlock_same source).2
  cases took : world.allocator.takeBlock source with
  | mk outcome after =>
    rw [took] at kept
    cases outcome with
    | error fault =>
      simp only [received, World.perform, took, List.nil_append]
      exact .of_eq (held_same kept).symm
    | ok block =>
      have kept : after.pools = world.allocator.pools := kept
      simp only [received, World.perform, took]
      unfold held indexed waiting borrowed sourceOf
      simp only [kept, List.map_cons, List.cons_append, List.nil_append]
      rw [← List.append_assoc, ← List.append_assoc]
      exact List.perm_middle.symm

private theorem held_give {loan : Loan} (member : loan ∈ world.lent) :
    world.held.Perm ((world.perform (.give loan)).held ++ world.settled (.give loan)) := by
  have kept := (world.allocator.giveBlock_same loan.source loan.region.start).2
  cases gave : world.allocator.giveBlock loan.source loan.region.start with
  | mk outcome after =>
    rw [gave] at kept
    cases outcome with
    | error fault =>
      have none : world.settled (.give loan) = [] := by
        simp only [settled, offers, Allocator.offerAll, gave]
        rfl
      simp only [none, World.perform, gave, List.append_nil]
      exact .of_eq (held_same kept).symm
    | ok _ =>
      have one : world.settled (.give loan) = [(loan.source, loan.region.start)] := by
        simp only [settled, offers, Allocator.offerAll, gave]
        rfl
      have erased : world.borrowed.Perm ((loan.source, loan.region.start) ::
          (world.lent.erase loan).map fun loan => (loan.source, loan.region.start)) :=
        (List.perm_cons_erase member).map _
      simp only [one, World.perform, gave]
      have rest : (World.mk after world.live world.windows (world.lent.erase loan)).held =
          (World.mk world.allocator world.live world.windows (world.lent.erase loan)).held :=
        held_same kept
      rw [rest]
      unfold held
      rw [List.append_assoc, List.append_assoc]
      refine (List.Perm.append_left _ (List.Perm.append_left _ ?_))
      exact erased.trans (List.perm_append_singleton _ _).symm

private theorem held_drop (sound : world.Sound) (closed : ∀ window ∈ world.windows,
      window.pool ≠ name) :
    world.held.Perm ((world.perform (.drop name)).held ++ world.settled (.drop name)) := by
  have pools := world.allocator.dropPool_pools name
  cases found : world.allocator.pools.find? name with
  | none =>
    rw [Table.erase_of_absent (Table.find?_eq_none_iff.1 found)] at pools
    simp only [settled, offers, found, List.map_nil, List.append_nil]
    exact .of_eq (held_same pools).symm
  | some tenant =>
    obtain ⟨view, shows, -⟩ := sound.shown name tenant found
    obtain ⟨rest, before, erased, -⟩ :=
      Table.flatMap_split sound.names found fun entry => blocksOf entry.2
    have index : (world.perform (.drop name)).indexed = rest := by
      show (world.allocator.dropPool name).pools.entries.flatMap _ = rest
      rw [pools, erased]
    have waits : (world.perform (.drop name)).waiting = world.waiting := by
      refine waiting_eq fun window member => ?_
      unfold sourceOf
      show (((world.allocator.dropPool name).pools.find? window.pool).map _).getD _ = _
      rw [pools, Table.find?_erase_of_ne _ (closed window member)]
    simp only [settled, offers, found, Allocator.offerAll_blocks]
    unfold held
    rw [index, waits]
    have gone : (blocksOf tenant).Perm
        ((tenant.pool.slabs world.allocator.memory).map fun block => (tenant.source, block)) :=
      shows.blocks_slabs.map _
    have split : world.indexed.Perm
        ((tenant.pool.slabs world.allocator.memory).map (fun block => (tenant.source, block)) ++
          rest) :=
      before.trans (gone.append_right rest)
    refine (split.append_right _).trans ?_
    rw [List.append_assoc]
    exact List.perm_append_comm

/-- **Every block is handed on once.** What was held and what is received is held afterwards or
is settled. -/
theorem held_step (sound : world.Sound) (honest : world.Honest act) :
    (world.received act ++ world.held).Perm ((world.perform act).held ++ world.settled act) := by
  obtain ⟨-, obeys⟩ := honest
  cases act with
  | create => exact .of_eq ((sound.held_create obeys).symm.trans (List.append_nil _).symm)
  | setUp => exact sound.held_setUp.symm.trans (.of_eq (List.append_nil _).symm)
  | request => exact sound.held_request.trans (.of_eq (List.append_nil _).symm)
  | publish => exact sound.held_publish obeys
  | release => exact sound.held_release obeys
  | write => exact .of_eq (List.append_nil _).symm
  | take source => exact (held_take source).trans (.of_eq (List.append_nil _).symm)
  | give => exact held_give obeys
  | drop => exact sound.held_drop obeys
  | outside => exact .of_eq ((held_same rfl).trans (List.append_nil _).symm)

/-- What a run receives it hands on, block by block, or still holds. -/
theorem held_run (sound : world.Sound) (honest : world.HonestRun acts) :
    (world.along received acts ++ world.held).Perm
      ((world.run acts).held ++ world.along settled acts) := by
  -- By induction on the run. Blocks are counted one entry at a time, so the two balances add up.
  induction acts generalizing world with
  | nil => exact .of_eq (List.append_nil _).symm
  | cons act rest ih =>
    obtain ⟨here, later⟩ := honest
    have step := sound.held_step here
    have behind := ih (sound.perform here) later
    rw [List.perm_iff_count] at step behind ⊢
    intro entry
    have first := step entry
    have second := behind entry
    simp only [along, List.count_append, World.run] at first second ⊢
    omega

/-! ## Who may offer what -/

/-- Whoever offers blocks has them. -/
theorem offers_mine (sound : world.Sound) (honest : world.Honest act) :
    ((world.offers act).map Offer.entry).Subperm (world.mine act) := by
  obtain ⟨-, obeys⟩ := honest
  -- Only four kinds of act hand blocks back; each offers blocks of the pool or loan it names.
  cases act with
  | publish window =>
    unfold offers mine
    simp only
    cases found : world.allocator.pools.find? window.pool with
    | none => exact List.nil_subperm
    | some tenant =>
      simp only
      split
      · exact List.nil_subperm
      · rw [Allocator.offerAll_blocks, sourceOf_found found]
        exact .refl _
  | release name address =>
    unfold offers mine
    simp only
    cases found : world.allocator.pools.find? name with
    | none => exact List.nil_subperm
    | some tenant =>
      simp only
      split
      · exact List.nil_subperm
      · next freed taken =>
        obtain ⟨view, shows, -⟩ := sound.shown name tenant found
        obtain ⟨piece, -, -, -, retired⟩ := shows.free_writes taken
        rw [Allocator.offerAll_blocks]
        cases gone : freed.retired with
        | none => exact List.nil_subperm
        | some base =>
          refine List.singleton_subperm_iff.2 (List.mem_map_of_mem ?_)
          exact shows.blocks_slabs.mem_iff.2 (retired base gone).2
  | give loan =>
    unfold offers mine
    simp only [Allocator.offerAll_blocks]
    exact .refl _
  | drop name =>
    unfold offers mine
    simp only
    cases found : world.allocator.pools.find? name with
    | none => exact List.nil_subperm
    | some tenant =>
      obtain ⟨view, shows, -⟩ := sound.shown name tenant found
      simp only [Allocator.offerAll_blocks]
      exact (shows.blocks_slabs.symm.map _).subperm
  | create => exact List.nil_subperm
  | setUp => exact List.nil_subperm
  | request => exact List.nil_subperm
  | write => exact List.nil_subperm
  | take => exact List.nil_subperm
  | outside => exact List.nil_subperm

omit [BlockSource σ] in
private theorem indexed_of_pool (sound : world.Sound) (name : String) :
    (((world.allocator.pools.find? name).map blocksOf).getD []).Subperm world.held := by
  cases found : world.allocator.pools.find? name with
  | none => exact List.nil_subperm
  | some tenant =>
    obtain ⟨rest, split, -⟩ :=
      Table.flatMap_split sound.names found fun entry => blocksOf entry.2
    have listed : (blocksOf tenant).Subperm world.indexed :=
      (List.sublist_append_left _ rest).subperm.trans split.symm.subperm
    exact listed.trans (List.sublist_append_left _ _).subperm

theorem mine_held (sound : world.Sound) (honest : world.Honest act) :
    (world.mine act).Subperm world.held := by
  obtain ⟨-, obeys⟩ := honest
  cases act with
  | publish window =>
    refine (List.sublist_append_right _ _).subperm.trans (held_closed obeys).symm.subperm
  | release name address => exact sound.indexed_of_pool name
  | drop name => exact sound.indexed_of_pool name
  | give loan =>
    refine List.singleton_subperm_iff.2 (List.mem_append_right _ (List.mem_append_right _ ?_))
    exact List.mem_map_of_mem (f := fun loan : Loan => (loan.source, loan.region.start)) obeys
  | create => exact List.nil_subperm
  | setUp => exact List.nil_subperm
  | request => exact List.nil_subperm
  | write => exact List.nil_subperm
  | take => exact List.nil_subperm
  | outside => exact List.nil_subperm

end Sound

end World

end SlabAllocator
