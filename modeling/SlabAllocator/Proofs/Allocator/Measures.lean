import SlabAllocator.Proofs.Allocator.Acts
import SlabAllocator.Proofs.ElementPool.Counters

/-! The sizes of the pools of a world, and the bytes of their carved slabs, stay right
through every honest run. -/
namespace SlabAllocator.World

open ElementPool

variable {σ : Type}

/-- The sizes of every pool are right. -/
def Measured (world : World σ) : Prop :=
  ∀ name tenant, world.allocator.pools.find? name = some tenant → tenant.pool.Measured

namespace Measured

variable {world after : World σ} {name source : String} {tenant : Tenant} {next : ElementPool}

theorem of_eq (measured : world.Measured) (pools : after.allocator.pools = world.allocator.pools) :
    after.Measured := by
  intro name tenant found
  rw [pools] at found
  exact measured name tenant found

theorem of_insert (measured : world.Measured) (here : next.Measured)
    (pools : after.allocator.pools =
      world.allocator.pools.insert name { tenant with pool := next }) : after.Measured := by
  intro other owner found
  rw [pools] at found
  by_cases same : other = name
  · subst same
    rw [Table.find?_insert_self] at found
    cases found
    exact here
  · rw [Table.find?_insert_of_ne _ _ same] at found
    exact measured other owner found

theorem start (allocator : Allocator σ) : (World.start allocator).Measured :=
  fun _ _ absurd => by cases absurd

variable [BlockSource σ]

private theorem setUp (measured : world.Measured) (name : String) (count : Nat) :
    (world.perform (.setUp name count)).Measured := by
  rcases world.allocator.initPool_cases name count with ⟨fault, answered⟩ |
    ⟨tenant, setup, found, made, answered⟩
  · apply measured.of_eq
    simp only [World.perform, answered]
    rfl
  · have pools : (world.perform (.setUp name count)).allocator.pools =
        world.allocator.pools.insert name { tenant with pool := setup.pool } := by
      simp only [World.perform, answered]
      rfl
    exact measured.of_insert ((measured name tenant found).init made) pools

private theorem request (measured : world.Measured) (sound : world.Sound) (name : String) :
    (world.perform (.request name)).Measured := by
  cases found : world.allocator.pools.find? name with
  | none =>
    apply measured.of_eq
    simp only [World.perform, Allocator.seek_absent found]
    rfl
  | some tenant =>
    obtain ⟨view, shows, -⟩ := sound.shown name tenant found
    cases ready : tenant.pool.ready with
    | false =>
      apply measured.of_eq
      simp only [World.perform, Allocator.seek_unready found ready]
      rfl
    | true =>
      cases served : view.attempt with
      | some result =>
        obtain ⟨next, changed, piece, fresh, attempted, sought, placed, shown, -⟩ :=
          Sound.seek_arranged found shows ready served
        have pools : (world.perform (.request name)).allocator.pools =
            world.allocator.pools.insert name { tenant with pool := next } := by
          simp only [World.perform, sought]
          rfl
        exact measured.of_insert
          ((measured name tenant found).attempt shows attempted placed shown) pools
      | none =>
        have kept := world.allocator.takeBlock_same tenant.source
        apply measured.of_eq
        simp only [World.perform, Sound.seek_drained sound.names found shows ready served]
        cases took : world.allocator.takeBlock tenant.source with
        | mk outcome after =>
          rw [took] at kept
          cases outcome <;> exact kept.2

private theorem publish (measured : world.Measured) (sound : world.Sound) {window : Window}
    (member : window ∈ world.windows) : (world.perform (.publish window)).Measured := by
  obtain ⟨tenant, found, -⟩ := sound.awaited window member
  obtain ⟨view, shows, -⟩ := sound.shown window.pool tenant found
  obtain ⟨-, fault, after, published, -, pools⟩ |
    ⟨adopted, arranged, after, made, published, memory, pools, placed, shown, -⟩ :=
    sound.publish_cases member found shows
  · apply measured.of_eq
    simp only [World.perform, published, pools]
  · have moved : (world.perform (.publish window)).allocator.pools =
        world.allocator.pools.insert window.pool { tenant with pool := adopted.pool } := by
      simp only [World.perform, published, pools]
    exact measured.of_insert ((measured window.pool tenant found).adopt? shows made placed shown)
      moved

private theorem release (measured : world.Measured) (sound : world.Sound) {address : Nat}
    (obeys : world.Obeys (.release name address)) :
    (world.perform (.release name address)).Measured := by
  cases found : world.allocator.pools.find? name with
  | none =>
    apply measured.of_eq
    simp only [World.perform, Allocator.free_absent address found]
    rfl
  | some tenant =>
    obtain ⟨view, shows, -⟩ := sound.shown name tenant found
    simp only [Obeys, pool?, found, Option.map_some, Option.mem_def, Option.some.injEq,
      forall_eq'] at obeys
    have visible := shows.not_hidden obeys
    cases freed : view.free address with
    | error fault =>
      exact measured.of_eq (Sound.free_refused found (shows.free_error visible freed)).2
    | ok outcome =>
      obtain ⟨gone, arranged⟩ := outcome
      obtain ⟨piece, fresh, result, returned, taken, rfl, shown, -⟩ := shows.free_ok visible freed
      exact measured.of_insert ((measured name tenant found).free shows taken returned shown)
        (Sound.free_moved found taken).2

private theorem drop (measured : world.Measured) (name : String) :
    (world.perform (.drop name)).Measured := by
  intro other tenant found
  have found : (world.allocator.dropPool name).pools.find? other = some tenant := found
  have different : other ≠ name := by
    rintro rfl
    rw [world.allocator.dropPool_pools other, Table.find?_erase_self] at found
    cases found
  rw [world.allocator.dropPool_pools name, Table.find?_erase_of_ne _ different] at found
  exact measured other tenant found

theorem perform {act : Act σ} (measured : world.Measured) (sound : world.Sound)
    (honest : world.Honest act) : (world.perform act).Measured := by
  obtain ⟨-, obeys⟩ := honest
  cases act with
  | create name source blockSize elementSize config =>
    intro other tenant found
    have found : (world.allocator.pools.insert name
      ⟨.new blockSize elementSize config, source⟩).find? other = some tenant := found
    by_cases same : other = name
    · subst same
      rw [Table.find?_insert_self] at found
      cases found
      exact measured_new ..
    · rw [Table.find?_insert_of_ne _ _ same] at found
      exact measured other tenant found
  | setUp name count => exact measured.setUp name count
  | request name => exact measured.request sound name
  | publish window => exact measured.publish sound obeys
  | release name address => exact measured.release sound obeys
  | write => exact measured.of_eq rfl
  | take source =>
    apply measured.of_eq
    rw [allocator_take]
    exact (world.allocator.takeBlock_same source).2
  | give loan =>
    apply measured.of_eq
    rw [allocator_give]
    exact (world.allocator.giveBlock_same loan.source loan.region.start).2
  | drop name => exact measured.drop name
  | outside => exact measured.of_eq rfl

theorem run {acts : List (Act σ)} (measured : world.Measured) (sound : world.Sound)
    (honest : world.HonestRun acts) : (world.run acts).Measured := by
  induction acts generalizing world with
  | nil => exact measured
  | cons act rest ih =>
    obtain ⟨here, later⟩ := honest
    exact ih (measured.perform sound here) (sound.perform here) later

theorem of_reachable (reachable : world.Reachable) : world.Measured := by
  obtain ⟨allocator, acts, honest, rfl⟩ := reachable
  exact (start allocator).run (.start allocator) honest

end Measured

/-- A slab can be made of a block on its way, if blocks are whole words. -/
theorem Sound.window_usable {world : World σ} {window : Window} {tenant : Tenant} {view : View}
    (sound : world.Sound)
    (member : window ∈ world.windows)
    (found : world.allocator.pools.find? window.pool = some tenant)
    (shows : tenant.pool.Shows world.allocator.memory view) (measured : tenant.pool.Measured)
    (ready : tenant.pool.ready = true) (whole : tenant.pool.blockSize % wordBytes = 0) :
    (view.blank window.region.start).shape.Usable := by
  have lies : window.region.Placed := sound.laid.placed _ (mem_regions_of_window member)
  obtain ⟨owner, its, size⟩ := sound.awaited window member
  obtain rfl : owner = tenant := Option.some.inj (its.symm.trans found)
  refine measured.usable ready shows whole lies.1 ?_
  rw [size]
  exact lies.2.2

end SlabAllocator.World
