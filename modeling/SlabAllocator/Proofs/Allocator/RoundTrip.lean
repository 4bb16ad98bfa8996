import SlabAllocator.Proofs.Allocator.Deeds
import SlabAllocator.Proofs.Allocator.Serving
import SlabAllocator.Proofs.ElementPool.RoundTrip

/-! An element that is handed out and taken back at once leaves no trace but in counters.
Whatever a request drew from a block pool goes back there: a slab that was carved for it is
retired, and its block is the next one of the cache again, or the system has it back. -/
namespace SlabAllocator

open ElementPool

namespace World

variable {σ : Type} [BlockSource σ] {world : World σ} {after last base : Allocator σ}
  {name : String} {tenant : Tenant} {pool : ElementPool} {view arranged : View}
  {address slab : Nat} {come : Option Nat} {window : Window}

/-! ## An element is handed out -/

/-- How a request left its source: alone, or one block poorer. -/
inductive Drew (before : Allocator σ) (name source : String) : Option Nat → Allocator σ → Prop
  | nothing : Drew before name source none before
  | block {block : Nat} {taken : Allocator σ}
      (sought : before.seek name = (.awaiting source block, taken))
      (took : before.takeBlock source = (.ok block, taken)) :
      Drew before name source (some block) taken

/-- A request was served by the slab at `slab`, for which a block may have come. -/
structure Served (world : World σ) (after : Allocator σ) (name : String) (tenant : Tenant)
    (pool : ElementPool) (view arranged : View) (address slab : Nat) (come : Option Nat)
    (base : Allocator σ) : Prop where
  shows : tenant.pool.Shows world.allocator.memory view
  advances : Sound.Advances world after name tenant pool arranged
  dealt : view.Dealt arranged slab address come
  counted : tenant.pool.Counted pool
    (tenant.pool.tally.alloc tenant.pool.config tenant.pool.elementSize)
    (tenant.pool.carvedBytes + if come.isSome then tenant.pool.blockSize else 0)
  drew : Drew world.allocator name tenant.source come base
  supply : after.SameSupply base

/-- The block on its way becomes the slab that hands the element out. -/
theorem Sound.publish_dealt (sound : world.Sound) (member : window ∈ world.windows)
    (found : world.allocator.pools.find? window.pool = some tenant)
    (shows : tenant.pool.Shows world.allocator.memory view)
    (published : world.allocator.publish window.pool window.region.start = (.ok address, last)) :
    ∃ pool arranged, Advances world last window.pool tenant pool arranged ∧
      view.Dealt arranged window.region.start address (some window.region.start) ∧
      tenant.pool.Counted pool
        (tenant.pool.tally.alloc tenant.pool.config tenant.pool.elementSize)
        (tenant.pool.carvedBytes + tenant.pool.blockSize) ∧
      last.SameSupply world.allocator := by
  by_cases usable : (view.blank window.region.start).shape.Usable
  · have apart := sound.blank_apart member found shows
    have region := sound.blank_region member found shows
    obtain ⟨adopted, arranged, formatted, made, placed, shown, within, held⟩ :=
      shows.adopt?_some usable apart
    rw [Allocator.publish_adopted found made] at published
    cases published
    rw [region] at within
    have counted := adopt?_counted made
    exact ⟨adopted.pool, arranged, .of_carved sound member found shows rfl shown
      counted.same.blockSize within, View.adopt_dealt placed shows.sound held apart, counted, rfl, rfl, rfl⟩
  · have unfit := sound.publish_unfit member found shows usable
    obtain ⟨fault, after, refused, -⟩ := publish_none found unfit
    rw [refused] at published
    cases published

/-- A pool with room serves the request itself. -/
theorem Sound.served_at_once (sound : world.Sound)
    (found : world.allocator.pools.find? name = some tenant)
    (shows : tenant.pool.Shows world.allocator.memory view) (ready : tenant.pool.ready = true)
    (attempted : view.attempt ≠ none)
    (answered : (world.allocator.alloc name).1.outcome = .ok address) :
    ∃ pool arranged slab, world.Served (world.allocator.alloc name).2 name tenant pool view arranged
      address slab none world.allocator := by
  obtain ⟨⟨element, arranged⟩, room⟩ := Option.ne_none_iff_exists'.1 attempted
  obtain ⟨next, changed, piece, fresh, served, sought, placed, shown, within⟩ :=
    seek_arranged found shows ready room
  rw [Allocator.alloc_settled sought] at answered ⊢
  cases answered
  have counted := attempt_counted served
  exact ⟨next, arranged, piece.base, shows,
    .of_within sound found shows rfl shown counted.same.blockSize
      (shows.region_of_piece placed.mem) within,
    placed.dealt shows.sound, counted, .nothing, rfl, rfl, rfl⟩

/-- A pool without room serves the request from a new slab. -/
theorem Sound.served_by_block (sound : world.Sound) (quiet : world.allocator.interludes = .empty)
    (honest : world.Honest (.request name))
    (found : world.allocator.pools.find? name = some tenant)
    (shows : tenant.pool.Shows world.allocator.memory view) (ready : tenant.pool.ready = true)
    (attempted : view.attempt = none)
    (answered : (world.allocator.alloc name).1.outcome = .ok address) :
    ∃ pool arranged block taken, world.Served (world.allocator.alloc name).2 name tenant pool view
      arranged address block (some block) taken := by
  have sought := seek_drained sound.names found shows ready attempted
  have kept := world.allocator.takeBlock_same tenant.source
  have announced := world.allocator.takeBlock_interludes tenant.source
  cases took : world.allocator.takeBlock tenant.source with
  | mk outcome taken =>
    rw [took] at sought kept announced
    cases outcome with
    | error fault =>
      rw [Allocator.alloc_settled sought] at answered
      cases answered
    | ok block =>
      obtain ⟨memory, pools⟩ := kept
      -- While the block is in flight the world is the one that has performed the request.
      have waiting := sound.perform honest
      rw [perform_awaiting sought] at waiting
      have none : taken.interludes.find? tenant.source = none := by
        rw [announced, quiet]
        rfl
      cases published : taken.publish name block with
      | mk outcome last =>
        have whole : world.allocator.alloc name = (.answered [] outcome, last) :=
          Allocator.allocAt_carved sought none published _
        rw [whole] at answered ⊢
        obtain rfl : outcome = .ok address := answered
        obtain ⟨pool, arranged, moved, dealt, counted, supply⟩ :=
          waiting.publish_dealt List.mem_cons_self (by rwa [pools])
            (shows.of_agree fun region _ => .of_eq memory region) published
        refine ⟨pool, arranged, block, taken, shows, ⟨found, ?_, moved.shown, fun region its => ?_,
          moved.size⟩, dealt, counted, .block sought took, supply⟩
        · rw [moved.pools, pools]
        · rw [← memory]
          refine moved.frame region ?_
          unfold beside at its ⊢
          rwa [pools]

/-- Whatever served a request, it was some slab of the pool. -/
theorem Sound.alloc_dealt (sound : world.Sound) (quiet : world.allocator.interludes = .empty)
    (honest : world.Honest (.request name))
    (answered : (world.allocator.alloc name).1.outcome = .ok address) :
    ∃ tenant pool view arranged slab come base, world.Served (world.allocator.alloc name).2 name
      tenant pool view arranged address slab come base := by
  cases found : world.allocator.pools.find? name with
  | none =>
    rw [Allocator.alloc_settled (Allocator.seek_absent found)] at answered
    cases answered
  | some tenant =>
    obtain ⟨view, shows, -⟩ := sound.shown name tenant found
    cases ready : tenant.pool.ready with
    | false =>
      rw [Allocator.alloc_settled (Allocator.seek_unready found ready)] at answered
      cases answered
    | true =>
      by_cases attempted : view.attempt = none
      · obtain ⟨pool, arranged, block, taken, served⟩ :=
          sound.served_by_block quiet honest found shows ready attempted answered
        exact ⟨tenant, pool, view, arranged, block, some block, taken, served⟩
      · obtain ⟨pool, arranged, slab, served⟩ :=
          sound.served_at_once found shows ready attempted answered
        exact ⟨tenant, pool, view, arranged, slab, none, world.allocator, served⟩

/-! ## The element is taken back -/

namespace Served

variable (served : world.Served after name tenant pool view arranged address slab come base)
include served

theorem found : after.pools.find? name = some { tenant with pool := pool } := by
  rw [served.advances.pools]
  exact Table.find?_insert_self _ _ _

/-- The slab that served the request is one of the pool, and the element is one of its slots. -/
theorem owner : slab ∈ pool.bases ∧ Slab.IsSlot after.memory slab address := by
  obtain ⟨piece, member, rfl, live⟩ := served.dealt.owner
  have shown := served.advances.shown
  exact ⟨shown.base_of_piece member, (((shown.sound.held piece member).live_iff address).1 live).1⟩

/-- The pool is restored, and what came from its source is offered back. -/
theorem free (welcome : ∀ offer ∈ (base.offerAll tenant.source come.toList).1,
      offer.accepted = true) :
    ∃ freed : Freed, (after.free name address).1 = .ok () ∧
      (after.free name address).2.memory = freed.memory ∧
      (after.free name address).2.pools =
        after.pools.insert name { tenant with pool := freed.pool } ∧
      tenant.pool.Restored freed.pool world.allocator.memory freed.memory slab ∧
      (after.free name address).2.SameSupply (base.offerAll tenant.source come.toList).2 := by
  have shown := served.advances.shown
  obtain ⟨piece, fresh, left, freed, returned, taken, back, -⟩ :=
    shown.free_live ((served.dealt.live.2 address).2 (.inl rfl))
  -- What the pool retires is what it had carved for this element, so the source is offered just
  -- that.
  obtain ⟨gone, restored⟩ := served.shows.restored served.dealt served.counted
    (Tally.live_alloc _ _ _) shown taken returned back
  obtain ⟨offers, supply⟩ :=
    Allocator.offerAll_congr served.supply tenant.source freed.retired.toList
  obtain ⟨memory, pools⟩ := Sound.free_moved served.found taken
  have answer := Allocator.free_answer served.found taken
  have settled := (Allocator.free_supply served.found taken).trans supply
  rw [gone] at offers settled
  rw [gone, offers] at answer
  exact ⟨freed, answer welcome, memory, pools, restored, settled⟩

end Served

end World

namespace Estate

variable {estate : Estate} {name source : String} {address : Nat} {come : Option Nat}
  {base : Session}

/-- All is as it was before an element of a pool was handed out and taken back, but for counters
of requests and for the place of one slab and of its vacant slots. -/
structure Undone (before served last : Session) (name : String) (address : Nat) : Prop where
  /-- The one slab is that which served the request. -/
  pool : ∃ tenant middle next slab, before.pools.find? name = some tenant ∧
    served.pools.find? name = some middle ∧ last.pools.find? name = some next ∧
    slab ∈ middle.pool.bases ∧ Slab.IsSlot served.memory slab address ∧
    tenant.pool.Restored next.pool before.memory last.memory slab
  others : ∀ other, other ≠ name → last.pools.find? other = before.pools.find? other
  /-- Every block pool has the free blocks it had, in the order they were in. -/
  stock : SameStock before.sources last.sources
  /-- The same regions of the system are in use, so as many bytes of it. -/
  held : last.system.held = before.system.held

/-- An element that was just handed out is taken back, and that undoes all. -/
def Neutral (before : Session) (name : String) (address : Nat) : Prop :=
  let served := (before.alloc name).2
  (served.free name address).1 = .ok () ∧
    Undone before served (served.free name address).2 name address

/-! ## Nothing comes between -/

/-- No deed that is honest announces an interlude. -/
theorem perform_quiet {deed : Deed} (quiet : estate.session.interludes = .empty)
    (obeys : estate.Obeys deed) : (estate.perform deed).session.interludes = .empty := by
  have setUp (pool : BlockPool) (name : String) (count : Nat) :
      (estate.setUp name pool count).session.interludes = .empty := by
    unfold Estate.setUp Session.setUpBlocks
    cases pool.init estate.session.system count <;> exact quiet
  -- Interludes are announced by an `outside` act only, and no deed performs one.
  cases deed with
  | act act =>
    have plain (other : Allocator Supplier) : act ≠ .outside other := by
      rintro rfl
      exact obeys
    exact (estate.world.perform_interludes plain).trans quiet
  | openBlocks => exact quiet
  | setUpBlocks name count =>
    unfold perform
    cases found : estate.session.blockPool? name with
    | none =>
      simp only [found]
      exact quiet
    | some pool =>
      simp only [found]
      exact setUp pool name count
  | buildBlocks name blockSize count => exact setUp (.new blockSize) name count
  | buildPool name source elementSize config count =>
    unfold perform Session.setUpPool
    simp only
    split
    · next failed =>
      split at failed
      · cases failed
        exact quiet
      · cases failed
    · next done =>
      split at done
      · cases done
      · cases done
        exact quiet
  | closeBlocks name =>
    unfold perform
    cases found : estate.session.blockPool? name with
    | none =>
      simp only [found]
      exact quiet
    | some pool =>
      simp only [found]
      exact quiet
  | exchange => exact quiet

theorem run_quiet {deeds : List Deed} (quiet : estate.session.interludes = .empty)
    (honest : estate.HonestRun deeds) : (estate.run deeds).session.interludes = .empty := by
  induction deeds generalizing estate with
  | nil => exact quiet
  | cons deed rest ih => exact ih (perform_quiet quiet honest.1.2) honest.2

/-! ## Block pools -/

namespace Solvent

variable (solvent : estate.Solvent)
include solvent

/-- What a request drew from a block pool goes back where it came from. -/
theorem drew_back (honest : estate.Honest (.act (.request name)))
    (drew : World.Drew estate.session name source come base) :
    (∀ offer ∈ (base.offerAll source come.toList).1, offer.accepted = true) ∧
      SameStock estate.session.sources (base.offerAll source come.toList).2.sources ∧
      (base.offerAll source come.toList).2.system.held = estate.session.system.held := by
  cases drew with
  | nothing => exact ⟨(fun _ absurd => by cases absurd), .refl _, rfl⟩
  | block sought took =>
    obtain ⟨back, gave, stock, held⟩ :=
      solvent.funded.take_give took (granted_of_request honest sought)
    rw [Option.toList_some]
    unfold Allocator.offerAll
    simp only [gave]
    exact ⟨List.forall_mem_singleton.2 rfl, stock, held⟩

end Solvent

/-- **Handing out and taking back is neutral**, whichever slab serves the request and wherever
the block of a new one comes from. -/
theorem alloc_free_neutral (memory : Memory) (policy : Policy) {deeds : List Deed}
    (honest : (start memory policy).HonestRun deeds)
    (fair : ((start memory policy).run deeds).Honest (.act (.request name)))
    (answered : (((start memory policy).run deeds).session.alloc name).1.outcome = .ok address) :
    Neutral ((start memory policy).run deeds).session name address := by
  have solvent := (Solvent.start memory policy).run honest
  have quiet : ((start memory policy).run deeds).session.interludes = .empty :=
    run_quiet rfl honest
  obtain ⟨tenant, pool, view, arranged, slab, come, base, dealt⟩ :=
    solvent.sound.alloc_dealt quiet (solvent.fair_request fair) answered
  obtain ⟨welcome, stock, held⟩ := solvent.drew_back fair dealt.drew
  obtain ⟨freed, answer, kept, pools, restored, supply⟩ := dealt.free welcome
  rw [← kept] at restored
  rw [← supply.sources] at stock
  rw [← supply.system] at held
  refine ⟨answer, ⟨tenant, { tenant with pool := pool }, { tenant with pool := freed.pool }, slab,
    dealt.advances.found, dealt.found, ?_, dealt.owner.1, dealt.owner.2, restored⟩,
    fun other different => ?_, stock, held⟩
  · exact (congrArg (Table.find? · name) pools).trans (Table.find?_insert_self _ _ _)
  · refine (congrArg (Table.find? · other) pools).trans ?_
    rw [Table.find?_insert_of_ne _ _ different, dealt.advances.pools,
      Table.find?_insert_of_ne _ _ different]
    rfl

/-- Five pools on two block pools, one of which has no cache. The next element comes from a
resident slab, from the last slot of the first slab with room, from one of many slots of such a
slab, from a block of the cache, and from a block of the system that has one slot only. -/
def household : List Deed :=
  [.buildBlocks "stocked" 4096 3, .buildBlocks "bare" 4096 0,
    .buildPool "home" "stocked" 2000 .standard 2, .act (.request "home"),
    .buildPool "pair" "stocked" 2000 .standard 0, .act (.request "pair"),
    .act (.publish ⟨"pair", 17592186044416, 4096⟩),
    .buildPool "small" "stocked" 64 .standard 0, .act (.request "small"),
    .act (.publish ⟨"small", 17592186048512, 4096⟩),
    .buildPool "new" "stocked" 2000 .standard 0, .buildPool "single" "bare" 4032 .standard 0]

theorem alloc_free_neutral_household :
    let before := ((start .zeroed (.budgeted 131072)).run household).session
    Neutral before "home" 35184372103184 ∧ Neutral before "pair" 17592186046512 ∧
      Neutral before "small" 17592186048640 ∧ Neutral before "new" 17592186052704 ∧
      Neutral before "single" 52776558149696 := by
  have honest : (start .zeroed (.budgeted 131072)).HonestRun household := by decide +kernel
  have answers : ∀ call ∈ [("home", 35184372103184), ("pair", 17592186046512),
      ("small", 17592186048640), ("new", 17592186052704), ("single", 52776558149696)],
      ((start .zeroed (.budgeted 131072)).run household).Honest (.act (.request call.1)) ∧
        (((start .zeroed (.budgeted 131072)).run household).session.alloc call.1).1.outcome =
          .ok call.2 := by decide +kernel
  simp only [List.forall_mem_cons] at answers
  obtain ⟨home, pair, small, new, single, -⟩ := answers
  exact ⟨alloc_free_neutral _ _ honest home.1 home.2, alloc_free_neutral _ _ honest pair.1 pair.2,
    alloc_free_neutral _ _ honest small.1 small.2, alloc_free_neutral _ _ honest new.1 new.2,
    alloc_free_neutral _ _ honest single.1 single.2⟩

end Estate

end SlabAllocator
