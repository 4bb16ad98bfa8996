import Mathlib.Data.List.Sort
import SlabAllocator.Proofs.Allocator.Gauges
import SlabAllocator.Proofs.Allocator.Supply
import SlabAllocator.Supplier

/-! The journal of a pool against its index. Whoever reads the entries for slabs that come
and go, from the making of the pool on, knows the index of the pool at every moment, in the
middle of requests as well. Other requests and releases leave no entry, and a release that
is an error of the caller leaves one. -/
namespace SlabAllocator

open ElementPool

/-! ## Reading a journal -/

/-- The entry tells of a slab that comes or goes. -/
def Event.OfSlab : Event → Prop
  | .slabCarved .. | .slabRetired _ => True
  | _ => False

/-- Entries of slabs are read, one after the other, into a list of ends: what is carved is
added and what is retired is removed. Nothing is added that is there, or removed that is not. -/
def replay (index : List Nat) : List Event → Option (List Nat)
  | [] => some index
  | .slabCarved finish _ :: rest =>
    if finish ∈ index then none else replay (index.orderedInsert (· ≤ ·) finish) rest
  | .slabRetired finish :: rest =>
    if finish ∈ index then replay (index.erase finish) rest else none
  | _ :: rest => replay index rest

/-- The entries at the level of traces. -/
def traces (events : List Event) : List Event :=
  events.filter fun event => event.level = .trace

/-- No entry tells of a slab that comes or goes. -/
def Quiet (events : List Event) : Prop :=
  ∀ event ∈ events, ¬ event.OfSlab

theorem Quiet.nil : Quiet [] :=
  fun _ absurd => by cases absurd

/-- What faults note down is not about slabs. -/
theorem Fault.quiet (fault : Fault) : Quiet fault.events := by
  cases fault <;> simp [Fault.events, Fault.event?, Quiet, Event.OfSlab]

theorem replay_quiet {events : List Event} (quiet : Quiet events) (index : List Nat) :
    replay index events = some index := by
  induction events with
  | nil => rfl
  | cons event rest ih =>
    have later := ih fun event member => quiet event (List.mem_cons_of_mem _ member)
    cases event with
    | slabCarved => exact absurd trivial (quiet _ List.mem_cons_self)
    | slabRetired => exact absurd trivial (quiet _ List.mem_cons_self)
    | _ => exact later

theorem replay_append (index : List Nat) (first second : List Event) :
    replay index (first ++ second) =
      (replay index first).bind fun index => replay index second := by
  induction first generalizing index with
  | nil => rfl
  | cons event rest ih =>
    cases event with
    | slabCarved finish capacity =>
      show (if finish ∈ index then none else replay _ (rest ++ second)) =
        (if finish ∈ index then none else replay _ rest).bind _
      split
      · rfl
      · exact ih _
    | slabRetired finish =>
      show (if finish ∈ index then replay _ (rest ++ second) else none) =
        (if finish ∈ index then replay _ rest else none).bind _
      split
      · exact ih _
      · rfl
    | _ => exact ih index

/-- Slabs that come and go are traced. -/
theorem replay_traces (index : List Nat) (events : List Event) :
    replay index (traces events) = replay index events := by
  induction events generalizing index with
  | nil => rfl
  | cons event rest ih =>
    cases event with
    | slabCarved finish capacity =>
      show (if finish ∈ index then none else replay _ (traces rest)) = _
      rw [ih]
      rfl
    | slabRetired finish =>
      show (if finish ∈ index then replay _ (traces rest) else none) = _
      rw [ih]
      rfl
    | _ => exact ih index

/-- The index of a pool is kept in order as any ascending list. -/
theorem insertEnd_eq {finish : Nat} {index : List Nat} (absent : finish ∉ index) :
    insertEnd finish index = index.orderedInsert (· ≤ ·) finish := by
  induction index with
  | nil => rfl
  | cons head rest ih =>
    rw [List.mem_cons, not_or] at absent
    unfold insertEnd
    rw [List.orderedInsert_cons, if_neg absent.1, ih absent.2]
    by_cases below : finish < head
    · rw [if_pos below, if_pos (Nat.le_of_lt below)]
    · rw [if_neg below, if_neg (by omega)]

/-! ## The index -/

namespace ElementPool

variable {pool next : ElementPool} {memory changed : Memory} {address : Nat}

theorem index_attempt (served : pool.attempt memory = .served address next changed) :
    next.index = pool.index := by
  cases served ▸ pool.attempt_cases memory with
  | resident | carved => exact pool.recounted_countAlloc.index
  | @parked base _ handed => exact (pool.park handed base).recounted_countAlloc.index

theorem index_init {system : System} {count : Nat} {setup : Setup}
    (made : pool.init memory system count = .ok setup) : setup.pool.index = pool.index := by
  obtain ⟨-, -, fitted⟩ := init_cases made
  cases fitted <;> rfl

theorem index_adopt? {block : Nat} {adopted : Adopted}
    (made : pool.adopt? memory block = some adopted) :
    adopted.pool.index = insertEnd adopted.finish pool.index := by
  obtain ⟨_, _, _, -, -, carved, -⟩ := adopt?_cases made
  rw [carved]
  exact (recounted_countAlloc _).index

/-- A slab that is found for an address is one of the index. -/
theorem owner?_mem {base : Nat} (owned : pool.owner? address = some base) :
    base + pool.blockSize ∈ pool.index := by
  unfold owner? at owned
  split at owned
  · cases owned
  · next finish first =>
    simp only at owned
    split at owned
    · cases owned
    · next inside =>
      cases owned
      rw [not_or] at inside
      rw [Nat.sub_add_cancel (by omega)]
      exact List.mem_of_find?_eq_some first

/-- An element that comes back leaves the index alone, or it removes the end of its slab. -/
theorem index_free {freed : Freed} (taken : pool.free memory address = .ok freed) :
    (freed.retired = none ∧ freed.pool.index = pool.index) ∨
      ∃ base, freed.retired = some base ∧ base + pool.blockSize ∈ pool.index ∧
        freed.pool.index = pool.index.erase (base + pool.blockSize) := by
  have counted := pool.recounted_countFree
  cases taken ▸ pool.free_cases memory address with
  | resident | reopened | stayed => exact .inl ⟨rfl, counted.index⟩
  | @emptied base _ _ owned =>
    refine .inr ⟨base, rfl, owner?_mem owned, ?_⟩
    show pool.countFree.index.erase (base + pool.countFree.blockSize) = _
    rw [counted.index, counted.blockSize]

/-- What a pool refuses, it refuses for the address it was given. -/
theorem fault_free {fault : Fault} (refused : pool.free memory address = .error fault) :
    fault = .foreignPointer address ∨ fault = .doubleFree address := by
  cases refused ▸ pool.free_cases memory address with
  | strange => exact .inl rfl
  | refused failed =>
    unfold Slab.free at failed
    simp only at failed
    split at failed
    · cases failed
      exact .inl rfl
    · split at failed
      · cases failed
        exact .inr rfl
      · cases failed

end ElementPool

/-! ## What operations note down -/

/-- What a source notes down when it hands out a block is not about slabs of pools. -/
def Discreet (σ : Type) [BlockSource σ] : Prop :=
  ∀ (supply : σ) (system : System) (taken : Taken σ),
    BlockSource.take supply system = .ok taken → Quiet taken.events

theorem Shelf.discreet : Discreet Shelf := by
  intro shelf system taken took
  simp only [BlockSource.take, Shelf.take] at took
  split at took
  · cases took
  · cases took
    exact .nil

theorem BlockPool.discreet : Discreet BlockPool := by
  intro pool system taken took
  simp only [BlockSource.take, BlockPool.alloc] at took
  split at took
  · cases took
  · split at took
    · cases took
      exact .nil
    · cases shaped : pool.blockLayout with
      | error fault =>
        rw [shaped] at took
        cases took
      | ok layout =>
        rw [shaped] at took
        cases granted : system.request layout with
        | error fault =>
          simp only [bind, Except.bind, granted] at took
          cases took
        | ok result =>
          simp only [bind, Except.bind, granted] at took
          cases took
          simp [Quiet, Event.OfSlab]

theorem Supplier.discreet : Discreet Supplier := by
  intro supplier system taken took
  cases supplier with
  | ofPool pool =>
    cases own : pool.alloc system with
    | error fault =>
      simp only [BlockSource.take, Supplier.take, own] at took
      cases took
    | ok its =>
      simp only [BlockSource.take, Supplier.take, own] at took
      cases took
      exact BlockPool.discreet pool system its own
  | ofShelf shelf =>
    cases own : shelf.take system with
    | error fault =>
      simp only [BlockSource.take, Supplier.take, own] at took
      cases took
    | ok its =>
      simp only [BlockSource.take, Supplier.take, own] at took
      cases took
      exact Shelf.discreet shelf system its own

namespace Allocator

variable {σ : Type} [BlockSource σ] {allocator after : Allocator σ} {name source : String}
  {tenant : Tenant} {block address : Nat}

/-- The journal has grown by these entries. -/
def Notes (allocator after : Allocator σ) (events : List Event) : Prop :=
  after.journal = allocator.journal ++ events

omit [BlockSource σ] in
theorem Notes.nothing (same : after.journal = allocator.journal) : allocator.Notes after [] :=
  same.trans (List.append_nil _).symm

theorem notes_takeBlock (discreet : Discreet σ) (allocator : Allocator σ) (source : String) :
    ∃ events, Quiet events ∧ allocator.Notes (allocator.takeBlock source).2 events := by
  rcases allocator.takeBlock_cases source with ⟨fault, answered⟩ | ⟨_, taken, -, took, answered⟩
  · rw [answered]
    exact ⟨_, Fault.quiet fault, rfl⟩
  · rw [answered]
    exact ⟨taken.events, discreet _ _ _ took, rfl⟩

theorem notes_giveBlock_ok (gave : allocator.giveBlock source block = (.ok (), after)) :
    after.journal = allocator.journal := by
  obtain ⟨_, _, -, -, rfl⟩ := giveBlock_ok gave
  rfl

theorem notes_seek (discreet : Discreet σ) (allocator : Allocator σ) (name : String) :
    ∃ events, Quiet events ∧ allocator.Notes (allocator.seek name).2 events := by
  have ways := allocator.seek_cases name
  generalize allocator.seek name = begun at ways ⊢
  cases ways with
  | refused fault => exact ⟨_, Fault.quiet fault, rfl⟩
  | served found ready served => exact ⟨[], .nil, .nothing rfl⟩
  | @failed tenant next changed fault after found ready drained took
  | @awaits tenant next changed block after found ready drained took =>
    let waiting := { allocator.setPool name tenant next with memory := changed }
    have noted := notes_takeBlock discreet waiting tenant.source
    rw [took] at noted
    exact noted

omit [BlockSource σ] in
theorem notes_initPool (allocator : Allocator σ) (name : String) (count : Nat) :
    ∃ events, Quiet events ∧ allocator.Notes (allocator.initPool name count).2 events := by
  rcases allocator.initPool_cases name count with ⟨fault, answered⟩ | ⟨_, _, -, -, answered⟩
  · rw [answered]
    exact ⟨_, Fault.quiet fault, rfl⟩
  · rw [answered]
    refine ⟨_, ?_, rfl⟩
    simp [Quiet, ElementPool.initEvents, Event.OfSlab]

/-- A block that becomes no slab is nothing to the journal but a fault. -/
theorem notes_publish_error {fault : Fault}
    (failed : allocator.publish name block = (.error fault, after)) :
    ∃ events, Quiet events ∧ allocator.Notes after events := by
  have ways := allocator.publish_cases name block
  rw [failed] at ways
  cases ways with
  | refused => exact ⟨_, Fault.quiet fault, rfl⟩
  | @unfit tenant last found unfit gave =>
    refine ⟨_, Fault.quiet tenant.pool.unfitBlock, ?_⟩
    rw [Notes, ← notes_giveBlock_ok gave]
    rfl

/-- What a pool does not take back is a fault to the journal. -/
theorem notes_free_error (refused : ∀ tenant, allocator.pools.find? name = some tenant →
      ∃ fault, tenant.pool.free allocator.memory address = .error fault) :
    ∃ events, Quiet events ∧ allocator.Notes (allocator.free name address).2 events := by
  cases found : allocator.pools.find? name with
  | none =>
    rw [free_absent address found]
    exact ⟨_, Fault.quiet _, rfl⟩
  | some tenant =>
    obtain ⟨fault, refused⟩ := refused tenant found
    rw [free_rejected found refused]
    exact ⟨_, Fault.quiet _, rfl⟩

/-- A request that a slab with room serves leaves no entry. -/
theorem alloc_served {next : ElementPool} {changed : Memory}
    (found : allocator.pools.find? name = some tenant) (ready : tenant.pool.ready = true)
    (served : tenant.pool.attempt allocator.memory = .served address next changed) :
    ∃ after, allocator.alloc name = (.answered [] (.ok address), after) ∧
      after.journal = allocator.journal := by
  exact ⟨_, alloc_settled (seek_served found ready served), rfl⟩

end Allocator

namespace World

variable {σ : Type} [BlockSource σ] {world born : World σ} {act : Act σ} {life : List (Act σ)}
  {name : String} {tenant : Tenant}

/-- What an act adds to the journal. -/
def noted (world : World σ) (act : Act σ) : List Event :=
  (world.perform act).allocator.journal.drop world.allocator.journal.length

/-- What the acts on one pool yield. -/
def own {β : Type} (name : String) (yield : World σ → Act σ → List β) (world : World σ)
    (act : Act σ) : List β :=
  if act.Concerns name then yield world act else []

theorem noted_eq {events : List Event}
    (notes : world.allocator.Notes (world.perform act).allocator events) :
    world.noted act = events := by
  unfold noted
  rw [notes, List.drop_left]

omit [BlockSource σ] in
theorem own_concerned {β : Type} {yield : World σ → Act σ → List β}
    (concerns : act.Concerns name) : world.own name yield act = yield world act :=
  if_pos concerns

omit [BlockSource σ] in
theorem own_aside {β : Type} {yield : World σ → Act σ → List β} (aside : ¬ act.Concerns name) :
    world.own name yield act = [] :=
  if_neg aside

/-! ## One act -/

theorem notes_request (discreet : Discreet σ) (world : World σ) (name : String) :
    ∃ events, Quiet events ∧
      world.allocator.Notes (world.perform (.request name)).allocator events := by
  obtain ⟨events, quiet, notes⟩ := Allocator.notes_seek discreet world.allocator name
  refine ⟨events, quiet, ?_⟩
  cases sought : world.allocator.seek name with
  | mk progress after =>
    rw [sought] at notes
    cases progress with
    | settled outcome =>
      rw [perform_request sought]
      exact notes
    | awaiting source block =>
      rw [perform_awaiting sought]
      exact notes

/-- A block that becomes a slab leaves one entry. -/
theorem notes_carve {window : Window} {adopted : Adopted}
    (found : world.allocator.pools.find? window.pool = some tenant)
    (made : tenant.pool.adopt? world.allocator.memory window.region.start = some adopted) :
    world.allocator.Notes (world.perform (.publish window)).allocator
      [.slabCarved adopted.finish adopted.capacity] := by
  rw [perform_publish world window (Allocator.publish_adopted found made)]
  rfl

/-- A slab that goes to its source leaves one entry, and otherwise nothing is noted down. -/
theorem notes_release {address : Nat} {freed : Freed}
    (found : world.allocator.pools.find? name = some tenant)
    (taken : tenant.pool.free world.allocator.memory address = .ok freed)
    (accepted : ∀ offer ∈ world.offers (.release name address), offer.accepted = true) :
    (world.allocator.free name address).1 = .ok () ∧
      world.allocator.Notes (world.perform (.release name address)).allocator
        (freed.retired.toList.map fun base => .slabRetired (base + tenant.pool.blockSize)) := by
  show _ ∧ world.allocator.Notes (world.allocator.free name address).2 _
  cases gone : freed.retired with
  | none =>
    rw [Allocator.free_kept found taken gone]
    exact ⟨rfl, .nothing rfl⟩
  | some base =>
    -- The source sees the block once the pool has let go, and answers as it would have before.
    have answer := (Allocator.giveBlock_congr (world.allocator.letGo_supply name tenant freed)
      tenant.source base).1
    have offered : world.offers (.release name address) =
        (world.allocator.offerAll tenant.source [base]).1 := by
      simp only [offers, found, taken, gone, Option.toList_some]
    have taking := accepted
      ⟨tenant.source, base, (world.allocator.giveBlock tenant.source base).1⟩ (by
        rw [offered]
        exact List.mem_singleton_self _)
    rw [Allocator.free_emptied found taken gone]
    cases gave : (world.allocator.letGo name tenant freed).giveBlock tenant.source base with
    | mk outcome last =>
      rw [gave] at answer
      rw [← answer] at taking
      cases outcome with
      | error fault => cases taking
      | ok _ =>
        refine ⟨rfl, ?_⟩
        rw [Allocator.Notes]
        show last.journal ++ _ = _
        rw [Allocator.notes_giveBlock_ok gave]
        rfl

/-- An act on a pool that does not move leaves no entry for slabs. -/
theorem notes_rests (discreet : Discreet σ) (honest : world.Honest act)
    (found : world.allocator.pools.find? name = some tenant) (concerns : act.Concerns name)
    (lasting : act ≠ .drop name) (out : countOf name (world.handouts act) = 0)
    (back : countOf name (world.returns act) = 0) :
    ∃ events, Quiet events ∧ world.allocator.Notes (world.perform act).allocator events := by
  cases act with
  | create other source blockSize elementSize config => exact ⟨[], .nil, .nothing rfl⟩
  | setUp other count => exact Allocator.notes_initPool world.allocator other count
  | request other => exact notes_request discreet world other
  | publish window =>
    obtain rfl : window.pool = name := concerns
    unfold handouts at out
    rw [countOf_entries] at out
    cases published : world.allocator.publish window.pool window.region.start with
    | mk outcome after =>
      rw [perform_publish world window published]
      cases outcome with
      | error fault => exact Allocator.notes_publish_error published
      | ok address =>
        rw [published, if_pos ⟨rfl, rfl⟩] at out
        cases out
  | release other address =>
    obtain rfl : other = name := concerns
    refine Allocator.notes_free_error fun owner its => ?_
    cases taken : owner.pool.free world.allocator.memory address with
    | error fault => exact ⟨fault, rfl⟩
    | ok freed =>
      have accepted : world.accepts other address = true := by
        simp only [accepts, pool?, its, Option.map_some, taken]
      rw [returns_accepted accepted] at back
      exact absurd ((countOf_single other other address).symm.trans back) (by simp)
  | drop other => exact absurd (congrArg Act.drop concerns) lasting
  | write => cases concerns
  | take => cases concerns
  | give => cases concerns
  | outside => cases concerns

namespace Sound

/-- The end of a new slab is new in the index. -/
theorem end_absent {window : Window} {adopted : Adopted} (sound : world.Sound)
    (member : window ∈ world.windows)
    (found : world.allocator.pools.find? window.pool = some tenant)
    (made : tenant.pool.adopt? world.allocator.memory window.region.start = some adopted) :
    adopted.finish ∉ tenant.pool.index := by
  obtain ⟨view, shows, -⟩ := sound.shown window.pool tenant found
  rcases sound.publish_cases member found shows with ⟨unfit, -⟩ |
    ⟨its, arranged, after, also, -, -, -, placed, shown, -⟩
  · rw [made] at unfit
    cases unfit
  · obtain rfl : adopted = its := Option.some.inj (made.symm.trans also)
    intro present
    -- The index would not get longer, but the pool has a slab more.
    have within : adopted.pool.index ⊆ tenant.pool.index := by
      intro finish listed
      rw [index_adopt? made, mem_insertEnd] at listed
      rcases listed with rfl | old
      · exact present
      · exact old
    have once : adopted.pool.index.Nodup := shown.ascending.imp Nat.ne_of_lt
    have short := (once.subperm within).length_le
    have longer := View.length_carved_of_adopt placed
    rw [← shows.slabCount_eq, ← shown.slabCount_eq] at longer
    unfold slabCount at longer
    omega

/-- Whoever knows the index and reads what the next act on the pool notes down knows it then. -/
theorem notes_step (sound : world.Sound) (discreet : Discreet σ) (honest : world.Honest act)
    (found : world.allocator.pools.find? name = some tenant) (lasting : act ≠ .drop name)
    (accepted : ∀ offer ∈ world.own name offers act, offer.accepted = true) :
    ∃ next, (world.perform act).allocator.pools.find? name = some { tenant with pool := next } ∧
      (act.Concerns name → ∃ events, replay tenant.pool.index events = some next.index ∧
        world.allocator.Notes (world.perform act).allocator events) ∧
      (¬ act.Concerns name → next.index = tenant.pool.index) := by
  obtain ⟨next, moved, treats⟩ := sound.lasts honest found lasting
  refine ⟨next, moved, fun concerns => ?_, fun aside => ?_⟩
  · have quietly (notes : ∃ events, Quiet events ∧
          world.allocator.Notes (world.perform act).allocator events) :
        ∃ events, replay tenant.pool.index events = some tenant.pool.index ∧
          world.allocator.Notes (world.perform act).allocator events := by
      obtain ⟨events, quiet, notes⟩ := notes
      exact ⟨events, replay_quiet quiet _, notes⟩
    cases treats with
    | rests out back =>
      exact quietly (notes_rests discreet honest found concerns lasting out back)
    | setsUp its made =>
      subst its
      rw [index_init made]
      exact quietly (Allocator.notes_initPool world.allocator name _)
    | serves its out attempted =>
      subst its
      rw [index_attempt attempted]
      exact quietly (notes_request discreet world name)
    | carves its member mine out made =>
      subst its mine
      have absent := sound.end_absent member found made
      refine ⟨_, ?_, notes_carve found made⟩
      rw [index_adopt? made, insertEnd_eq absent]
      exact if_neg absent
    | takesBack its back taken =>
      subst its
      rw [own_concerned concerns] at accepted
      refine ⟨_, ?_, (notes_release found taken accepted).2⟩
      rcases index_free taken with ⟨gone, same⟩ | ⟨base, gone, present, removed⟩
      · rw [gone, same]
        rfl
      · rw [gone, removed]
        exact if_pos present
  · cases treats with
    | rests => rfl
    | setsUp its made => exact absurd (by rw [its]; rfl) aside
    | serves its out attempted => exact absurd (by rw [its]; rfl) aside
    | carves its member mine out made => exact absurd (by rw [its]; exact mine) aside
    | takesBack its back taken => exact absurd (by rw [its]; rfl) aside

end Sound

/-! ## A run -/

/-- The journal of a pool that was made just before `born`. -/
structure Journaled (born : World σ) (life : List (Act σ)) (name : String) : Prop where
  /-- Whoever reads the traces of the pool knows its index, at every moment. Every end that is
  added was absent and every end that is removed was there. -/
  replayed : ∀ before, before <+: life → ∃ tenant,
    (born.run before).allocator.pools.find? name = some tenant ∧
      replay [] (traces (born.along (own name noted) before)) = some tenant.pool.index
  /-- What was noted down before stays. -/
  appended : ∀ before act, before ++ [act] <+: life → act.Concerns name →
    ((born.run before).perform act).allocator.journal =
      (born.run before).allocator.journal ++ (born.run before).noted act
  /-- A request served by the resident slab or the first slab with room leaves no entry. -/
  served : ∀ before, before <+: life → ∀ tenant,
    (born.run before).allocator.pools.find? name = some tenant → tenant.pool.ready = true →
    ∀ address next changed,
      tenant.pool.attempt (born.run before).allocator.memory = .served address next changed →
      ∃ after, (born.run before).allocator.alloc name = (.answered [] (.ok address), after) ∧
        after.journal = (born.run before).allocator.journal
  /-- Nor does a release after which no slab goes away. -/
  kept : ∀ before, before <+: life → ∀ tenant,
    (born.run before).allocator.pools.find? name = some tenant → ∀ address freed,
      tenant.pool.free (born.run before).allocator.memory address = .ok freed →
      freed.retired = none →
      ∃ after, (born.run before).allocator.free name address = (.ok (), after) ∧
        after.journal = (born.run before).allocator.journal
  /-- A foreign address is noted down once, as an error. -/
  foreign : ∀ before address other, before ++ [.release name address] <+: life →
    ((born.run before).allocator.free name address).1 = .error (.foreignPointer other) →
      other = address ∧ (born.run before).noted (.release name address) = [.foreignFree address] ∧
        (Event.foreignFree address).level = .error
  /-- So is one that is given back twice. -/
  repeated : ∀ before address other, before ++ [.release name address] <+: life →
    ((born.run before).allocator.free name address).1 = .error (.doubleFree other) →
      other = address ∧ (born.run before).noted (.release name address) = [.repeatedFree address] ∧
        (Event.repeatedFree address).level = .error

/-- An answer that blames the caller for an address is noted down with this address. -/
theorem noted_fault {address : Nat} {fault : Fault}
    (found : world.allocator.pools.find? name = some tenant)
    (accepted : ∀ offer ∈ world.offers (.release name address), offer.accepted = true)
    (answer : (world.allocator.free name address).1 = .error fault) :
    (fault = .foreignPointer address ∨ fault = .doubleFree address) ∧
      world.noted (.release name address) = fault.events := by
  cases taken : tenant.pool.free world.allocator.memory address with
  | ok freed =>
    rw [(notes_release found taken accepted).1] at answer
    cases answer
  | error other =>
    have refused := Allocator.free_rejected found taken
    rw [refused] at answer
    cases answer
    refine ⟨fault_free taken, noted_eq ?_⟩
    show world.allocator.Notes (world.allocator.free name address).2 _
    rw [refused]
    rfl

/-- A pool that was just made. The run that follows does not end it, and its source takes
back every block that it offers. -/
structure Raised (born : World σ) (life : List (Act σ)) (name : String) : Prop where
  sound : born.Sound
  honest : born.HonestRun life
  fresh : ∃ source blockSize elementSize config,
    born.allocator.pools.find? name = some ⟨.new blockSize elementSize config, source⟩
  lasting : .drop name ∉ life
  accepted : ∀ offer ∈ born.along (own name offers) life, offer.accepted = true

namespace Raised

theorem earlier {first : List (Act σ)} (raised : born.Raised life name) (short : first <+: life) :
    born.Raised first name := by
  obtain ⟨rest, rfl⟩ := short
  obtain ⟨sound, honest, fresh, lasting, accepted⟩ := raised
  rw [along_append] at accepted
  exact ⟨sound, (honestRun_append honest).1, fresh,
    fun ends => lasting (List.mem_append_left _ ends),
    fun offer member => accepted offer (List.mem_append_left _ member)⟩

/-- The last act of the run. -/
theorem last (raised : born.Raised (life ++ [act]) name) :
    (born.run life).Sound ∧ (born.run life).Honest act ∧ act ≠ .drop name ∧
      ∀ offer ∈ (born.run life).own name offers act, offer.accepted = true := by
  obtain ⟨sound, honest, -, lasting, accepted⟩ := raised
  obtain ⟨early, now, -⟩ := honestRun_append honest
  rw [along_concat] at accepted
  refine ⟨sound.run early, now, ?_, fun offer member =>
    accepted offer (List.mem_append_right _ member)⟩
  rintro rfl
  exact lasting (List.mem_append_right _ (List.mem_singleton_self _))

/-- The pool is there, and its index is known. -/
theorem replayed (raised : born.Raised life name) (discreet : Discreet σ) :
    ∃ tenant, (born.run life).allocator.pools.find? name = some tenant ∧
      replay [] (born.along (own name noted) life) = some tenant.pool.index := by
  induction life using List.reverseRecOn with
  | nil =>
    obtain ⟨_, _, _, _, fresh⟩ := raised.fresh
    exact ⟨_, fresh, rfl⟩
  | append_singleton life act ih =>
    obtain ⟨tenant, found, known⟩ := ih (raised.earlier (List.prefix_append life [act]))
    obtain ⟨sound, now, lasts, accepting⟩ := raised.last
    obtain ⟨next, moved, concerned, aside⟩ := sound.notes_step discreet now found lasts accepting
    rw [run_concat]
    refine ⟨_, moved, ?_⟩
    rw [along_concat, replay_append, known]
    show replay tenant.pool.index _ = some next.index
    by_cases concerns : act.Concerns name
    · obtain ⟨events, read, notes⟩ := concerned concerns
      rw [own_concerned concerns, noted_eq notes]
      exact read
    · rw [own_aside concerns, aside concerns]
      rfl

/-- A release that is refused blames the address, and that is what is noted down. -/
theorem blamed {address : Nat} {fault : Fault}
    (raised : born.Raised (life ++ [.release name address]) name) (discreet : Discreet σ)
    (answer : ((born.run life).allocator.free name address).1 = .error fault) :
    (fault = .foreignPointer address ∨ fault = .doubleFree address) ∧
      (born.run life).noted (.release name address) = fault.events := by
  obtain ⟨tenant, found, -⟩ := (raised.earlier (List.prefix_append life [_])).replayed discreet
  obtain ⟨-, -, -, accepting⟩ := raised.last
  have concerns : (Act.release name address : Act σ).Concerns name := rfl
  rw [own_concerned concerns] at accepting
  exact noted_fault found accepting answer

end Raised

/-- **The journal is faithful.** The traces of a pool, from its making on, tell its index as
long as its source takes back the blocks that the pool offers. Requests served by slabs
with room leave no entry, nor do releases after which no slab goes away, and a release that
is refused leaves one error with its address. -/
theorem journal_faithful {allocator : Allocator σ} {earlier : List (Act σ)} {source : String}
    {blockSize elementSize : Nat} {config : Config} (discreet : Discreet σ)
    (honest : (World.start allocator).HonestRun
      (earlier ++ .create name source blockSize elementSize config :: life))
    (lasting : .drop name ∉ life)
    (accepted : ∀ offer ∈ (((World.start allocator).run earlier).perform
      (.create name source blockSize elementSize config)).along (own name offers) life,
      offer.accepted = true) :
    (((World.start allocator).run earlier).perform
      (.create name source blockSize elementSize config)).Journaled life name := by
  obtain ⟨before, made, later⟩ := honestRun_append honest
  have birth := ((Sound.start allocator).run before).perform made
  have fresh : (((World.start allocator).run earlier).perform (.create name source blockSize
      elementSize config)).allocator.pools.find? name =
        some ⟨.new blockSize elementSize config, source⟩ := Table.find?_insert_self _ _ _
  generalize ((World.start allocator).run earlier).perform
    (.create name source blockSize elementSize config) = born at *
  have raised : born.Raised life name := ⟨birth, later, ⟨_, _, _, _, fresh⟩, lasting, accepted⟩
  refine ⟨fun before short => ?_, fun before act short concerns => ?_,
    fun before short tenant found ready address next changed => Allocator.alloc_served found ready,
    fun before short tenant found address freed taken kept => ?_,
    fun before address other short answer => ?_, fun before address other short answer => ?_⟩
  · obtain ⟨tenant, found, read⟩ := (raised.earlier short).replayed discreet
    exact ⟨tenant, found, (replay_traces _ _).trans read⟩
  · have raised := raised.earlier short
    obtain ⟨sound, now, stays, accepting⟩ := raised.last
    obtain ⟨tenant, found, -⟩ :=
      (raised.earlier (List.prefix_append before [act])).replayed discreet
    obtain ⟨_, -, concerned, -⟩ := sound.notes_step discreet now found stays accepting
    obtain ⟨events, -, notes⟩ := concerned concerns
    rw [noted_eq notes]
    exact notes
  · exact ⟨_, Allocator.free_kept found taken kept, rfl⟩
  · obtain ⟨blame, notes⟩ := (raised.earlier short).blamed discreet answer
    rcases blame with same | absurd
    · cases same
      exact ⟨rfl, notes, rfl⟩
    · cases absurd
  · obtain ⟨blame, notes⟩ := (raised.earlier short).blamed discreet answer
    rcases blame with absurd | same
    · cases absurd
    · cases same
      exact ⟨rfl, notes, rfl⟩

/-- Two requests of the wide pool overlap and a third one finds room. A slab is emptied, an
address comes back twice, and one is nobody's. -/
def bustle : List (Act Shelf) :=
  [.setUp "wide" 1, .request "wide", .request "wide", .request "wide",
    .publish ⟨"wide", 69632, 4096⟩, .publish ⟨"wide", 65536, 4096⟩, .request "wide",
    .release "wide" 69728, .release "wide" 65632, .release "wide" 65632, .release "wide" 77824]

theorem journal_faithful_bustle :
    (workshop.run (.create "wide" "shelf" 4096 2000 .standard :: bustle)).allocator.journal =
        [.elementPoolReady 2000 1 4096, .slabCarved 73728 2, .slabCarved 69632 2,
          .slabRetired 73728, .repeatedFree 65632, .foreignFree 77824] ∧
      (workshop.perform (.create "wide" "shelf" 4096 2000 .standard)).Journaled bustle "wide" := by
  have same : workshop = World.start workshop.allocator := rfl
  -- The run is evaluated once for all that is to be known of it.
  obtain ⟨honest, accepted, journal⟩ : workshop.HonestRun
        ([] ++ .create "wide" "shelf" 4096 2000 .standard :: bustle) ∧
      (∀ offer ∈ (workshop.perform (.create "wide" "shelf" 4096 2000 .standard)).along
        (own "wide" offers) bustle, offer.accepted = true) ∧
      (workshop.run (.create "wide" "shelf" 4096 2000 .standard :: bustle)).allocator.journal =
        [.elementPoolReady 2000 1 4096, .slabCarved 73728 2, .slabCarved 69632 2,
          .slabRetired 73728, .repeatedFree 65632, .foreignFree 77824] := by decide +kernel
  refine ⟨journal, ?_⟩
  rw [same] at honest accepted ⊢
  exact journal_faithful Shelf.discreet honest (by simp [bustle]) accepted

end World

end SlabAllocator
