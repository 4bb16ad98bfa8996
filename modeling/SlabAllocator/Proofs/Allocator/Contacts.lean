import SlabAllocator.Proofs.Allocator.Failures

/-! What a request says to sources. A source that refuses keeps no trace of having been asked,
so contacts are written down where sources are addressed: the body of a request is run with
asking and offering that keep a list, and without the list it is the request. Requests
served in the meantime speak for themselves. -/
namespace SlabAllocator

open ElementPool

variable {σ : Type}

/-- What is said to a source. -/
inductive Contact
  /-- It is asked for a block. -/
  | asks (source : String)
  /-- A block is offered back to it. -/
  | offers (source : String) (block : Nat)
  deriving DecidableEq, Repr

namespace Allocator

variable [BlockSource σ]

/-- Takes a block from a source, which is written down whatever the source answers. -/
def takeNoted (allocator : Allocator σ) (source : String) :
    StateM (List Contact) (Except Fault Nat × Allocator σ) := do
  modify fun contacts => contacts ++ [.asks source]
  pure (allocator.takeBlock source)

/-- Gives a block back to a source, which is written down whatever the source answers. -/
def giveNoted (allocator : Allocator σ) (source : String) (block : Nat) :
    StateM (List Contact) (Except Fault Unit × Allocator σ) := do
  modify fun contacts => contacts ++ [.offers source block]
  pure (allocator.giveBlock source block)

/-- Hands out an element of a pool and tells what was said to sources, oldest first. -/
def watched (allocator : Allocator σ) (name : String) : (Reply × Allocator σ) × List Contact :=
  (allocator.allocM takeNoted giveNoted
    (fun after source => pure (allocator.meanwhile after source)) name).run []

/-! ## Watching changes nothing -/

variable {allocator after : Allocator σ} {name source : String} {block : Nat} {tenant : Tenant}
  {next : ElementPool} {changed : Memory} {address : Nat}

theorem seekM_noted (allocator : Allocator σ) (name : String) (contacts : List Contact) :
    ((allocator.seekM takeNoted name).run contacts).1 = allocator.seek name := by
  unfold seek seekM
  cases allocator.pools.find? name with
  | none => rfl
  | some tenant =>
    simp only
    split
    · rfl
    · cases tenant.pool.attempt allocator.memory with
      | served address pool memory => rfl
      | drained pool memory =>
        let waiting := { allocator.setPool name tenant pool with memory := memory }
        simp only [takeNoted, Id.run, pure, bind]
        cases waiting.takeBlock tenant.source with
        | mk outcome after => cases outcome <;> rfl

theorem publishM_noted (allocator : Allocator σ) (name : String) (block : Nat)
    (contacts : List Contact) :
    ((allocator.publishM giveNoted name block).run contacts).1 = allocator.publish name block := by
  unfold publish publishM
  cases allocator.pools.find? name with
  | none => rfl
  | some tenant =>
    simp only
    cases tenant.pool.adopt? allocator.memory block with
    | some adopted => rfl
    | none =>
      simp only [giveNoted, Id.run, pure, bind]
      cases allocator.giveBlock tenant.source block with
      | mk outcome after => cases outcome <;> rfl

/-- A request that is watched goes like the request. -/
theorem watched_eq (allocator : Allocator σ) (name : String) :
    allocator.watched name =
      match (allocator.seekM takeNoted name).run [] with
      | ((.settled outcome, after), contacts) => ((.answered [] outcome, after), contacts)
      | ((.awaiting source block, after), contacts) =>
        let (replies, during) := allocator.meanwhile after source
        let ((outcome, last), contacts) := (during.publishM giveNoted name block).run contacts
        ((.answered replies outcome, last), contacts) := by
  unfold watched allocM
  simp only [StateT.run_bind]
  cases (allocator.seekM takeNoted name).run [] with
  | mk begun contacts =>
    obtain ⟨progress, after⟩ := begun
    cases progress <;> rfl

/-- A request that is watched is the request. -/
theorem watched_reply (allocator : Allocator σ) (name : String) :
    (allocator.watched name).1 = allocator.alloc name := by
  have sought := allocator.seekM_noted name []
  rw [watched_eq]
  cases reached : (allocator.seekM takeNoted name).run [] with
  | mk begun contacts =>
    rw [reached] at sought
    obtain ⟨progress, after⟩ := begun
    cases progress with
    | settled outcome => exact (alloc_settled sought.symm).symm
    | awaiting source block =>
      have published := (allocator.meanwhile after source).2.publishM_noted name block contacts
      rw [alloc_awaiting sought.symm, ← published]
      rfl

/-! ## What is said -/

/-- A request that is served from the slabs of its pool says nothing. -/
theorem watched_served (found : allocator.pools.find? name = some tenant)
    (ready : tenant.pool.ready = true)
    (attempted : tenant.pool.attempt allocator.memory = .served address next changed) :
    allocator.watched name = ((.answered [] (.ok address),
      { allocator.setPool name tenant next with memory := changed }.hand address), []) := by
  rw [watched_eq]
  unfold seekM
  simp only [found, ready, not_true_eq_false, ↓reduceIte, attempted]
  rfl

/-- A request that its pool cannot serve asks once. The block is not offered back, because it
becomes a slab. -/
theorem contacts_drained (found : allocator.pools.find? name = some tenant)
    (ready : tenant.pool.ready = true) (carves : tenant.pool.Carves)
    (attempted : tenant.pool.attempt allocator.memory = .drained next changed) :
    (allocator.watched name).2 = [.asks tenant.source] := by
  have asked : ((allocator.seekM takeNoted name).run []).2 = [.asks tenant.source] := by
    unfold seekM
    simp only [found, ready, not_true_eq_false, ↓reduceIte, attempted]
    let waiting := { allocator.setPool name tenant next with memory := changed }
    simp only [takeNoted, pure, bind]
    cases waiting.takeBlock tenant.source with
    | mk outcome after => cases outcome <;> rfl
  have same := allocator.seekM_noted name []
  rw [watched_eq]
  cases sought : (allocator.seekM takeNoted name).run [] with
  | mk begun contacts =>
    rw [sought] at asked same
    obtain ⟨progress, after⟩ := begun
    cases progress with
    | settled outcome => exact asked
    -- The block that arrived is adopted, so it is not handed back.
    | awaiting source block =>
      obtain ⟨later, adopted, present, made⟩ := seek_adopts found carves same.symm
      simp only [publishM, present, made]
      exact asked

/-- A request that needs a block has asked for it. -/
theorem seekM_awaiting (sought : allocator.seek name = (.awaiting source block, after)) :
    (allocator.seekM takeNoted name).run [] = ((.awaiting source block, after), [.asks source]) := by
  have ways := allocator.seek_cases name
  rw [sought] at ways
  cases ways with
  | awaits found ready drained took =>
    unfold seekM
    simp only [found, ready, drained, not_true_eq_false, ↓reduceIte]
    simp only [takeNoted, pure, bind, took]
    rfl

/-- A block that cannot become a slab is offered back. -/
theorem contacts_unfit (sought : allocator.seek name = (.awaiting source block, after))
    (present : (allocator.meanwhile after source).2.pools.find? name =
      some { tenant with pool := next })
    (unfit : next.adopt? (allocator.meanwhile after source).2.memory block = none) :
    (allocator.watched name).2 = [.asks source, .offers tenant.source block] := by
  rw [watched_eq, seekM_awaiting sought]
  simp only [publishM, present, unfit, giveNoted, pure, bind]
  cases (allocator.meanwhile after source).2.giveBlock tenant.source block with
  | mk outcome last => cases outcome <;> rfl

end Allocator

end SlabAllocator
