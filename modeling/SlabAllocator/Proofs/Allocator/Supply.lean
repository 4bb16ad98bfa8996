import SlabAllocator.Proofs.Allocator.Holdings

/-! What acts do to sources and to the system. A request takes a block from its source or
leaves everything alone; other acts do no more than to offer blocks back, one after the
other. Set-up and end of a pool also ask the system, or give it a resident slab back. -/
namespace SlabAllocator

open ElementPool

variable {σ : Type} [BlockSource σ]

namespace Allocator

variable {allocator after : Allocator σ} {name source : String} {tenant : Tenant} {block : Nat}
  {fault : Fault}

omit [BlockSource σ] in
/-- Letting go of an element changes neither the sources nor the system. -/
theorem letGo_supply (allocator : Allocator σ) (name : String) (tenant : Tenant) (freed : Freed) :
    (allocator.letGo name tenant freed).SameSupply allocator :=
  ⟨rfl, rfl, rfl⟩

theorem SameSupply.of_failed (failed : allocator.takeBlock source = (.error fault, after)) :
    after.SameSupply allocator := by
  rw [takeBlock_failed failed]
  exact ⟨rfl, rfl, rfl⟩

/-- A request is answered without a source, or it takes one block. -/
theorem seek_supply (allocator : Allocator σ) (name : String) :
    (∃ outcome after, allocator.seek name = (.settled outcome, after) ∧
      after.SameSupply allocator) ∨
    ∃ source block after taken, allocator.seek name = (.awaiting source block, after) ∧
      allocator.takeBlock source = (.ok block, taken) ∧ after.SameSupply taken := by
  have ways := allocator.seek_cases name
  generalize allocator.seek name = begun at ways ⊢
  have drawn (tenant : Tenant) (next : ElementPool) (changed : Memory) :
      { allocator.setPool name tenant next with memory := changed }.SameSupply allocator :=
    ⟨rfl, rfl, rfl⟩
  cases ways with
  | refused fault => exact .inl ⟨_, _, rfl, rfl, rfl, rfl⟩
  | served found ready served => exact .inl ⟨_, _, rfl, rfl, rfl, rfl⟩
  | failed found ready drained failed =>
    exact .inl ⟨_, _, rfl, (SameSupply.of_failed failed).trans (drawn _ _ _)⟩
  | @awaits tenant next changed block after found ready drained took =>
    obtain ⟨answer, supply⟩ := takeBlock_congr (drawn tenant next changed) tenant.source
    rw [took] at answer supply
    exact .inr ⟨_, _, after, (allocator.takeBlock tenant.source).2, rfl, Prod.ext answer.symm rfl,
      supply⟩

/-- A pool that waits for a block was set up and draws on the source that is asked. -/
theorem seek_awaiting (sought : allocator.seek name = (.awaiting source block, after)) :
    ∃ tenant, allocator.pools.find? name = some tenant ∧ tenant.pool.ready = true ∧
      tenant.source = source := by
  have ways := allocator.seek_cases name
  rw [sought] at ways
  cases ways with
  | @awaits tenant next _ _ _ found ready drained took => exact ⟨tenant, found, ready, rfl⟩

/-- All that sources and system see of a release is the offer of the slab that goes. -/
theorem free_supply {freed : Freed} {address : Nat}
    (found : allocator.pools.find? name = some tenant)
    (taken : tenant.pool.free allocator.memory address = .ok freed) :
    (allocator.free name address).2.SameSupply
      (allocator.offerAll tenant.source freed.retired.toList).2 := by
  cases gone : freed.retired with
  | none =>
    rw [free_kept found taken gone]
    exact ⟨rfl, rfl, rfl⟩
  | some base =>
    have supply := (giveBlock_congr (allocator.letGo_supply name tenant freed) tenant.source base).2
    simp only [free_emptied found taken gone, Option.toList_some, offerAll]
    refine SameSupply.trans ?_ supply
    cases (allocator.letGo name tenant freed).giveBlock tenant.source base with
    | mk outcome last => cases outcome <;> exact ⟨rfl, rfl, rfl⟩

/-- A release that the pool carries out succeeds unless the slab that goes is refused. -/
theorem free_answer {freed : Freed} {address : Nat}
    (found : allocator.pools.find? name = some tenant)
    (taken : tenant.pool.free allocator.memory address = .ok freed)
    (accepted : ∀ offer ∈ (allocator.offerAll tenant.source freed.retired.toList).1,
      offer.accepted = true) : (allocator.free name address).1 = .ok () := by
  cases gone : freed.retired with
  | none => rw [free_kept found taken gone]
  | some base =>
    have answer := (giveBlock_congr (allocator.letGo_supply name tenant freed) tenant.source base).1
    simp only [gone, Option.toList_some, offerAll, List.mem_singleton, forall_eq] at accepted
    rw [← answer] at accepted
    rw [free_emptied found taken gone]
    cases gave : (allocator.letGo name tenant freed).giveBlock tenant.source base with
    | mk outcome last =>
      rw [gave] at accepted
      cases outcome with
      | error fault => cases accepted
      | ok _ => rfl

end Allocator

namespace World

variable {world : World σ} {act : Act σ}

/-- All that sources and system see of an act are its offers, one after the other. -/
def OffersOnly (world : World σ) (act : Act σ) : Prop :=
  ∃ source blocks, world.offers act = (world.allocator.offerAll source blocks).1 ∧
    (world.perform act).allocator.SameSupply (world.allocator.offerAll source blocks).2

namespace OffersOnly

theorem nothing (offered : world.offers act = [])
    (kept : (world.perform act).allocator.SameSupply world.allocator) : world.OffersOnly act :=
  ⟨"", [], offered, kept⟩

theorem publish (world : World σ) (window : Window) : world.OffersOnly (.publish window) := by
  cases found : world.allocator.pools.find? window.pool with
  | none =>
    refine nothing (by simp only [offers, found]) ?_
    simp only [World.perform, Allocator.publish_absent _ found]
    exact ⟨rfl, rfl, rfl⟩
  | some tenant =>
    cases made : tenant.pool.adopt? world.allocator.memory window.region.start with
    | some adopted =>
      refine nothing (by simp only [offers, found, made]) ?_
      simp only [World.perform, Allocator.publish_adopted found made]
      exact ⟨rfl, rfl, rfl⟩
    | none =>
      refine ⟨tenant.source, [window.region.start], by simp only [offers, found, made], ?_⟩
      simp only [World.perform, Allocator.publish_unfit found made, Allocator.offerAll]
      cases gave : world.allocator.giveBlock tenant.source window.region.start with
      | mk outcome after => cases outcome <;> exact ⟨rfl, rfl, rfl⟩

theorem release (world : World σ) (name : String) (address : Nat) :
    world.OffersOnly (.release name address) := by
  cases found : world.allocator.pools.find? name with
  | none =>
    refine nothing (by simp only [offers, found]) ?_
    simp only [World.perform, Allocator.free_absent address found]
    exact ⟨rfl, rfl, rfl⟩
  | some tenant =>
    cases taken : tenant.pool.free world.allocator.memory address with
    | error fault =>
      refine nothing (by simp only [offers, found, taken]) ?_
      simp only [World.perform, Allocator.free_rejected found taken]
      exact ⟨rfl, rfl, rfl⟩
    | ok freed =>
      exact ⟨tenant.source, freed.retired.toList, by simp only [offers, found, taken],
        Allocator.free_supply found taken⟩

theorem give (world : World σ) (loan : Loan) : world.OffersOnly (.give loan) := by
  refine ⟨loan.source, [loan.region.start], rfl, ?_⟩
  rw [allocator_give]
  exact ⟨rfl, rfl, rfl⟩

end OffersOnly

end World

end SlabAllocator
