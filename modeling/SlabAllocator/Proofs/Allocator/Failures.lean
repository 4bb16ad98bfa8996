import SlabAllocator.Proofs.Allocator.Footprint
import SlabAllocator.Proofs.Allocator.Ledger
import SlabAllocator.Proofs.Allocator.Measures
import SlabAllocator.Proofs.Allocator.Supply
import SlabAllocator.Proofs.Course

/-! Where calls can fail. A request can only fail before it has changed anything: once a
source has handed over a block, the block becomes a slab. A release is refused before anything
is written, unless a slab goes away with it and the source does not want its block. -/
namespace SlabAllocator

open ElementPool

variable {σ : Type}

/-! ## Blocks become slabs -/

namespace ElementPool

/-- A block of the size this pool draws becomes a slab, wherever it lies. -/
structure Carves (pool : ElementPool) : Prop where
  size : wordBytes ≤ pool.elementSize
  words : pool.elementSize % wordBytes = 0 ∧ pool.blockSize % wordBytes = 0
  room : Slab.headerBytes + pool.elementSize ≤ pool.blockSize
  bounded : pool.blockSize < wordLimit

variable {pool next : ElementPool}

theorem Carves.of_same (carves : pool.Carves) (same : pool.Same next) : next.Carves := by
  obtain ⟨size, words, room, bounded⟩ := carves
  constructor
  · rwa [same.elementSize]
  · rwa [same.elementSize, same.blockSize]
  · rwa [same.elementSize, same.blockSize]
  · rwa [same.blockSize]

theorem Carves.adopt? (carves : pool.Carves) (memory : Memory) (block : Nat) :
    ∃ formatted changed adopted,
      Slab.format? memory block pool.blockSize pool.elementSize = some formatted ∧
        pool.adopt? memory block = some adopted ∧
        Slab.alloc? formatted block = some (adopted.address, changed) := by
  have positive : 0 < pool.elementSize := Nat.lt_of_lt_of_le (by decide) carves.size
  obtain ⟨formatted, made⟩ :=
    (Slab.exists_format?_iff memory block pool.blockSize pool.elementSize).2
      ⟨positive, carves.words.1, carves.words.2, carves.room⟩
  obtain ⟨⟨first, taken⟩, handed⟩ := Slab.format?_alloc? made carves.bounded
  exact ⟨formatted, taken, _, made, adopt?_made made handed, handed⟩

/-- A pool that is set up carves its blocks if they are whole words. -/
theorem Measured.carves (measured : pool.Measured) (ready : pool.ready = true)
    (whole : pool.blockSize % wordBytes = 0) (bounded : pool.blockSize < wordLimit) :
    pool.Carves := by
  obtain ⟨positive, room⟩ := measured.fits ready
  have words := measured.words (by
    unfold Slab.headerBytes at room
    omega)
  refine ⟨?_, ⟨words, whole⟩, room, bounded⟩
  exact Nat.le_of_dvd positive (Nat.dvd_of_mod_eq_zero words)

/-- A slab that lost its last element is forgotten. -/
theorem retire_of_free {memory : Memory} {freed : Freed} {address base : Nat}
    (taken : pool.free memory address = .ok freed) (gone : freed.retired = some base) :
    ∃ released, Slab.free memory base address = .ok (.emptied, released) ∧
      freed.pool = (pool.countFree.retire released base).toElementPool ∧
      freed.memory = (pool.countFree.retire released base).memory := by
  cases taken ▸ pool.free_cases memory address with
  | resident | reopened | stayed => cases gone
  | emptied beside owned emptied =>
    cases gone
    exact ⟨_, emptied, rfl, rfl⟩

end ElementPool

namespace Allocator

/-! ## Pools stay -/

/-- Every pool is still there, with the sizes it had. -/
def Continues (allocator after : Allocator σ) : Prop :=
  ∀ name tenant, allocator.pools.find? name = some tenant →
    ∃ next, after.pools.find? name = some { tenant with pool := next } ∧ tenant.pool.Same next

namespace Continues

variable {allocator middle after : Allocator σ} {name : String} {tenant : Tenant}
  {next : ElementPool}

theorem of_eq (pools : after.pools = allocator.pools) : allocator.Continues after := by
  intro name tenant found
  rw [pools]
  exact ⟨tenant.pool, found, .refl _⟩

theorem trans (first : allocator.Continues middle) (second : middle.Continues after) :
    allocator.Continues after := by
  intro name tenant found
  obtain ⟨next, here, same⟩ := first name tenant found
  obtain ⟨last, there, also⟩ := second name _ here
  exact ⟨last, there, same.trans also⟩

/-- One pool moves on. -/
theorem of_insert (found : allocator.pools.find? name = some tenant)
    (pools : after.pools = allocator.pools.insert name { tenant with pool := next })
    (same : tenant.pool.Same next) : allocator.Continues after := by
  intro other owner present
  rw [pools]
  by_cases here : other = name
  · subst here
    rw [found] at present
    cases present
    exact ⟨next, Table.find?_insert_self _ _ _, same⟩
  · exact ⟨owner.pool, by rwa [Table.find?_insert_of_ne _ _ here], .refl _⟩

end Continues

variable [BlockSource σ]

theorem seek_continues (allocator : Allocator σ) (name : String) :
    allocator.Continues (allocator.seek name).2 := by
  have ways := allocator.seek_cases name
  generalize allocator.seek name = begun at ways ⊢
  cases ways with
  | refused fault => exact .of_eq rfl
  | served found ready served => exact .of_insert found rfl (same_attempt served)
  | @failed tenant next changed fault after found ready drained took
  | @awaits tenant next changed block after found ready drained took =>
    let waiting := { allocator.setPool name tenant next with memory := changed }
    have moved : allocator.Continues waiting :=
      .of_insert found rfl (drained_counted drained).same
    have kept := (waiting.takeBlock_same tenant.source).2
    rw [took] at kept
    exact moved.trans (.of_eq kept)

theorem publish_continues (allocator : Allocator σ) (name : String) (block : Nat) :
    allocator.Continues (allocator.publish name block).2 := by
  have ways := allocator.publish_cases name block
  generalize allocator.publish name block = ended at ways ⊢
  cases ways with
  | refused fault => exact .of_eq rfl
  | adopted found made => exact .of_insert found rfl (same_adopt? made)
  | @unfit tenant after found unfit gave =>
    have kept := (allocator.giveBlock_same tenant.source block).2
    rw [gave] at kept
    exact .of_eq kept

/-- Requests served in the meantime let pools be. -/
def Gentle (serve : Serve σ) : Prop :=
  ∀ (allocator : Allocator σ) interlude, allocator.Continues (serve allocator interlude).2

variable {serve : Serve σ}

omit [BlockSource σ] in
theorem runInterlude_continues (gentle : Gentle serve) (allocator : Allocator σ)
    (source : String) : allocator.Continues (allocator.runInterlude serve source).2 := by
  unfold runInterlude
  cases allocator.interludes.find? source with
  | none => exact .of_eq rfl
  | some interlude =>
    have begun : allocator.Continues
      { allocator with interludes := allocator.interludes.erase source } := .of_eq rfl
    exact begun.trans (gentle _ interlude)

theorem allocWith_continues (gentle : Gentle serve) (allocator : Allocator σ) (name : String) :
    allocator.Continues (allocWith serve allocator name).2 := by
  have sought := allocator.seek_continues name
  rw [allocWith_eq]
  cases reached : allocator.seek name with
  | mk progress after =>
    rw [reached] at sought
    cases progress with
    | settled outcome => exact sought
    | awaiting source block =>
      exact (sought.trans (runInterlude_continues gentle after source)).trans
        (publish_continues _ name block)

omit [BlockSource σ] in
theorem repeated_continues {request : Allocator σ → Reply × Allocator σ}
    (each : ∀ allocator : Allocator σ, allocator.Continues (request allocator).2) (count : Nat)
    (allocator : Allocator σ) : allocator.Continues (repeated request count allocator).2 := by
  induction count generalizing allocator with
  | zero => exact .of_eq rfl
  | succ count ih => exact (each allocator).trans (ih _)

/-- However deep requests nest, they let pools be. -/
theorem gentle_serveAt (depth : Nat) : Gentle (serveAt depth : Serve σ) := by
  induction depth with
  | zero => exact fun _ _ => .of_eq rfl
  | succ depth ih =>
    intro allocator interlude
    refine repeated_continues ?_ interlude.count allocator
    intro during
    rw [allocAt_eq]
    exact allocWith_continues ih during interlude.pool

section awaiting

variable {allocator after : Allocator σ} {name source : String} {tenant : Tenant} {block : Nat}

/-- A pool that waits for a block stays, whatever is served in the meantime. -/
theorem awaiting_continues (sought : allocator.seek name = (.awaiting source block, after)) :
    allocator.Continues (allocator.meanwhile after source).2 := by
  have kept := allocator.seek_continues name
  rw [sought] at kept
  exact kept.trans (runInterlude_continues (gentle_serveAt _) after source)

/-- The block a pool waits for becomes a slab, whatever is served in the meantime. -/
theorem seek_adopts (found : allocator.pools.find? name = some tenant)
    (carves : tenant.pool.Carves)
    (sought : allocator.seek name = (.awaiting source block, after)) :
    ∃ next adopted, (allocator.meanwhile after source).2.pools.find? name =
        some { tenant with pool := next } ∧
      next.adopt? (allocator.meanwhile after source).2.memory block = some adopted := by
  -- The pool may have been served in the meantime, but it still carves blocks of its size.
  obtain ⟨next, present, same⟩ := awaiting_continues sought name tenant found
  obtain ⟨-, -, adopted, -, made, -⟩ := (carves.of_same same).adopt? _ block
  exact ⟨next, adopted, present, made⟩

end awaiting

/-! ## Release -/

variable {allocator after : Allocator σ} {name : String} {address : Nat} {fault : Fault}

/-- Without an accepted element nothing changes. When a slab goes away, all that is left to go
wrong is its return. -/
theorem free_failed (failed : allocator.free name address = (.error fault, after)) :
    after = allocator.note fault.events ∨
      ∃ tenant freed base, allocator.pools.find? name = some tenant ∧
        tenant.pool.free allocator.memory address = .ok freed ∧ freed.retired = some base ∧
        (allocator.giveBlock tenant.source base).1 = .error fault ∧
        after = Allocator.note { allocator.setPool name tenant freed.pool with
          memory := freed.memory } fault.events := by
  cases found : allocator.pools.find? name with
  | none =>
    rw [free_absent address found] at failed
    cases failed
    exact .inl rfl
  | some tenant =>
    cases taken : tenant.pool.free allocator.memory address with
    | error other =>
      rw [free_rejected found taken] at failed
      cases failed
      exact .inl rfl
    | ok freed =>
      right
      cases gone : freed.retired with
      | none =>
        rw [free_kept found taken gone] at failed
        cases failed
      | some base =>
        rw [free_emptied found taken gone] at failed
        have answer :=
          (giveBlock_congr (allocator.letGo_supply name tenant freed) tenant.source base).1
        split at failed
        · next refused =>
          cases failed
          rw [refused] at answer
          exact ⟨tenant, freed, base, rfl, taken, gone, answer.symm, giveBlock_failed refused⟩
        · cases failed

end Allocator

/-! ## Requests -/

namespace World

variable [BlockSource σ] {world : World σ} {name : String} {tenant : Tenant} {fault : Fault}
  {after : Allocator σ}

/-- Every pool draws blocks that are whole words, of a size that fits in a word. -/
def WholeBlocks (world : World σ) : Prop :=
  ∀ entry ∈ world.allocator.pools.entries,
    entry.2.pool.blockSize % wordBytes = 0 ∧ entry.2.pool.blockSize < wordLimit

omit [BlockSource σ] in
instance (world : World σ) : Decidable world.WholeBlocks :=
  inferInstanceAs (Decidable (∀ entry ∈ world.allocator.pools.entries, _ ∧ _))

/-- A request that fails at once has changed nothing. No slab is moved out of the way, because
slabs listed as having room have some. -/
theorem Sound.seek_failed (sound : world.Sound)
    (sought : world.allocator.seek name = (.settled (.error fault), after)) :
    after = world.allocator.note fault.events := by
  cases found : world.allocator.pools.find? name with
  | none =>
    rw [Allocator.seek_absent found] at sought
    cases sought
    rfl
  | some tenant =>
    obtain ⟨view, shows, -⟩ := sound.shown name tenant found
    cases ready : tenant.pool.ready with
    | false =>
      rw [Allocator.seek_unready found ready] at sought
      cases sought
      rfl
    | true =>
      -- A drained pool fails exactly when its source does; otherwise the view serves.
      cases served : view.attempt with
      | none =>
        rw [seek_drained sound.names found shows ready served] at sought
        cases took : world.allocator.takeBlock tenant.source with
        | mk outcome taken =>
          rw [took] at sought
          cases outcome with
          | error other =>
            cases sought
            exact Allocator.takeBlock_failed took
          | ok block => cases sought
      | some result =>
        obtain ⟨next, changed, piece, fresh, -, answered, -⟩ :=
          seek_arranged found shows ready served
        rw [answered] at sought
        cases sought

/-- **A request that fails changes nothing**, whatever interludes were announced. -/
theorem Sound.alloc_failed (sound : world.Sound) (measured : world.Measured)
    (whole : world.WholeBlocks) (failed : (world.allocator.alloc name).1.outcome = .error fault) :
    world.allocator.alloc name = (.answered [] (.error fault), world.allocator.note fault.events) := by
  cases sought : world.allocator.seek name with
  | mk progress after =>
    cases progress with
    | settled outcome =>
      rw [Allocator.alloc_settled sought] at failed ⊢
      obtain rfl : outcome = .error fault := failed
      rw [sound.seek_failed sought]
    -- A block that arrives is always adopted, so there is nothing left that could fail.
    | awaiting source block =>
      obtain ⟨tenant, found, ready, -⟩ := Allocator.seek_awaiting sought
      obtain ⟨words, bounded⟩ := whole _ (Table.mem_of_find? found)
      have carves := (measured name tenant found).carves ready words bounded
      obtain ⟨next, adopted, present, made⟩ := Allocator.seek_adopts found carves sought
      rw [Allocator.alloc_awaiting sought, Allocator.publish_adopted present made] at failed
      cases failed

end World

end SlabAllocator
