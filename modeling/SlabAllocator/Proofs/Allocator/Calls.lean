import SlabAllocator.Allocator

/-! What calls can do. A call ends in one of a few ways, and there is an equation for each
of them: what is answered, and what becomes of the allocator. The case analyses say that
these are all ways. Whatever else is proved of calls is proved from here. -/
namespace SlabAllocator.Allocator

open ElementPool

variable {σ : Type} {allocator after : Allocator σ} {name source : String} {tenant : Tenant}
  {fault : Fault}

/-! ## Setting up -/

section setUp

variable {count : Nat} {setup : Setup}

/-- The allocator once a pool is set up. -/
def fitOut (allocator : Allocator σ) (name : String) (tenant : Tenant) (setup : Setup) :
    Allocator σ :=
  { allocator.setPool name tenant setup.pool with memory := setup.memory, system := setup.system }

theorem initPool_absent (count : Nat) (missing : allocator.pools.find? name = none) :
    allocator.initPool name count = (.error absent, allocator.note absent.events) := by
  unfold initPool
  rw [missing]
  rfl

theorem initPool_refused (found : allocator.pools.find? name = some tenant)
    (refused : tenant.pool.init allocator.memory allocator.system count = .error fault) :
    allocator.initPool name count = (.error fault, allocator.note fault.events) := by
  unfold initPool
  rw [found]
  simp only [refused]
  rfl

theorem initPool_made (found : allocator.pools.find? name = some tenant)
    (made : tenant.pool.init allocator.memory allocator.system count = .ok setup) :
    allocator.initPool name count =
      (.ok (), (allocator.fitOut name tenant setup).note (tenant.pool.initEvents count)) := by
  unfold initPool
  rw [found]
  simp only [made]
  rfl

theorem initPool_cases (allocator : Allocator σ) (name : String) (count : Nat) :
    (∃ fault, allocator.initPool name count = (.error fault, allocator.note fault.events)) ∨
      ∃ tenant setup, allocator.pools.find? name = some tenant ∧
        tenant.pool.init allocator.memory allocator.system count = .ok setup ∧
        allocator.initPool name count =
          (.ok (), (allocator.fitOut name tenant setup).note (tenant.pool.initEvents count)) := by
  cases found : allocator.pools.find? name with
  | none => exact .inl ⟨_, initPool_absent count found⟩
  | some tenant =>
    cases made : tenant.pool.init allocator.memory allocator.system count with
    | error fault => exact .inl ⟨fault, initPool_refused found made⟩
    | ok setup => exact .inr ⟨tenant, setup, rfl, made, initPool_made found made⟩

/-- A set-up that fails leaves no trace but the note of its fault. -/
theorem initPool_failed (failed : allocator.initPool name count = (.error fault, after)) :
    after = allocator.note fault.events := by
  rcases allocator.initPool_cases name count with ⟨other, refused⟩ | ⟨_, _, -, -, made⟩
  · rw [refused] at failed
    cases failed
    rfl
  · rw [made] at failed
    cases failed

end setUp

variable [BlockSource σ]

/-! ## Taking blocks and giving them back -/

section blocks

variable {supply : σ} {taken : Taken σ} {given : σ × System} {block : Nat}

/-- The allocator once a source has handed out a block. -/
def receive (allocator : Allocator σ) (source : String) (taken : Taken σ) : Allocator σ :=
  { allocator with
    sources := allocator.sources.insert source taken.source
    system := taken.system }.note taken.events

/-- The allocator once a source has taken a block back. -/
def handBack (allocator : Allocator σ) (source : String) (given : σ × System) : Allocator σ :=
  { allocator with sources := allocator.sources.insert source given.1, system := given.2 }

theorem takeBlock_absent (missing : allocator.sources.find? source = none) :
    allocator.takeBlock source = (.error absent, allocator.note absent.events) := by
  unfold takeBlock
  rw [missing]
  rfl

theorem takeBlock_refused (found : allocator.sources.find? source = some supply)
    (refused : BlockSource.take supply allocator.system = .error fault) :
    allocator.takeBlock source = (.error fault, allocator.note fault.events) := by
  unfold takeBlock
  rw [found]
  simp only [refused]
  rfl

theorem takeBlock_taken (found : allocator.sources.find? source = some supply)
    (took : BlockSource.take supply allocator.system = .ok taken) :
    allocator.takeBlock source = (.ok taken.block, allocator.receive source taken) := by
  unfold takeBlock
  rw [found]
  simp only [took]
  rfl

theorem takeBlock_cases (allocator : Allocator σ) (source : String) :
    (∃ fault, allocator.takeBlock source = (.error fault, allocator.note fault.events)) ∨
      ∃ supply taken, allocator.sources.find? source = some supply ∧
        BlockSource.take supply allocator.system = .ok taken ∧
        allocator.takeBlock source = (.ok taken.block, allocator.receive source taken) := by
  cases found : allocator.sources.find? source with
  | none => exact .inl ⟨_, takeBlock_absent found⟩
  | some supply =>
    cases took : BlockSource.take supply allocator.system with
    | error fault => exact .inl ⟨fault, takeBlock_refused found took⟩
    | ok taken => exact .inr ⟨supply, taken, rfl, took, takeBlock_taken found took⟩

/-- A source that refuses leaves no trace but the note of its fault. -/
theorem takeBlock_failed (failed : allocator.takeBlock source = (.error fault, after)) :
    after = allocator.note fault.events := by
  rcases allocator.takeBlock_cases source with ⟨other, refused⟩ | ⟨_, _, -, -, took⟩
  · rw [refused] at failed
    cases failed
    rfl
  · rw [took] at failed
    cases failed

/-- A block that arrives comes from a source that is there. -/
theorem takeBlock_ok (took : allocator.takeBlock source = (.ok block, after)) :
    ∃ supply taken, allocator.sources.find? source = some supply ∧
      BlockSource.take supply allocator.system = .ok taken ∧ taken.block = block ∧
      after = allocator.receive source taken := by
  rcases allocator.takeBlock_cases source with ⟨other, refused⟩ |
    ⟨supply, taken, found, drawn, answered⟩
  · rw [refused] at took
    cases took
  · rw [answered] at took
    cases took
    exact ⟨supply, taken, found, drawn, rfl, rfl⟩

theorem giveBlock_absent (block : Nat) (missing : allocator.sources.find? source = none) :
    allocator.giveBlock source block = (.error absent, allocator.note absent.events) := by
  unfold giveBlock
  rw [missing]
  rfl

theorem giveBlock_refused (found : allocator.sources.find? source = some supply)
    (refused : BlockSource.give supply allocator.system block = .error fault) :
    allocator.giveBlock source block = (.error fault, allocator.note fault.events) := by
  unfold giveBlock
  rw [found]
  simp only [refused]
  rfl

theorem giveBlock_given (found : allocator.sources.find? source = some supply)
    (gave : BlockSource.give supply allocator.system block = .ok given) :
    allocator.giveBlock source block = (.ok (), allocator.handBack source given) := by
  unfold giveBlock
  rw [found]
  simp only [gave]
  rfl

theorem giveBlock_cases (allocator : Allocator σ) (source : String) (block : Nat) :
    (∃ fault, allocator.giveBlock source block = (.error fault, allocator.note fault.events)) ∨
      ∃ supply given, allocator.sources.find? source = some supply ∧
        BlockSource.give supply allocator.system block = .ok given ∧
        allocator.giveBlock source block = (.ok (), allocator.handBack source given) := by
  cases found : allocator.sources.find? source with
  | none => exact .inl ⟨_, giveBlock_absent block found⟩
  | some supply =>
    cases gave : BlockSource.give supply allocator.system block with
    | error fault => exact .inl ⟨fault, giveBlock_refused found gave⟩
    | ok given => exact .inr ⟨supply, given, rfl, gave, giveBlock_given found gave⟩

theorem giveBlock_failed (failed : allocator.giveBlock source block = (.error fault, after)) :
    after = allocator.note fault.events := by
  rcases allocator.giveBlock_cases source block with ⟨other, refused⟩ | ⟨_, _, -, -, gave⟩
  · rw [refused] at failed
    cases failed
    rfl
  · rw [gave] at failed
    cases failed

/-- A block that is taken back goes to a source that is there. -/
theorem giveBlock_ok (gave : allocator.giveBlock source block = (.ok (), after)) :
    ∃ supply given, allocator.sources.find? source = some supply ∧
      BlockSource.give supply allocator.system block = .ok given ∧
      after = allocator.handBack source given := by
  rcases allocator.giveBlock_cases source block with ⟨other, refused⟩ |
    ⟨supply, given, found, back, answered⟩
  · rw [refused] at gave
    cases gave
  · rw [answered] at gave
    cases gave
    exact ⟨supply, given, found, back, rfl⟩

end blocks

/-! ## Requests -/

section requests

variable {address block : Nat} {next : ElementPool} {changed : Memory}

theorem seek_absent (missing : allocator.pools.find? name = none) :
    allocator.seek name = (.settled (.error absent), allocator.note absent.events) := by
  unfold seek seekM
  rw [missing]
  rfl

theorem seek_unready (found : allocator.pools.find? name = some tenant)
    (unready : tenant.pool.ready = false) :
    allocator.seek name = (.settled (.error (.notInitialized ElementPool.component)),
      allocator.note (Fault.notInitialized ElementPool.component).events) := by
  unfold seek seekM
  rw [found]
  simp only [unready]
  rfl

theorem seek_served (found : allocator.pools.find? name = some tenant)
    (ready : tenant.pool.ready = true)
    (served : tenant.pool.attempt allocator.memory = .served address next changed) :
    allocator.seek name = (.settled (.ok address),
      { allocator.setPool name tenant next with memory := changed }.hand address) := by
  unfold seek seekM
  simp only [found, ready, served, not_true_eq_false, ↓reduceIte]
  rfl

/-- A pool whose slabs are full asks its source. -/
theorem seek_drained (found : allocator.pools.find? name = some tenant)
    (ready : tenant.pool.ready = true)
    (drained : tenant.pool.attempt allocator.memory = .drained next changed) :
    allocator.seek name =
      match { allocator.setPool name tenant next with memory := changed }.takeBlock
          tenant.source with
      | (.error fault, after) => (.settled (.error fault), after)
      | (.ok block, after) => (.awaiting tenant.source block, after) := by
  cases took : { allocator.setPool name tenant next with memory := changed }.takeBlock
      tenant.source with
  | mk outcome after =>
    unfold seek seekM
    simp only [found, ready, drained, not_true_eq_false, ↓reduceIte]
    cases outcome <;> simp only [Id.run, pure, bind, took]

/-- The ways in which a request can begin. -/
inductive Sought (allocator : Allocator σ) (name : String) : Progress × Allocator σ → Prop
  | refused (fault : Fault) :
      Sought allocator name (.settled (.error fault), allocator.note fault.events)
  | served {tenant : Tenant} {address : Nat} {next : ElementPool} {changed : Memory}
      (found : allocator.pools.find? name = some tenant) (ready : tenant.pool.ready = true)
      (served : tenant.pool.attempt allocator.memory = .served address next changed) :
      Sought allocator name (.settled (.ok address),
        { allocator.setPool name tenant next with memory := changed }.hand address)
  | failed {tenant : Tenant} {next : ElementPool} {changed : Memory} {fault : Fault}
      {after : Allocator σ}
      (found : allocator.pools.find? name = some tenant) (ready : tenant.pool.ready = true)
      (drained : tenant.pool.attempt allocator.memory = .drained next changed)
      (failed : { allocator.setPool name tenant next with memory := changed }.takeBlock
        tenant.source = (.error fault, after)) :
      Sought allocator name (.settled (.error fault), after)
  | awaits {tenant : Tenant} {next : ElementPool} {changed : Memory} {block : Nat}
      {after : Allocator σ}
      (found : allocator.pools.find? name = some tenant) (ready : tenant.pool.ready = true)
      (drained : tenant.pool.attempt allocator.memory = .drained next changed)
      (took : { allocator.setPool name tenant next with memory := changed }.takeBlock
        tenant.source = (.ok block, after)) :
      Sought allocator name (.awaiting tenant.source block, after)

theorem seek_cases (allocator : Allocator σ) (name : String) :
    allocator.Sought name (allocator.seek name) := by
  cases found : allocator.pools.find? name with
  | none =>
    rw [seek_absent found]
    exact .refused _
  | some tenant =>
    cases ready : tenant.pool.ready with
    | false =>
      rw [seek_unready found ready]
      exact .refused _
    | true =>
      cases attempted : tenant.pool.attempt allocator.memory with
      | served address next changed =>
        rw [seek_served found ready attempted]
        exact .served found ready attempted
      | drained next changed =>
        rw [seek_drained found ready attempted]
        cases took : { allocator.setPool name tenant next with memory := changed }.takeBlock
            tenant.source with
        | mk outcome after =>
          cases outcome with
          | error fault => exact .failed found ready attempted took
          | ok block => exact .awaits found ready attempted took

end requests

/-! ## Blocks that arrive -/

section publish

variable {block : Nat}

theorem publish_absent (block : Nat) (missing : allocator.pools.find? name = none) :
    allocator.publish name block = (.error absent, allocator.note absent.events) := by
  unfold publish publishM
  rw [missing]
  rfl

theorem publish_adopted {adopted : Adopted} (found : allocator.pools.find? name = some tenant)
    (made : tenant.pool.adopt? allocator.memory block = some adopted) :
    allocator.publish name block = (.ok adopted.address,
      ({ allocator.setPool name tenant adopted.pool with memory := adopted.memory }.note
        [.slabCarved adopted.finish adopted.capacity]).hand adopted.address) := by
  unfold publish publishM
  rw [found]
  simp only [made]
  rfl

/-- A block that is no slab is given back, and if its source takes it the request fails for the
block. -/
theorem publish_unfit (found : allocator.pools.find? name = some tenant)
    (unfit : tenant.pool.adopt? allocator.memory block = none) :
    allocator.publish name block = match allocator.giveBlock tenant.source block with
      | (.error fault, after) => (.error fault, after)
      | (.ok (), after) => after.refuse tenant.pool.unfitBlock := by
  cases given : allocator.giveBlock tenant.source block with
  | mk outcome after =>
    unfold publish publishM
    simp only [found, unfit]
    cases outcome <;> simp only [Id.run, pure, bind, given]

/-- The ways in which a block that has arrived can end up. -/
inductive Published (allocator : Allocator σ) (name : String) (block : Nat) :
    Except Fault Nat × Allocator σ → Prop
  | refused (fault : Fault) :
      Published allocator name block (.error fault, allocator.note fault.events)
  | adopted {tenant : Tenant} {adopted : Adopted}
      (found : allocator.pools.find? name = some tenant)
      (made : tenant.pool.adopt? allocator.memory block = some adopted) :
      Published allocator name block (.ok adopted.address,
        ({ allocator.setPool name tenant adopted.pool with memory := adopted.memory }.note
          [.slabCarved adopted.finish adopted.capacity]).hand adopted.address)
  | unfit {tenant : Tenant} {after : Allocator σ}
      (found : allocator.pools.find? name = some tenant)
      (unfit : tenant.pool.adopt? allocator.memory block = none)
      (gave : allocator.giveBlock tenant.source block = (.ok (), after)) :
      Published allocator name block
        (.error tenant.pool.unfitBlock, after.note tenant.pool.unfitBlock.events)

theorem publish_cases (allocator : Allocator σ) (name : String) (block : Nat) :
    allocator.Published name block (allocator.publish name block) := by
  cases found : allocator.pools.find? name with
  | none =>
    rw [publish_absent block found]
    exact .refused _
  | some tenant =>
    cases made : tenant.pool.adopt? allocator.memory block with
    | some adopted =>
      rw [publish_adopted found made]
      exact .adopted found made
    | none =>
      rw [publish_unfit found made]
      cases gave : allocator.giveBlock tenant.source block with
      | mk outcome after =>
        cases outcome with
        | error fault =>
          rw [giveBlock_failed gave]
          exact .refused fault
        | ok _ => exact .unfit found made gave

end publish

/-- A request is its beginning, and if a block comes of it what is served in between and the
publication of the block. -/
theorem allocWith_eq (serve : Serve σ) (allocator : Allocator σ) (name : String) :
    allocWith serve allocator name =
      match allocator.seek name with
      | (.settled outcome, after) => (.answered [] outcome, after)
      | (.awaiting source block, after) =>
        let (replies, during) := after.runInterlude serve source
        let (outcome, last) := during.publish name block
        (.answered replies outcome, last) := by
  unfold allocWith allocM
  rfl

/-! ## Releases -/

section release

variable {address base : Nat} {freed : Freed}

/-- The allocator once a pool has let go of an element, with an emptied slab still to return. -/
def letGo (allocator : Allocator σ) (name : String) (tenant : Tenant) (freed : Freed) :
    Allocator σ :=
  { allocator.setPool name tenant freed.pool with memory := freed.memory }

theorem free_absent (address : Nat) (missing : allocator.pools.find? name = none) :
    allocator.free name address = (.error absent, allocator.note absent.events) := by
  unfold free
  rw [missing]
  rfl

/-- What the pool refuses is refused, with the same fault. -/
theorem free_rejected (found : allocator.pools.find? name = some tenant)
    (rejected : tenant.pool.free allocator.memory address = .error fault) :
    allocator.free name address = (.error fault, allocator.note fault.events) := by
  unfold free
  rw [found]
  simp only [rejected]
  rfl

theorem free_kept (found : allocator.pools.find? name = some tenant)
    (taken : tenant.pool.free allocator.memory address = .ok freed)
    (kept : freed.retired = none) :
    allocator.free name address = (.ok (), allocator.letGo name tenant freed) := by
  unfold free
  rw [found]
  simp only [taken, kept]
  rfl

/-- When a slab goes away, the answer of its source is the answer to the release. -/
theorem free_emptied (found : allocator.pools.find? name = some tenant)
    (taken : tenant.pool.free allocator.memory address = .ok freed)
    (gone : freed.retired = some base) :
    allocator.free name address =
      match (allocator.letGo name tenant freed).giveBlock tenant.source base with
      | (.error fault, last) => (.error fault, last)
      | (.ok (), last) => (.ok (), last.note [.slabRetired (base + tenant.pool.blockSize)]) := by
  unfold free
  rw [found]
  simp only [taken, gone]
  rfl

end release

theorem dropPool_absent (missing : allocator.pools.find? name = none) :
    allocator.dropPool name = allocator := by
  unfold dropPool
  rw [missing]

end SlabAllocator.Allocator
