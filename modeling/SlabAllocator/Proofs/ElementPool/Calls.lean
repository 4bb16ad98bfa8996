import SlabAllocator.ElementPool

/-! What the operations of a pool can do. A request, a block that arrives, an element that
comes back and a set-up each go in one of a few ways, and the case analyses here say that
these are all ways. What an operation counts, what it writes and what it leaves as it was is
read off from them. -/
namespace SlabAllocator.ElementPool

variable {pool : ElementPool} {memory : Memory} {address block : Nat}

/-! ## Counting -/

/-- Nothing but the counters of elements moves. -/
structure Recounted (before after : ElementPool) : Prop where
  blockSize : after.blockSize = before.blockSize
  elementSize : after.elementSize = before.elementSize
  config : after.config = before.config
  ready : after.ready = before.ready
  resident : after.resident = before.resident
  sentinels : after.sentinels = before.sentinels
  index : after.index = before.index
  carvedBytes : after.carvedBytes = before.carvedBytes

theorem recounted_countAlloc (pool : ElementPool) : pool.Recounted pool.countAlloc := by
  unfold countAlloc
  simp only
  split <;> exact ⟨rfl, rfl, rfl, rfl, rfl, rfl, rfl, rfl⟩

theorem recounted_countFree (pool : ElementPool) : pool.Recounted pool.countFree := by
  unfold countFree
  split <;> exact ⟨rfl, rfl, rfl, rfl, rfl, rfl, rfl, rfl⟩

/-! ## Requests -/

/-- The resident slab, if there is one, has no slot to hand out. -/
def Spent (pool : ElementPool) (memory : Memory) : Prop :=
  (pool.resident.bind fun resident => Slab.alloc? memory resident.base) = none

/-- The ways in which a request can go. -/
inductive Attempted (pool : ElementPool) (memory : Memory) : Attempt → Prop
  | resident {resident : Resident} {address : Nat} {served : Memory}
      (found : pool.resident = some resident)
      (handed : Slab.alloc? memory resident.base = some (address, served)) :
      Attempted pool memory (.served address pool.countAlloc (pool.fillFresh served address))
  | carved {base address : Nat} {served : Memory} (spent : pool.Spent memory)
      (front : (pool.rings memory).front partialRing = some base)
      (handed : Slab.alloc? memory base = some (address, served))
      (room : (Slab.Header.load served base).isFull = false) :
      Attempted pool memory (.served address pool.countAlloc (pool.fillFresh served address))
  | parked {base address : Nat} {served : Memory} (spent : pool.Spent memory)
      (front : (pool.rings memory).front partialRing = some base)
      (handed : Slab.alloc? memory base = some (address, served))
      (full : (Slab.Header.load served base).isFull = true) :
      Attempted pool memory (.served address (pool.park served base).countAlloc
        (pool.fillFresh (pool.park served base).memory address))
  | exhausted (spent : pool.Spent memory) (empty : (pool.rings memory).front partialRing = none) :
      Attempted pool memory (.drained pool memory)
  | misplaced {base : Nat} (spent : pool.Spent memory)
      (front : (pool.rings memory).front partialRing = some base)
      (nothing : Slab.alloc? memory base = none) :
      Attempted pool memory
        (.drained (pool.park memory base).toElementPool (pool.park memory base).memory)

section attempt

variable {base : Nat} {served : Memory}

theorem attempt_resident {resident : Resident} (found : pool.resident = some resident)
    (handed : Slab.alloc? memory resident.base = some (address, served)) :
    pool.attempt memory = .served address pool.countAlloc (pool.fillFresh served address) := by
  unfold attempt
  rw [found, Option.bind_some, handed]
  rfl

theorem attempt_exhausted (spent : pool.Spent memory)
    (empty : (pool.rings memory).front partialRing = none) :
    pool.attempt memory = .drained pool memory := by
  unfold attempt attemptCarved
  rw [show (pool.resident.bind _) = none from spent, empty]

theorem attempt_misplaced (spent : pool.Spent memory)
    (front : (pool.rings memory).front partialRing = some base)
    (nothing : Slab.alloc? memory base = none) :
    pool.attempt memory =
      .drained (pool.park memory base).toElementPool (pool.park memory base).memory := by
  unfold attempt attemptCarved
  rw [show (pool.resident.bind _) = none from spent, front]
  simp only [nothing]

theorem attempt_carved (spent : pool.Spent memory)
    (front : (pool.rings memory).front partialRing = some base)
    (handed : Slab.alloc? memory base = some (address, served))
    (room : (Slab.Header.load served base).isFull = false) :
    pool.attempt memory = .served address pool.countAlloc (pool.fillFresh served address) := by
  unfold attempt attemptCarved
  rw [show (pool.resident.bind _) = none from spent, front]
  simp only [handed, room]
  rfl

theorem attempt_parked (spent : pool.Spent memory)
    (front : (pool.rings memory).front partialRing = some base)
    (handed : Slab.alloc? memory base = some (address, served))
    (full : (Slab.Header.load served base).isFull = true) :
    pool.attempt memory = .served address (pool.park served base).countAlloc
      (pool.fillFresh (pool.park served base).memory address) := by
  unfold attempt attemptCarved
  rw [show (pool.resident.bind _) = none from spent, front]
  simp only [handed, full]
  rfl

end attempt

theorem attempt_cases (pool : ElementPool) (memory : Memory) :
    pool.Attempted memory (pool.attempt memory) := by
  cases tried : pool.resident.bind fun resident => Slab.alloc? memory resident.base with
  | some result =>
    obtain ⟨resident, found, handed⟩ := Option.bind_eq_some_iff.1 tried
    rw [attempt_resident found handed]
    exact .resident found handed
  | none =>
    cases front : (pool.rings memory).front partialRing with
    | none =>
      rw [attempt_exhausted tried front]
      exact .exhausted tried front
    | some base =>
      cases handed : Slab.alloc? memory base with
      | none =>
        rw [attempt_misplaced tried front handed]
        exact .misplaced tried front handed
      | some result =>
        cases full : (Slab.Header.load result.2 base).isFull with
        | true =>
          rw [attempt_parked tried front handed full]
          exact .parked tried front handed full
        | false =>
          rw [attempt_carved tried front handed full]
          exact .carved tried front handed full

/-! ## Blocks that arrive -/

theorem adopt?_unfit (unfit : Slab.format? memory block pool.blockSize pool.elementSize = none) :
    pool.adopt? memory block = none := by
  unfold adopt?
  rw [unfit]
  rfl

theorem adopt?_made {formatted served : Memory}
    (made : Slab.format? memory block pool.blockSize pool.elementSize = some formatted)
    (handed : Slab.alloc? formatted block = some (address, served)) :
    pool.adopt? memory block =
      let header := Slab.Header.load served block
      let finish := Slab.endAddress served block
      let listed := pool.enlist served (if header.isFull then fullRing else partialRing) block
      let carved := { listed.toElementPool with
        index := insertEnd finish pool.index
        carvedBytes := pool.carvedBytes + pool.blockSize }
      some ⟨address, carved.countAlloc, pool.fillFresh listed.memory address, finish,
        header.maxCount⟩ := by
  unfold adopt?
  simp only [made, handed, Option.bind_eq_bind, Option.bind_some, Option.pure_def]
  simp only [fillFresh, enlist, relinked]

/-- A block that becomes a slab is formatted and hands out its first slot. -/
theorem adopt?_cases {adopted : Adopted} (made : pool.adopt? memory block = some adopted) :
    ∃ formatted served ring,
      Slab.format? memory block pool.blockSize pool.elementSize = some formatted ∧
        Slab.alloc? formatted block = some (adopted.address, served) ∧
        adopted.pool = countAlloc { (pool.enlist served ring block).toElementPool with
          index := insertEnd adopted.finish pool.index
          carvedBytes := pool.carvedBytes + pool.blockSize } ∧
        (ring = partialRing ∨ ring = fullRing) ∧ adopted.memory =
          pool.fillFresh (pool.enlist served ring block).memory adopted.address := by
  cases formatted : Slab.format? memory block pool.blockSize pool.elementSize with
  | none =>
    rw [adopt?_unfit formatted] at made
    cases made
  | some blank =>
    cases handed : Slab.alloc? blank block with
    | none =>
      unfold adopt? at made
      simp only [formatted, handed, Option.bind_eq_bind, Option.bind_some, Option.bind_none] at made
      cases made
    | some result =>
      rw [adopt?_made formatted handed] at made
      cases made
      refine ⟨blank, result.2, _, rfl, handed, rfl, ?_, rfl⟩
      split
      · exact .inr rfl
      · exact .inl rfl

/-! ## Elements that come back -/

/-- The ways in which an element can come back. -/
inductive TakenBack (pool : ElementPool) (memory : Memory) (address : Nat) :
    Except Fault Freed → Prop
  | strange (beside : pool.containsResident address = false)
      (nowhere : pool.owner? address = none) :
      TakenBack pool memory address (.error (.foreignPointer address))
  | refused {base : Nat} {fault : Fault} (refused : Slab.free memory base address = .error fault) :
      TakenBack pool memory address (.error fault)
  | resident {resident : Resident} {transition : Slab.Transition} {released : Memory}
      (found : pool.resident = some resident) (inside : resident.region.contains address = true)
      (taken : Slab.free memory resident.base address = .ok (transition, released)) :
      TakenBack pool memory address (.ok ⟨pool.countFree, pool.scrub released address, none⟩)
  | emptied {base : Nat} {released : Memory} (beside : pool.containsResident address = false)
      (owned : pool.owner? address = some base)
      (taken : Slab.free memory base address = .ok (.emptied, released)) :
      TakenBack pool memory address (.ok ⟨(pool.countFree.retire released base).toElementPool,
        (pool.countFree.retire released base).memory, some base⟩)
  | reopened {base : Nat} {released : Memory} (beside : pool.containsResident address = false)
      (owned : pool.owner? address = some base)
      (taken : Slab.free memory base address = .ok (.reopened, released)) :
      TakenBack pool memory address
        (.ok ⟨(pool.countFree.reopen (pool.scrub released address) base).toElementPool,
          (pool.countFree.reopen (pool.scrub released address) base).memory, none⟩)
  | stayed {base : Nat} {released : Memory} (beside : pool.containsResident address = false)
      (owned : pool.owner? address = some base)
      (taken : Slab.free memory base address = .ok (.unchanged, released)) :
      TakenBack pool memory address (.ok ⟨pool.countFree, pool.scrub released address, none⟩)

section free

variable {base : Nat} {fault : Fault} {resident : Resident} {released : Memory}

/-- Where the element is looked for unless it lies in the resident slab. -/
private theorem elsewhere (beside : pool.containsResident address = false) :
    (pool.resident.filter fun resident => resident.region.contains address) = none := by
  unfold containsResident at beside
  cases found : pool.resident with
  | none => rfl
  | some resident =>
    rw [found] at beside
    rw [Option.filter_some, if_neg (Bool.eq_false_iff.1 beside)]

theorem free_resident (found : pool.resident = some resident)
    (inside : resident.region.contains address = true) :
    pool.free memory address = pool.freeResident memory resident.base address := by
  unfold free
  rw [found, Option.filter_some, if_pos inside]

theorem free_carved (beside : pool.containsResident address = false)
    (owned : pool.owner? address = some base) :
    pool.free memory address = pool.freeCarved memory base address := by
  unfold free
  rw [elsewhere beside, owned]

theorem free_strange (beside : pool.containsResident address = false)
    (nowhere : pool.owner? address = none) :
    pool.free memory address = .error (.foreignPointer address) := by
  unfold free
  rw [elsewhere beside, nowhere]

theorem freeResident_refused (refused : Slab.free memory base address = .error fault) :
    pool.freeResident memory base address = .error fault := by
  unfold freeResident
  rw [refused]

theorem freeResident_kept {transition : Slab.Transition}
    (taken : Slab.free memory base address = .ok (transition, released)) :
    pool.freeResident memory base address =
      .ok ⟨pool.countFree, pool.scrub released address, none⟩ := by
  unfold freeResident
  rw [taken]

theorem freeCarved_refused (refused : Slab.free memory base address = .error fault) :
    pool.freeCarved memory base address = .error fault := by
  unfold freeCarved
  rw [refused]

theorem freeCarved_emptied (taken : Slab.free memory base address = .ok (.emptied, released)) :
    pool.freeCarved memory base address =
      .ok ⟨(pool.countFree.retire released base).toElementPool,
        (pool.countFree.retire released base).memory, some base⟩ := by
  unfold freeCarved
  rw [taken]

theorem freeCarved_reopened (taken : Slab.free memory base address = .ok (.reopened, released)) :
    pool.freeCarved memory base address =
      .ok ⟨(pool.countFree.reopen (pool.scrub released address) base).toElementPool,
        (pool.countFree.reopen (pool.scrub released address) base).memory, none⟩ := by
  unfold freeCarved
  rw [taken]

theorem freeCarved_stayed (taken : Slab.free memory base address = .ok (.unchanged, released)) :
    pool.freeCarved memory base address =
      .ok ⟨pool.countFree, pool.scrub released address, none⟩ := by
  unfold freeCarved
  rw [taken]

end free

theorem free_cases (pool : ElementPool) (memory : Memory) (address : Nat) :
    pool.TakenBack memory address (pool.free memory address) := by
  cases beside : pool.containsResident address with
  | true =>
    unfold containsResident at beside
    split at beside
    · next resident found =>
      rw [free_resident found beside]
      cases answered : Slab.free memory resident.base address with
      | error fault =>
        rw [freeResident_refused answered]
        exact .refused answered
      | ok result =>
        rw [freeResident_kept answered]
        exact .resident found beside answered
    · cases beside
  | false =>
    cases owned : pool.owner? address with
    | none =>
      rw [free_strange beside owned]
      exact .strange beside owned
    | some base =>
      rw [free_carved beside owned]
      cases answered : Slab.free memory base address with
      | error fault =>
        rw [freeCarved_refused answered]
        exact .refused answered
      | ok result =>
        obtain ⟨transition, released⟩ := result
        cases transition with
        | emptied =>
          rw [freeCarved_emptied answered]
          exact .emptied beside owned answered
        | reopened =>
          rw [freeCarved_reopened answered]
          exact .reopened beside owned answered
        | unchanged =>
          rw [freeCarved_stayed answered]
          exact .stayed beside owned answered

/-! ## Setting up -/

/-- The ways in which a set-up can go. -/
inductive Fitted (pool : ElementPool) (memory : Memory) (system : System) : Nat → Setup → Prop
  | bare : Fitted pool memory system 0 ⟨{ pool with ready := true }, memory, system⟩
  | resident {count base : Nat} {layout : Layout} {granted : System} {formatted : Memory}
      (some : count ≠ 0) (shaped : pool.residentLayout count = .ok layout)
      (request : system.request layout = .ok (base, granted))
      (blank : Slab.format? memory base layout.size pool.elementSize = .some formatted) :
      Fitted pool memory system count
        ⟨{ pool with ready := true, resident := .some ⟨base, layout.size⟩ }, formatted, granted⟩

/-- A set-up that succeeds finds the pool not set up and its elements fit for a block. It makes
a resident slab unless none was asked for. -/
theorem init_cases {system : System} {count : Nat} {setup : Setup}
    (made : pool.init memory system count = .ok setup) :
    pool.ready = false ∧ (0 < pool.elementSize ∧ pool.elementSize ≤ pool.room) ∧
      pool.Fitted memory system count setup := by
  unfold init at made
  split at made
  · cases made
  · next unready =>
    split at made
    · cases made
    · next positive =>
      split at made
      · cases made
      · next small =>
        refine ⟨Bool.eq_false_iff.2 unready, ⟨Nat.pos_of_ne_zero positive, Nat.not_lt.1 small⟩, ?_⟩
        split at made
        · next none =>
          cases made
          subst none
          exact .bare
        · next some =>
          cases shaped : pool.residentLayout count with
          | error fault =>
            rw [shaped] at made
            cases made
          | ok layout =>
            cases request : system.request layout with
            | error fault =>
              simp only [shaped, bind, Except.bind, request] at made
              cases made
            | ok result =>
              simp only [shaped, bind, Except.bind, request] at made
              split at made
              · cases made
              · next formatted =>
                cases made
                exact .resident some shaped request formatted

end SlabAllocator.ElementPool
