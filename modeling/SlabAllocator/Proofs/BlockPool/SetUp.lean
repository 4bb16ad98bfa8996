import SlabAllocator.Proofs.Checked
import SlabAllocator.Proofs.Course
import SlabAllocator.Proofs.SetUp

/-! Setting up block pools. After any calls, a set-up succeeds exactly if every test passes; the
offsets of the blocks stay within the region, so none of them wraps. -/
namespace SlabAllocator

namespace BlockPool

/-- The calls on a pool, with what they meet. -/
inductive Call
  | init (system : System) (count : Nat)
  | alloc (system : System)
  | release (system : System) (block : Nat)

/-- How a pool answers them. -/
def manner : Manner BlockPool Call where
  answer pool
    | .init system count => (pool.init system count).map Prod.fst
    | .alloc system => (pool.alloc system).map Taken.source
    | .release system block => (pool.release system block).map Prod.fst
  setsUp
    | .init .. => true
    | .alloc _ => false
    | .release .. => false

/-- A pool of blocks of this size after some calls. -/
def after (blockSize : Nat) (calls : List Call) : BlockPool :=
  manner.run (new blockSize) calls

/-- Whether one of these calls has set the pool up. -/
def wasSetUp (blockSize : Nat) (calls : List Call) : Bool :=
  manner.wasSetUp (new blockSize) calls

/-- The tests of a set-up: the size of blocks, that it is the first that succeeds, then what is
needed for the cache region. -/
def setUpTests (blockSize count : Nat) (again : Bool) (system : System) : List (Bool × Fault) :=
  let size := blockSize * count
  [(decide (0 < blockSize ∧ blockSize % pageSize = 0),
      .invalidConfig ("block size " ++ toString blockSize ++ " is not a positive multiple of " ++
        toString pageSize)),
    (!again, .alreadyInitialized component),
    (decide (size < wordLimit), .sizeOverflow "block cache size"),
    (decide (size ≤ Nat.pow 2 63 - 4096), .invalidLayout "block cache exceeds isize::MAX"),
    (decide (count = 0) || system.grants ⟨size, pageSize⟩, .allocationFailed size pageSize)]

/-- The blocks of a cache region, their offsets computed with arithmetic that may not wrap. -/
def cacheBlocksChecked (pool : BlockPool) (start count : Nat) : Option (List Nat) :=
  (List.range count).mapM fun position => do
    let offset ← Checked.product position pool.blockSize
    return start + offset

/-- Sets a pool up, with arithmetic that may not wrap except where the pool looks. -/
def initChecked (pool : BlockPool) (system : System) (count : Nat) :
    Option (Except Fault (BlockPool × System)) :=
  if pool.blockSize < pageSize ∨ pool.blockSize % pageSize ≠ 0 then
    some (.error (.invalidConfig ("block size " ++ toString pool.blockSize ++
      " is not a positive multiple of " ++ toString pageSize)))
  else if pool.ready then some (.error (.alreadyInitialized component))
  else if count = 0 then some (.ok (pool.withCache count none, system))
  else
    match Checked.product pool.blockSize count with
    | none => some (.error (.sizeOverflow "block cache size"))
    | some size =>
      match Layout.of? size pageSize with
      | none => some (.error (.invalidLayout "block cache exceeds isize::MAX"))
      | some layout =>
        match system.request layout with
        | .error fault => some (.error fault)
        | .ok (start, granted) => do
          let free ← pool.cacheBlocksChecked start count
          return .ok ({ pool with
            ready := true, region := some ⟨start, layout.size⟩, free, cacheBlocks := count },
            granted)

variable {pool next : BlockPool} {system : System} {count : Nat}

theorem positive_multiple_iff {blockSize : Nat} :
    ¬ (blockSize < pageSize ∨ blockSize % pageSize ≠ 0) ↔
      0 < blockSize ∧ blockSize % pageSize = 0 := by
  unfold pageSize
  omega

/-- The shape of a cache region, unless it is too large for a word or for a region. -/
theorem cacheLayout_eq (pool : BlockPool) (count : Nat) : pool.cacheLayout count =
    if pool.blockSize * count < wordLimit then
      if pool.blockSize * count ≤ Nat.pow 2 63 - 4096 then
        .ok ⟨pool.blockSize * count, pageSize⟩
      else .error (.invalidLayout "block cache exceeds isize::MAX")
    else .error (.sizeOverflow "block cache size") := by
  have within : Layout.limit = Nat.pow 2 63 - 4096 + pageSize := by decide
  unfold cacheLayout
  simp only
  rw [Layout.of?_eq_ite (by decide) within]
  split
  · next large => rw [if_neg (Nat.not_lt.2 large)]
  · next short =>
    rw [if_pos (Nat.lt_of_not_le short)]
    by_cases small : pool.blockSize * count ≤ Nat.pow 2 63 - 4096
    · rw [if_pos small, if_pos small]
    · rw [if_neg small, if_neg small]

/-- A set-up ends with the fault of the first test that fails. -/
theorem fault?_init (pool : BlockPool) (system : System) (count : Nat) :
    fault? (pool.init system count) =
      firstFailure (setUpTests pool.blockSize count pool.ready system) := by
  refine fault?_ite ?size fun _ => fault?_ite ?again fun _ => ?region
  case size => rw [decide_eq_true_eq, positive_multiple_iff]
  case again => rw [Bool.not_eq_true', Bool.not_eq_true]
  case region =>
    by_cases empty : count = 0
    · subst empty
      rfl
    · rw [if_neg empty, decide_eq_false empty, Bool.false_or]
      exact fault?_region (cacheLayout_eq pool count) (fun _ _ => rfl) system

/-- The offset of every block of a region that exists fits in a word. -/
theorem cacheBlocksChecked_eq (pool : BlockPool) (start : Nat) {count : Nat}
    (bounded : pool.blockSize * count < wordLimit) :
    pool.cacheBlocksChecked start count = some (pool.cacheBlocksFrom start count) := by
  unfold cacheBlocksChecked cacheBlocksFrom
  refine Checked.mapM_eq fun position member => ?_
  have step := Nat.mul_le_mul_right pool.blockSize (Nat.le_of_lt (List.mem_range.1 member))
  rw [Nat.mul_comm count] at step
  rw [Checked.product_eq (by omega)]
  rfl

/-- No step of a set-up wraps, whatever comes of it. -/
theorem initChecked_eq (pool : BlockPool) (system : System) (count : Nat) :
    pool.initChecked system count = some (pool.init system count) := by
  unfold initChecked init
  split
  · rfl
  · split
    · rfl
    · split
      · rfl
      · unfold cacheLayout Checked.product
        simp only
        -- The product is the one sum or product of a set-up that can leave the range, and it is
        -- tested.
        by_cases short : pool.blockSize * count < wordLimit
        · rw [if_pos short, if_neg (Nat.not_le.2 short)]
          simp only
          cases shaped : Layout.of? (pool.blockSize * count) pageSize with
          | none => rfl
          | some layout =>
            simp only [ok_bind]
            cases requested : system.request layout with
            | error fault => rfl
            | ok granted =>
              simp only [ok_bind, pool.cacheBlocksChecked_eq granted.1 short]
              rfl
        · rw [if_neg short, if_pos (Nat.le_of_not_lt short)]
          rfl

/-! ## After any calls -/

/-- A call that succeeds keeps the size of blocks, and sets the pool up if it is a set-up. -/
theorem answer_ok {call : Call} (answered : manner.answer pool call = .ok next) :
    next.blockSize = pool.blockSize ∧ next.ready = (manner.setsUp call || pool.ready) := by
  cases call with
  | init system count =>
    cases made : pool.init system count with
    | error fault => simp [manner, made, Except.map] at answered
    | ok result =>
      obtain ⟨made, granted⟩ := result
      obtain ⟨-, -, -, ⟨-, rfl, -⟩ | ⟨-, start, rfl, -⟩⟩ := init_cases made <;>
      · simp only [manner, made, Except.map, Except.ok.injEq] at answered
        subst answered
        exact ⟨rfl, rfl⟩
  | alloc system =>
    cases took : pool.alloc system with
    | error fault => simp [manner, took, Except.map] at answered
    | ok taken =>
      simp only [manner, took, Except.map, Except.ok.injEq] at answered
      subst answered
      obtain ⟨ready, ⟨rest, -, source, -⟩ | ⟨-, -, source, -⟩⟩ := alloc_cases took <;>
      · rw [source]
        exact ⟨rfl, rfl⟩
  | release system block =>
    cases gave : pool.release system block with
    | error fault => simp [manner, gave, Except.map] at answered
    | ok result =>
      obtain ⟨given, returned⟩ := result
      simp only [manner, gave, Except.map, Except.ok.injEq] at answered
      subst answered
      obtain ⟨-, -, source, -⟩ | ⟨-, source, -⟩ := release_cases gave <;>
      · rw [source]
        exact ⟨rfl, rfl⟩

variable (blockSize : Nat) (calls : List Call)

theorem blockSize_after : (after blockSize calls).blockSize = blockSize := by
  refine Manner.run_invariant (fun pool : BlockPool => pool.blockSize = blockSize) rfl ?_
  intro pool call next answered same
  exact (answer_ok answered).1.trans same

/-- A pool is ready as soon as one of its calls has set it up. -/
theorem ready_after : (after blockSize calls).ready = wasSetUp blockSize calls := by
  refine (Manner.flag_run BlockPool.ready ?_).trans (Bool.or_false _)
  exact fun answered => (answer_ok answered).2

/-- A pool that was set up has blocks of whole pages. -/
theorem pages_after (again : wasSetUp blockSize calls = true) :
    0 < blockSize ∧ blockSize % pageSize = 0 := by
  have invariant : (after blockSize calls).ready = true →
      0 < (after blockSize calls).blockSize ∧ (after blockSize calls).blockSize % pageSize = 0 := by
    -- Only a set-up makes the pool ready, and it looks at the size first. The size itself never
    -- changes.
    refine Manner.run_invariant (fun pool : BlockPool => pool.ready = true →
      0 < pool.blockSize ∧ pool.blockSize % pageSize = 0) (fun ready => by cases ready) ?_
    intro pool call next answered pages ready
    obtain ⟨same, raised⟩ := answer_ok answered
    rw [same]
    cases call with
    | init system count =>
      cases made : pool.init system count with
      | error fault => simp [manner, made, Except.map] at answered
      | ok result =>
        have made : pool.init system count = .ok (result.1, result.2) := made
        obtain ⟨-, large, multiple, -⟩ := init_cases made
        exact ⟨Nat.lt_of_lt_of_le (by decide) large, multiple⟩
    | alloc _ => exact pages (raised.symm.trans ready)
    | release _ _ => exact pages (raised.symm.trans ready)
  rw [blockSize_after] at invariant
  exact invariant ((ready_after blockSize calls).trans again)

/-- What comes of setting up a pool with blocks of `blockSize` bytes after `calls`. -/
structure SetUpLaw (system : System) (count : Nat) : Prop where
  /-- It succeeds exactly if it can, and no other set-up has. -/
  succeeds : (∃ made, (after blockSize calls).init system count = .ok made) ↔
    (0 < blockSize ∧ blockSize % 4096 = 0) ∧ wasSetUp blockSize calls = false ∧
      (count = 0 ∨ blockSize * count ≤ Nat.pow 2 63 - 4096 ∧
        system.grants ⟨blockSize * count, 4096⟩ = true)
  /-- Else it reports the first test that fails. -/
  reports : ∀ fault, (after blockSize calls).init system count = .error fault ↔
    firstFailure (setUpTests blockSize count (wasSetUp blockSize calls) system) = some fault
  /-- It then leaves pool and system as they were. -/
  traceless : ∀ fault, (after blockSize calls).init system count = .error fault →
    (initCourse count).run (after blockSize calls, system) =
      .error fault (after blockSize calls, system)
  /-- After failures the pool is as good as new. -/
  retried : (∀ call ∈ calls, manner.setsUp call = true) → wasSetUp blockSize calls = false →
    after blockSize calls = new blockSize
  /-- After a success nothing but a failure is left. -/
  once : wasSetUp blockSize calls = true →
    (initCourse count).run (after blockSize calls, system) =
      .error (.alreadyInitialized component) (after blockSize calls, system)
  /-- Nothing wraps. -/
  unwrapped : (after blockSize calls).initChecked system count =
    some ((after blockSize calls).init system count)
  /-- The blocks lie in the region. -/
  inside : ∀ made granted, (after blockSize calls).init system count = .ok (made, granted) →
    ∀ block ∈ made.free, ∃ region ∈ made.region, Region.Within ⟨block, blockSize⟩ region

variable (system : System) (count : Nat)

theorem fault?_init_after : fault? ((after blockSize calls).init system count) =
    firstFailure (setUpTests blockSize count (wasSetUp blockSize calls) system) := by
  rw [fault?_init, blockSize_after, ready_after]

theorem traceless_after {fault : Fault}
    (failed : (after blockSize calls).init system count = .error fault) :
    (initCourse count).run (after blockSize calls, system) =
      .error fault (after blockSize calls, system) := by
  rw [initCourse_run, failed]
  rfl

theorem setUpLaw : SetUpLaw blockSize calls system count where
  succeeds := by
    rw [exists_ok_iff, fault?_init_after, firstFailure_eq_none_iff]
    have limit : Nat.pow 2 63 - 4096 < wordLimit := by decide
    simp only [setUpTests, List.forall_mem_cons, List.not_mem_nil, false_implies, implies_true,
      and_true, decide_eq_true_eq, Bool.not_eq_true', Bool.or_eq_true]
    constructor
    · rintro ⟨valid, first, -, small, empty | grants⟩
      · exact ⟨valid, first, .inl empty⟩
      · exact ⟨valid, first, .inr ⟨small, grants⟩⟩
    · rintro ⟨valid, first, rfl | ⟨small, grants⟩⟩
      · exact ⟨valid, first, Nat.two_pow_pos 64, Nat.zero_le _, .inl rfl⟩
      · exact ⟨valid, first, Nat.lt_of_le_of_lt small limit, small, .inr grants⟩
  reports := by
    intro fault
    rw [eq_error_iff, fault?_init_after]
  traceless := fun _ failed => traceless_after blockSize calls system count failed
  retried := Manner.run_of_failures
  -- The pool is ready, and its size passed the tests that come before that one.
  once := by
    intro again
    apply traceless_after
    rw [eq_error_iff, fault?_init_after, again]
    unfold setUpTests
    simp only [decide_eq_true (pages_after blockSize calls again)]
    rfl
  unwrapped := initChecked_eq _ _ _
  inside := by
    intro made granted success block member
    obtain ⟨-, -, -, ⟨-, rfl, -⟩ | ⟨-, start, rfl, -⟩⟩ := init_cases success
    · cases member
    · obtain ⟨position, below, rfl⟩ := mem_cacheBlocksFrom.1 member
      refine ⟨_, rfl, Nat.le_add_right _ _, ?_⟩
      have step := Nat.mul_le_mul_left (after blockSize calls).blockSize (Nat.succ_le_of_lt below)
      rw [Nat.mul_succ, Nat.mul_comm _ position] at step
      rw [blockSize_after] at step ⊢
      unfold Region.finish
      simp only
      omega

end BlockPool

end SlabAllocator
