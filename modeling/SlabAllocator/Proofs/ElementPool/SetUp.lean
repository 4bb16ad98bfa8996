import SlabAllocator.Proofs.BlockPool.SetUp
import SlabAllocator.Proofs.ElementPool.Counters
import SlabAllocator.Proofs.Slab.Geometry

/-! Setting up pools of elements. The tests are made in another order than for block pools: that
the pool was set up before is looked at first. -/
namespace SlabAllocator

namespace ElementPool

/-- The calls on a pool, with what they meet. -/
inductive Call
  | init (memory : Memory) (system : System) (count : Nat)
  | request (memory : Memory)
  /-- A block that was asked for arrives. -/
  | adopt (memory : Memory) (block : Nat)
  | release (memory : Memory) (address : Nat)

/-- How a pool answers them. -/
def manner : Manner ElementPool Call where
  answer pool
    | .init memory system count => (pool.init memory system count).map Setup.pool
    | .request memory =>
      if ¬ pool.ready then .error (.notInitialized component)
      else
        match pool.attempt memory with
        | .served _ next _ => .ok next
        | .drained next _ => .ok next
    | .adopt memory block =>
      match pool.adopt? memory block with
      | some adopted => .ok adopted.pool
      | none => .error pool.unfitBlock
    | .release memory address => (pool.free memory address).map Freed.pool
  setsUp
    | .init .. => true
    | .request _ => false
    | .adopt .. => false
    | .release .. => false

/-- The tests of a set-up: that it is the first that succeeds, the size of elements, then what
is needed for the resident slab. -/
def setUpTests (blockSize elementSize count : Nat) (again : Bool) (system : System) :
    List (Bool × Fault) :=
  let room := blockSize - Slab.headerBytes
  let size := count * elementSize + Slab.headerBytes
  [(!again, .alreadyInitialized component),
    (decide (elementSize ≠ 0), .invalidConfig "element size must be non-zero"),
    (decide (elementSize ≤ room),
      .invalidConfig ("element size " ++ toString elementSize ++ " exceeds the " ++
        toString room ++ " usable bytes of a " ++ toString blockSize ++ "-byte block")),
    (decide (size < wordLimit), .sizeOverflow "resident slab size"),
    (decide (size ≤ Nat.pow 2 63 - 64), .invalidLayout "resident slab exceeds isize::MAX"),
    (decide (count = 0) || system.grants ⟨size, residentAlign⟩,
      .allocationFailed size residentAlign)]

/-- Sets a pool up, with arithmetic that may not wrap except where the pool looks. -/
def initChecked (pool : ElementPool) (memory : Memory) (system : System) (count : Nat) :
    Option (Except Fault Setup) :=
  if pool.ready then some (.error (.alreadyInitialized component))
  else if pool.elementSize = 0 then some (.error (.invalidConfig "element size must be non-zero"))
  else if pool.room < pool.elementSize then
    some (.error (.invalidConfig ("element size " ++ toString pool.elementSize ++ " exceeds the " ++
      toString pool.room ++ " usable bytes of a " ++ toString pool.blockSize ++ "-byte block")))
  else if count = 0 then some (.ok ⟨{ pool with ready := true }, memory, system⟩)
  else
    match (Checked.product count pool.elementSize).bind (Checked.sum · Slab.headerBytes) with
    | none => some (.error (.sizeOverflow "resident slab size"))
    | some size =>
      match Layout.of? size residentAlign with
      | none => some (.error (.invalidLayout "resident slab exceeds isize::MAX"))
      | some layout =>
        match system.request layout with
        | .error fault => some (.error fault)
        | .ok (base, granted) => do
          match ← Slab.formatChecked? memory base layout.size pool.elementSize with
          | none => return .error (.invalidConfig "resident slab cannot hold an element")
          | some formatted =>
            return .ok ⟨{ pool with ready := true, resident := some ⟨base, layout.size⟩ },
              formatted, granted⟩

variable {pool next : ElementPool}

/-- The shape of a resident slab, unless it is too large for a word or for a region. -/
theorem residentLayout_eq (pool : ElementPool) (count : Nat) : pool.residentLayout count =
    if count * pool.elementSize + Slab.headerBytes < wordLimit then
      if count * pool.elementSize + Slab.headerBytes ≤ Nat.pow 2 63 - 64 then
        .ok ⟨count * pool.elementSize + Slab.headerBytes, residentAlign⟩
      else .error (.invalidLayout "resident slab exceeds isize::MAX")
    else .error (.sizeOverflow "resident slab size") := by
  have within : Layout.limit = Nat.pow 2 63 - 64 + residentAlign := by decide
  unfold residentLayout
  simp only
  rw [Layout.of?_eq_ite (by decide) within]
  split
  · next large => rw [if_neg (Nat.not_lt.2 large)]
  · next short =>
    rw [if_pos (Nat.lt_of_not_le short)]
    by_cases small : count * pool.elementSize + Slab.headerBytes ≤ Nat.pow 2 63 - 64
    · rw [if_pos small, if_pos small]
    · rw [if_neg small, if_neg small]

/-- A set-up ends with the fault of the first test that fails. -/
theorem fault?_init (words : pool.elementSize ≤ pool.room → pool.elementSize % wordBytes = 0)
    (memory : Memory) (system : System) (count : Nat) :
    fault? (pool.init memory system count) =
      firstFailure (setUpTests pool.blockSize pool.elementSize count pool.ready system) := by
  refine fault?_ite ?again fun _ => fault?_ite ?size fun positive =>
    fault?_ite ?room fun fits => ?region
  case again => rw [Bool.not_eq_true', Bool.not_eq_true]
  case size => rw [decide_eq_true_eq]
  case room => rw [decide_eq_true_eq, Nat.not_lt, room]
  case region =>
    by_cases empty : count = 0
    · subst empty
      rw [Nat.zero_mul]
      rfl
    · rw [if_neg empty, decide_eq_false empty, Bool.false_or]
      refine fault?_region (residentLayout_eq pool count) (fun shaped granted => ?_) system
      -- A resident slab never fails to be made: its size is header and elements in whole words.
      obtain ⟨formatted, made⟩ :=
        format?_resident shaped empty (words (Nat.le_of_not_lt fits)) positive memory granted.1
      simp only [made]
      rfl

/-- The size of a resident slab is found, or it is too large for a word. -/
theorem checked_residentSize (count elementSize : Nat) :
    (Checked.product count elementSize).bind (Checked.sum · Slab.headerBytes) =
      if count * elementSize + Slab.headerBytes < wordLimit then
        some (count * elementSize + Slab.headerBytes)
      else none := by
  unfold Checked.product
  split
  · rfl
  · next large =>
    rw [if_neg (by omega)]
    rfl

/-- No step of a set-up wraps, whatever comes of it. -/
theorem initChecked_eq (pool : ElementPool) (memory : Memory) (system : System) (count : Nat) :
    pool.initChecked memory system count = some (pool.init memory system count) := by
  unfold initChecked init
  split
  · rfl
  · split
    · rfl
    · split
      · rfl
      · split
        · rfl
        · unfold residentLayout
          rw [checked_residentSize]
          simp only
          -- A size in range makes every later sum and product one in range.
          by_cases short : count * pool.elementSize + Slab.headerBytes < wordLimit
          · rw [if_pos short, if_neg (Nat.not_le.2 short)]
            simp only
            cases shaped : Layout.of? (count * pool.elementSize + Slab.headerBytes)
                residentAlign with
            | none => rfl
            | some layout =>
              obtain rfl := Layout.of?_eq shaped
              simp only [ok_bind]
              cases requested : system.request
                  ⟨count * pool.elementSize + Slab.headerBytes, residentAlign⟩ with
              | error fault => rfl
              | ok granted =>
                simp only [ok_bind, Slab.formatChecked?_eq memory granted.1 _ short,
                  Option.bind_eq_bind, Option.bind_some]
                cases Slab.format? memory granted.1
                  (count * pool.elementSize + Slab.headerBytes) pool.elementSize <;> rfl
          · rw [if_neg short, if_pos (Nat.le_of_not_lt short)]
            rfl

/-! ## After any calls -/

/-- A call that succeeds keeps the sizes, and sets the pool up if it is a set-up. -/
theorem answer_ok {call : Call} (answered : manner.answer pool call = .ok next) :
    pool.Same next ∧ next.ready = (manner.setsUp call || pool.ready) := by
  cases call with
  | init memory system count =>
    cases made : pool.init memory system count with
    | error fault => simp [manner, made, Except.map] at answered
    | ok setup =>
      simp only [manner, made, Except.map, Except.ok.injEq] at answered
      subst answered
      exact ⟨same_init made, (init_counted made).1⟩
  | request memory =>
    cases ready : pool.ready with
    | false => simp [manner, ready] at answered
    | true =>
      simp only [manner, ready, not_true_eq_false, ↓reduceIte] at answered
      cases attempted : pool.attempt memory with
      | served address served changed =>
        rw [attempted] at answered
        cases answered
        have counted := attempt_counted attempted
        exact ⟨counted.same, counted.ready.trans ready⟩
      | drained parked =>
        rw [attempted] at answered
        cases answered
        have counted := drained_counted attempted
        exact ⟨counted.same, counted.ready.trans ready⟩
  | adopt memory block =>
    cases made : pool.adopt? memory block with
    | none => simp [manner, made] at answered
    | some adopted =>
      simp only [manner, made, Except.ok.injEq] at answered
      subst answered
      have counted := adopt?_counted made
      exact ⟨counted.same, counted.ready⟩
  | release memory address =>
    cases taken : pool.free memory address with
    | error fault => simp [manner, taken, Except.map] at answered
    | ok freed =>
      simp only [manner, taken, Except.map, Except.ok.injEq] at answered
      subst answered
      have counted := free_counted taken
      exact ⟨counted.same, counted.ready⟩

/-- A pool of elements of this size after some calls. -/
def after (blockSize elementSize : Nat) (config : Config) (calls : List Call) : ElementPool :=
  manner.run (new blockSize elementSize config) calls

/-- Whether one of these calls has set the pool up. -/
def wasSetUp (blockSize elementSize : Nat) (config : Config) (calls : List Call) : Bool :=
  manner.wasSetUp (new blockSize elementSize config) calls

variable (blockSize elementSize : Nat) (config : Config) (calls : List Call)

theorem same_after : (new blockSize elementSize config).Same
    (after blockSize elementSize config calls) := by
  refine Manner.run_invariant (new blockSize elementSize config).Same (.refl _) ?_
  intro pool call next answered same
  exact same.trans (answer_ok answered).1

/-- A pool is ready as soon as one of its calls has set it up. -/
theorem ready_after : (after blockSize elementSize config calls).ready =
    wasSetUp blockSize elementSize config calls := by
  refine (Manner.flag_run ElementPool.ready ?_).trans (Bool.or_false _)
  exact fun answered => (answer_ok answered).2

/-- What comes of setting up a pool of elements of `elementSize` bytes, rounded up to words, on
blocks of `blockSize` bytes after `calls`. -/
structure SetUpLaw (memory : Memory) (system : System) (count : Nat) : Prop where
  /-- It succeeds exactly if it can, and no other set-up has. -/
  succeeds : (∃ made, (after blockSize elementSize config calls).init memory system count =
      .ok made) ↔
    wasSetUp blockSize elementSize config calls = false ∧
      (0 < roundUpToWord elementSize ∧ roundUpToWord elementSize + 64 ≤ blockSize) ∧
      (count = 0 ∨ count * roundUpToWord elementSize + 64 ≤ Nat.pow 2 63 - 64 ∧
        system.grants ⟨count * roundUpToWord elementSize + 64, 64⟩ = true)
  /-- Else it reports the first test that fails. -/
  reports : ∀ fault, (after blockSize elementSize config calls).init memory system count =
      .error fault ↔
    firstFailure (setUpTests blockSize (roundUpToWord elementSize) count
      (wasSetUp blockSize elementSize config calls) system) = some fault
  /-- It then leaves pool, memory and system as they were. -/
  traceless : ∀ fault, (after blockSize elementSize config calls).init memory system count =
      .error fault →
    (initCourse count).run ⟨after blockSize elementSize config calls, memory, system⟩ =
      .error fault ⟨after blockSize elementSize config calls, memory, system⟩
  /-- After failures the pool is as good as new. -/
  retried : (∀ call ∈ calls, manner.setsUp call = true) →
    wasSetUp blockSize elementSize config calls = false →
    after blockSize elementSize config calls = new blockSize elementSize config
  /-- After a success nothing but a failure is left. -/
  once : wasSetUp blockSize elementSize config calls = true →
    (initCourse count).run ⟨after blockSize elementSize config calls, memory, system⟩ =
      .error (.alreadyInitialized component)
        ⟨after blockSize elementSize config calls, memory, system⟩
  /-- Nothing wraps. -/
  unwrapped : (after blockSize elementSize config calls).initChecked memory system count =
    some ((after blockSize elementSize config calls).init memory system count)

variable {blockSize} (bounded : blockSize < wordLimit) (memory : Memory) (system : System)
  (count : Nat)

include bounded

/-- Elements that fit in a block are whole words. -/
theorem words_after (fit : (after blockSize elementSize config calls).elementSize ≤
      (after blockSize elementSize config calls).room) :
    (after blockSize elementSize config calls).elementSize % wordBytes = 0 := by
  obtain ⟨blocks, elements, -⟩ := same_after blockSize elementSize config calls
  have word : 1 < wordLimit := by decide
  have blocks : (after blockSize elementSize config calls).blockSize = blockSize := blocks
  unfold room Slab.headerBytes at fit
  rw [blocks] at fit
  rw [elements] at fit ⊢
  exact roundUpToWord_mod (by
    have fit : roundUpToWord elementSize ≤ blockSize - 64 := fit
    omega)

theorem fault?_init_after :
    fault? ((after blockSize elementSize config calls).init memory system count) =
      firstFailure (setUpTests blockSize (roundUpToWord elementSize) count
        (wasSetUp blockSize elementSize config calls) system) := by
  have words := words_after elementSize config calls bounded
  have same := same_after blockSize elementSize config calls
  rw [fault?_init words, same.blockSize, same.elementSize, ready_after]
  rfl

theorem traceless_after {fault : Fault}
    (failed : (after blockSize elementSize config calls).init memory system count = .error fault) :
    (initCourse count).run ⟨after blockSize elementSize config calls, memory, system⟩ =
      .error fault ⟨after blockSize elementSize config calls, memory, system⟩ := by
  rw [initCourse_run (words_after elementSize config calls bounded), failed]
  rfl

theorem setUpLaw : SetUpLaw blockSize elementSize config calls memory system count where
  succeeds := by
    rw [exists_ok_iff, fault?_init_after elementSize config calls bounded, firstFailure_eq_none_iff]
    have limit : Nat.pow 2 63 - 64 < wordLimit := by decide
    have room : 0 < roundUpToWord elementSize →
        (roundUpToWord elementSize ≤ blockSize - Slab.headerBytes ↔
          roundUpToWord elementSize + 64 ≤ blockSize) := by
      intro positive
      unfold Slab.headerBytes
      omega
    simp only [setUpTests, List.forall_mem_cons, List.not_mem_nil, false_implies, implies_true,
      and_true, decide_eq_true_eq, Bool.not_eq_true', Bool.or_eq_true, ← Nat.pos_iff_ne_zero]
    constructor
    · rintro ⟨first, positive, fits, -, small, empty | grants⟩
      · exact ⟨first, ⟨positive, (room positive).1 fits⟩, .inl empty⟩
      · exact ⟨first, ⟨positive, (room positive).1 fits⟩, .inr ⟨small, grants⟩⟩
    · rintro ⟨first, ⟨positive, fits⟩, rfl | ⟨small, grants⟩⟩
      · rw [Nat.zero_mul]
        exact ⟨first, positive, (room positive).2 fits, by decide, by decide, .inl rfl⟩
      · exact ⟨first, positive, (room positive).2 fits, Nat.lt_of_le_of_lt small limit, small,
          .inr grants⟩
  reports := by
    intro fault
    rw [eq_error_iff, fault?_init_after elementSize config calls bounded]
  traceless := fun _ failed => traceless_after elementSize config calls bounded memory system count
    failed
  retried := Manner.run_of_failures
  once := by
    intro again
    apply traceless_after elementSize config calls bounded
    rw [eq_error_iff, fault?_init_after elementSize config calls bounded, again]
    rfl
  unwrapped := initChecked_eq _ _ _ _

end ElementPool

/-- **Pools are set up once, exactly if they can be.** After any calls on a pool, whatever system
and memory they met, setting it up succeeds exactly if no set-up has succeeded yet, the sizes
are right and the system grants the region it needs, if any; else the first test that fails is
reported and nothing has changed. Failures do not count, and after a success every set-up fails
and changes nothing. No step wraps, the offsets of cache blocks included. -/
theorem pools_set_up_once :
    (∀ blockSize calls system count, BlockPool.SetUpLaw blockSize calls system count) ∧
      ∀ blockSize elementSize config calls memory system count, blockSize < wordLimit →
        ElementPool.SetUpLaw blockSize elementSize config calls memory system count :=
  ⟨BlockPool.setUpLaw, fun _ elementSize config calls memory system count bounded =>
    ElementPool.setUpLaw elementSize config calls bounded memory system count⟩

/-- The largest regions there are, after a set-up that the system refused: one block more, or one
element more, is too large. A second set-up fails. -/
theorem pools_set_up_once_largest :
    let generous := System.start fun _ _ _ => some 65536
    let stingy := System.start fun _ _ _ => none
    (∃ made, (BlockPool.after 4096 [.init stingy 2]).init generous (Nat.pow 2 51 - 1) = .ok made) ∧
      (BlockPool.after 4096 [.init stingy 2]).init generous (Nat.pow 2 51) =
        .error (.invalidLayout "block cache exceeds isize::MAX") ∧
      (BlockPool.after 4096 [.init stingy 2, .init generous 2]).init generous 0 =
        .error (.alreadyInitialized "block pool") ∧
      (∃ made, (ElementPool.after 4096 3 .standard [.init .zeroed stingy 2]).init .zeroed generous
        (Nat.pow 2 60 - 16) = .ok made) ∧
      (ElementPool.after 4096 3 .standard [.init .zeroed stingy 2]).init .zeroed generous
        (Nat.pow 2 60 - 15) = .error (.invalidLayout "resident slab exceeds isize::MAX") := by
  intro generous stingy
  obtain ⟨blocks, elements⟩ := pools_set_up_once
  refine ⟨(blocks _ _ _ _).succeeds.2 ?_, ((blocks _ _ _ _).reports _).2 ?_,
    ((blocks _ _ _ _).reports _).2 ?_,
    (elements _ _ _ _ _ _ _ (by decide)).succeeds.2 ?_,
    ((elements _ _ _ _ _ _ _ (by decide)).reports _).2 ?_⟩
  · exact ⟨by decide, by decide, .inr ⟨by decide, rfl⟩⟩
  · decide
  · decide
  · exact ⟨by decide, by decide, .inr ⟨by decide, rfl⟩⟩
  · decide

end SlabAllocator
