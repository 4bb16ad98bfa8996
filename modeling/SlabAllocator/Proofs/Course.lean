import SlabAllocator.Proofs.BlockPool.Keeping
import SlabAllocator.Proofs.ElementPool.Calls
import SlabAllocator.Proofs.Slab.Representation

/-! Calls step by step. A call that fails after it has changed something has to undo the
change. A course carries out the steps of a call in a state that no failure rolls back, so it
shows what a failure leaves behind; and it ends as the call does, in the state as it was if the
call fails. -/
namespace SlabAllocator

/-- Steps one after the other. A fault ends them, and the state stays as it is then. -/
abbrev Course (σ α : Type) := EStateM Fault σ α

section outcomes

variable {α β : Type}

@[simp]
theorem ok_bind (answer : α) (next : α → Except Fault β) :
    (Except.ok answer >>= next) = next answer := rfl

theorem pure_eq_ok (answer : α) : (pure answer : Except Fault α) = .ok answer := rfl

theorem error_bind (fault : Fault) (next : α → Except Fault β) :
    (Except.error fault >>= next) = Except.error fault := rfl

end outcomes

namespace Course

variable {σ α : Type}

/-- How a course ends that leaves no trace when it fails. -/
def ended (before : σ) : Except Fault (α × σ) → EStateM.Result Fault σ α
  | .error fault => .error fault before
  | .ok (answer, after) => .ok answer after

/-- Such a course fails in the state in which it began. -/
theorem ended_error {β : Type} {before after : σ} {outcome : Except Fault β} {change : β → α × σ}
    {fault : Fault} (failed : ended before (outcome.map change) = .error fault after) :
    after = before ∧ outcome = .error fault := by
  cases outcome with
  | error other =>
    cases failed
    exact ⟨rfl, rfl⟩
  | ok result => cases failed

@[simp]
theorem run_ofExcept (outcome : Except Fault α) (state : σ) :
    (MonadExcept.ofExcept outcome : Course σ α).run state = match outcome with
      | .ok answer => .ok answer state
      | .error fault => .error fault state := by
  cases outcome <;> rfl

end Course

namespace BlockPool

/-- Sets a pool up, step by step. The pool is looked at again once the region is there. -/
def initCourse (count : Nat) : Course (BlockPool × System) Unit := do
  let (pool, system) ← get
  if pool.blockSize < pageSize ∨ pool.blockSize % pageSize ≠ 0 then
    throw (.invalidConfig ("block size " ++ toString pool.blockSize ++
      " is not a positive multiple of " ++ toString pageSize))
  if pool.ready then throw (.alreadyInitialized component)
  if count = 0 then
    set (pool.withCache count none, system)
  else
    let layout ← MonadExcept.ofExcept (pool.cacheLayout count)
    let (start, granted) ← MonadExcept.ofExcept (system.request layout)
    set (pool, granted)
    let (found, system) ← get
    if found.ready then
      set (found, system.release ⟨start, layout.size⟩)
      throw (.alreadyInitialized component)
    set (found.withCache count (some ⟨start, layout.size⟩), system)

/-- Hands out a block, step by step. -/
def allocCourse : Course (BlockPool × System) Nat := do
  let (pool, system) ← get
  if ¬ pool.ready then throw (.notInitialized component)
  match pool.free with
  | block :: rest =>
    set ({ pool with free := rest }, system)
    set ({ pool with free := rest, cacheHits := pool.cacheHits + 1 }, system)
    return block
  | [] =>
    let layout ← MonadExcept.ofExcept pool.blockLayout
    let (block, granted) ← MonadExcept.ofExcept (system.request layout)
    set (pool, granted)
    set ({ pool with fallbackAllocs := pool.fallbackAllocs + 1 }, granted)
    return block

/-- Takes a block back, step by step. -/
def releaseCourse (block : Nat) : Course (BlockPool × System) Unit := do
  let (pool, system) ← get
  if pool.contains block then
    if ¬ pool.isBoundary block then throw (.foreignPointer block)
    set ({ pool with free := block :: pool.free }, system)
  else
    let layout ← MonadExcept.ofExcept pool.blockLayout
    let released := system.release ⟨block, layout.size⟩
    set (pool, released)
    set ({ pool with fallbackFrees := pool.fallbackFrees + 1 }, released)

variable (pool : BlockPool) (system : System)

theorem initCourse_run (count : Nat) : (initCourse count).run (pool, system) =
    Course.ended (pool, system) ((pool.init system count).map fun made => ((), made)) := by
  unfold initCourse init
  by_cases invalid : pool.blockSize < pageSize ∨ pool.blockSize % pageSize ≠ 0
  · simp [invalid, Course.ended, Except.map]
  · cases ready : pool.ready with
    | true => simp [invalid, ready, Course.ended, Except.map]
    | false =>
      by_cases empty : count = 0
      · simp [invalid, ready, empty, Course.ended, Except.map]
      · cases shaped : pool.cacheLayout count with
        | error fault => simp [invalid, ready, empty, shaped, error_bind, Course.ended, Except.map]
        | ok layout =>
          cases granted : system.request layout with
          | error fault => simp [invalid, ready, empty, shaped, granted, Course.ended, Except.map]
          | ok result => simp [invalid, ready, empty, shaped, granted, Course.ended, Except.map]

theorem allocCourse_run : allocCourse.run (pool, system) =
    Course.ended (pool, system) ((pool.alloc system).map fun taken =>
      (taken.block, (taken.source, taken.system))) := by
  unfold allocCourse alloc
  cases ready : pool.ready with
  | false => simp [ready, Course.ended, Except.map]
  | true =>
    cases free : pool.free with
    | cons block rest => simp [ready, free, Course.ended, Except.map, -bind_pure_comp]
    | nil =>
      cases shaped : pool.blockLayout with
      | error fault => simp [ready, free, shaped, error_bind, Course.ended, Except.map]
      | ok layout =>
        cases granted : system.request layout with
        | error fault => simp [ready, free, shaped, granted, Course.ended, Except.map]
        | ok result =>
          simp [ready, free, shaped, granted, pure_eq_ok, Course.ended, Except.map,
            -bind_pure_comp]

theorem releaseCourse_run (block : Nat) : (releaseCourse block).run (pool, system) =
    Course.ended (pool, system) ((pool.release system block).map fun given => ((), given)) := by
  unfold releaseCourse release
  cases inside : pool.contains block with
  | true =>
    cases boundary : pool.isBoundary block with
    | true => simp [inside, boundary, Course.ended, Except.map]
    | false => simp [inside, boundary, Course.ended, Except.map]
  | false =>
    cases shaped : pool.blockLayout with
    | error fault => simp [inside, shaped, Course.ended, Except.map]
    | ok layout => simp [inside, shaped, Course.ended, Except.map]

end BlockPool

/-! ## Slabs that are always there -/

/-- What the header of a slab says that was just made. -/
theorem Slab.load_of_format? {slabSize elementSize base : Nat} {memory formatted : Memory}
    (made : format? memory base slabSize elementSize = some formatted)
    (bounded : slabSize < wordLimit) : 0 < elementSize ∧
      let count := (slabSize - headerBytes) / elementSize
      count ≠ 0 ∧ Header.load formatted base =
        ⟨slabSize, elementSize, count, 0, slabSize - count * elementSize, 0⟩ := by
  unfold format? at made
  split at made
  · cases made
  · next valid =>
    simp only at made
    split at made
    · cases made
    · next some =>
      cases made
      have positive : 0 < elementSize := by
        unfold wordBytes at valid
        omega
      have less := Nat.div_le_self (slabSize - headerBytes) elementSize
      have fits : Header.Fits ⟨slabSize, elementSize, (slabSize - headerBytes) / elementSize, 0,
          slabSize - (slabSize - headerBytes) / elementSize * elementSize, 0⟩ := by
        have fit : elementSize ≤ slabSize - headerBytes :=
          Nat.le_of_not_lt fun large => some (Nat.div_eq_of_lt large)
        have word : 0 < wordLimit := by decide
        constructor <;> simp only <;> omega
      exact ⟨positive, some, Header.load_store fits _ _⟩

/-- A slab that was just made has a slot to hand out at once. -/
theorem Slab.format?_alloc? {slabSize elementSize base : Nat} {memory formatted : Memory}
    (made : format? memory base slabSize elementSize = some formatted)
    (bounded : slabSize < wordLimit) : ∃ first, alloc? formatted base = some first := by
  obtain ⟨positive, some, loaded⟩ := load_of_format? made bounded
  have whole := Nat.div_mul_le_self (slabSize - headerBytes) elementSize
  have used := Nat.mul_pos (Nat.pos_of_ne_zero some) positive
  unfold alloc?
  rw [loaded]
  simp only
  rw [if_neg (Ne.symm some), if_neg (by decide), if_pos (by omega)]
  exact ⟨_, rfl⟩

namespace ElementPool

/-- Sets a pool up, step by step. The region goes back if it cannot be made a slab. -/
def initCourse (count : Nat) : Course Setup Unit := do
  let ⟨pool, memory, system⟩ ← get
  if pool.ready then throw (.alreadyInitialized component)
  if pool.elementSize = 0 then throw (.invalidConfig "element size must be non-zero")
  if pool.room < pool.elementSize then
    throw (.invalidConfig ("element size " ++ toString pool.elementSize ++ " exceeds the " ++
      toString pool.room ++ " usable bytes of a " ++ toString pool.blockSize ++ "-byte block"))
  if count = 0 then
    set (⟨{ pool with ready := true }, memory, system⟩ : Setup)
  else
    let layout ← MonadExcept.ofExcept (pool.residentLayout count)
    let (base, granted) ← MonadExcept.ofExcept (system.request layout)
    set (⟨pool, memory, granted⟩ : Setup)
    match Slab.format? memory base layout.size pool.elementSize with
    | none =>
      set (⟨pool, memory, granted.release ⟨base, layout.size⟩⟩ : Setup)
      throw (.invalidConfig "resident slab cannot hold an element")
    | some formatted =>
      let resident : Resident := ⟨base, layout.size⟩
      set (⟨{ pool with resident := some resident }, formatted, granted⟩ : Setup)
      set (⟨{ pool with ready := true, resident := some resident }, formatted, granted⟩ : Setup)

variable {pool : ElementPool} {count : Nat} {layout : Layout}

/-- A resident slab is as large as its elements and its header. -/
theorem residentLayout_size (shaped : pool.residentLayout count = .ok layout) :
    layout.size = count * pool.elementSize + Slab.headerBytes := by
  unfold residentLayout at shaped
  simp only at shaped
  split at shaped
  · cases shaped
  · split at shaped
    · next found =>
      cases shaped
      rw [Layout.of?_eq found]
    · cases shaped

/-- A region of that size becomes a slab if elements are whole words. -/
theorem format?_resident (shaped : pool.residentLayout count = .ok layout) (wanted : count ≠ 0)
    (words : pool.elementSize % wordBytes = 0) (positive : pool.elementSize ≠ 0) (memory : Memory)
    (base : Nat) :
    ∃ formatted, Slab.format? memory base layout.size pool.elementSize = some formatted := by
  have size := residentLayout_size shaped
  have elements := Nat.le_mul_of_pos_left pool.elementSize (Nat.pos_of_ne_zero wanted)
  have whole : layout.size % wordBytes = 0 := by
    rw [size, Nat.add_mod, Nat.mul_mod, words]
    rfl
  exact (Slab.exists_format?_iff memory base layout.size pool.elementSize).2
    ⟨Nat.pos_of_ne_zero positive, words, whole, by omega⟩

/-- A pool that is set up for elements has asked the system for a slab of just that many. -/
theorem init_system {memory : Memory} {system : System} {setup : Setup}
    (made : pool.init memory system count = .ok setup) :
    (count = 0 ∧ setup.pool.resident = pool.resident ∧ setup.system = system) ∨
      count ≠ 0 ∧ ∃ base,
        setup.pool.resident = some ⟨base, count * pool.elementSize + Slab.headerBytes⟩ ∧
        setup.system = { system with
          granted := ⟨base, count * pool.elementSize + Slab.headerBytes⟩ :: system.granted
          held := ⟨base, count * pool.elementSize + Slab.headerBytes⟩ :: system.held } := by
  obtain ⟨-, -, fitted⟩ := init_cases made
  cases fitted with
  | bare => exact .inl ⟨rfl, rfl, rfl⟩
  | @resident _ base layout _ _ some shaped request =>
    rw [← residentLayout_size shaped, System.request_cases request]
    exact .inr ⟨some, base, rfl, rfl⟩

/-- A pool whose elements are whole words never has to give its resident slab back. -/
theorem initCourse_run (words : pool.elementSize ≤ pool.room → pool.elementSize % wordBytes = 0)
    (memory : Memory) (system : System) (count : Nat) :
    (initCourse count).run ⟨pool, memory, system⟩ =
      Course.ended ⟨pool, memory, system⟩ ((pool.init memory system count).map fun made =>
        ((), made)) := by
  unfold initCourse init
  cases ready : pool.ready with
  | true => simp [ready, Course.ended, Except.map]
  | false =>
    by_cases empty : pool.elementSize = 0
    · simp [ready, empty, Course.ended, Except.map]
    · by_cases large : pool.room < pool.elementSize
      · simp [ready, empty, large, Course.ended, Except.map]
      · by_cases none : count = 0
        · simp [ready, empty, large, none, Course.ended, Except.map]
        · cases shaped : pool.residentLayout count with
          | error fault =>
            simp [ready, empty, large, none, shaped, error_bind, Course.ended, Except.map]
          | ok layout =>
            cases granted : system.request layout with
            | error fault =>
              simp [ready, empty, large, none, shaped, granted, error_bind, Course.ended,
                Except.map]
            | ok result =>
              obtain ⟨formatted, made⟩ :=
                format?_resident shaped none (words (Nat.le_of_not_lt large)) empty memory result.1
              simp [ready, empty, large, none, shaped, granted, made, pure_eq_ok, Course.ended,
                Except.map]

end ElementPool

end SlabAllocator
