import SlabAllocator.Proofs.ElementPool.SetUp

/-! Whether the elements of a pool fit in its blocks. Their size is rounded up when the pool is
made, compared with the room in a block when the pool is set up, and looked at once more when a
block is made a slab. The three agree at every size, so a pool that was set up has no block it
cannot use. -/
namespace SlabAllocator.ElementPool

/-- A size is rounded up to words. It is the largest word if no such size is a word. -/
theorem roundUpToWord_eq {size : Nat} (word : size < wordLimit) :
    roundUpToWord size = (Checked.nextMultiple size wordBytes).getD (wordLimit - 1) := by
  have whole : wordLimit % wordBytes = 0 := by decide
  unfold roundUpToWord Checked.nextMultiple Checked.sum
  unfold wordBytes at whole ⊢
  simp only
  by_cases even : size % 8 = 0
  · have same : (size + (8 - 1)) / 8 * 8 = size := by omega
    rw [same, if_pos word, if_pos even]
    rfl
  · have next : (size + (8 - 1)) / 8 * 8 = size + (8 - size % 8) := by omega
    rw [next, if_neg even]
    split <;> rfl

/-- What the tests of a set-up are worth to a pool of elements of a `requested` size. -/
structure Vetted (blockSize requested : Nat) (config : Config) (memory : Memory)
    (system : System) (count : Nat) : Prop where
  rounded : (new blockSize requested config).elementSize =
    (Checked.nextMultiple requested wordBytes).getD (wordLimit - 1)
  /-- The sizes pass exactly if any block of the source can be made a slab. -/
  accepts : blockSize % wordBytes = 0 → ∀ scratch block,
    ((∀ reason, (new blockSize requested config).init memory system count ≠
        .error (.invalidConfig reason)) ↔
      ∃ made, Slab.format? scratch block blockSize (new blockSize requested config).elementSize =
        some made)
  overflows : Checked.nextMultiple requested wordBytes = none →
    ∃ reason, (new blockSize requested config).init memory system count =
      .error (.invalidConfig reason)
  /-- A region that the system grants is never given back. -/
  keeps : (new blockSize requested config).init memory system count ≠
    .error (.invalidConfig "resident slab cannot hold an element")
  /-- There is a resident slab if elements were asked for, and it has just so many slots. -/
  exact : ∀ setup, (new blockSize requested config).init memory system count = .ok setup →
    (setup.pool.resident.isSome = true ↔ 0 < count) ∧
      ∀ resident ∈ setup.pool.resident,
        (Slab.Header.load setup.memory resident.base).maxCount = count
  /-- So the assertion on its slots never fails. -/
  asserted : (new blockSize requested config).init? memory system count =
    .ok ((new blockSize requested config).init memory system count)

variable {pool : ElementPool} {memory : Memory} {system : System} {count : Nat} {setup : Setup}

/-- The sizes pass if elements are not empty and fit behind the header of a block. Otherwise it
is their size that is reported. -/
theorem init_vets (unready : pool.ready = false)
    (words : pool.elementSize ≤ pool.room → pool.elementSize % wordBytes = 0) (memory : Memory)
    (system : System) (count : Nat) :
    (0 < pool.elementSize ∧ pool.elementSize ≤ pool.room) ∧
        (∀ reason, pool.init memory system count ≠ .error (.invalidConfig reason)) ∨
      ¬ (0 < pool.elementSize ∧ pool.elementSize ≤ pool.room) ∧
        ∃ text, pool.init memory system count = .error (.invalidConfig ("element size " ++ text)) := by
  have tests := fault?_init words memory system count
  rw [unready] at tests
  unfold setUpTests at tests
  simp only [firstFailure, Bool.not_false, ↓reduceIte] at tests
  unfold room
  by_cases positive : pool.elementSize = 0
  · right
    refine ⟨by omega, "must be non-zero", ?_⟩
    rw [eq_error_iff, tests, if_neg (by simp [positive])]
    rfl
  · rw [if_pos (by simp [positive])] at tests
    by_cases fits : pool.elementSize ≤ pool.blockSize - Slab.headerBytes
    · left
      refine ⟨⟨Nat.pos_of_ne_zero positive, fits⟩, fun reason failed => ?_⟩
      rw [eq_error_iff, tests, if_pos (decide_eq_true fits)] at failed
      split at failed
      · split at failed
        · split at failed <;> cases failed
        · cases failed
      · cases failed
    · right
      rw [if_neg (by simpa using fits), ← eq_error_iff] at tests
      simp only [String.append_assoc] at tests
      exact ⟨fun passes => fits passes.2, _, tests⟩

/-- A resident slab has as many slots as elements were asked for. -/
theorem init_exact (words : pool.elementSize ≤ pool.room → pool.elementSize % wordBytes = 0)
    (bare : pool.resident = none) (made : pool.init memory system count = .ok setup) :
    (setup.pool.resident.isSome = true ↔ 0 < count) ∧
      ∀ resident ∈ setup.pool.resident,
        (Slab.Header.load setup.memory resident.base).maxCount = count := by
  have passed := firstFailure_eq_none_iff.1
    ((fault?_init words memory system count).symm.trans (exists_ok_iff.1 ⟨setup, made⟩))
  have short : count * pool.elementSize + Slab.headerBytes < wordLimit := by
    simp only [setUpTests, List.forall_mem_cons, decide_eq_true_eq] at passed
    exact passed.2.2.2.1
  obtain ⟨-, -, fitted⟩ := init_cases made
  cases fitted with
  | bare => simp [bare]
  | resident some shaped request blank =>
    rw [residentLayout_size shaped] at blank
    obtain ⟨positive, -, loaded⟩ := Slab.load_of_format? blank short
    refine ⟨by simp [Nat.pos_of_ne_zero some], ?_⟩
    rintro resident ⟨⟩
    rw [loaded]
    simp only [Nat.add_sub_cancel, Nat.mul_div_cancel _ positive]

/-- The assertion on the slots of a resident slab never fails. -/
theorem init?_eq (words : pool.elementSize ≤ pool.room → pool.elementSize % wordBytes = 0)
    (bare : pool.ready = false → pool.resident = none) (memory : Memory) (system : System)
    (count : Nat) : pool.init? memory system count = .ok (pool.init memory system count) := by
  unfold init?
  cases made : pool.init memory system count with
  | error fault => rfl
  | ok setup =>
    obtain ⟨-, slots⟩ := init_exact words (bare (init_cases made).1) made
    simp only
    split
    · rfl
    · next resident known => rw [if_pos (slots resident known)]

variable {blockSize requested : Nat} {config : Config}

/-- **The tests of a set-up are right.** -/
theorem vetted (bounded : blockSize < wordLimit) (word : requested < wordLimit) :
    Vetted blockSize requested config memory system count := by
  have header : Slab.headerBytes = 64 := rfl
  have room : (new blockSize requested config).room = blockSize - Slab.headerBytes := rfl
  have rounded : (new blockSize requested config).elementSize =
      (Checked.nextMultiple requested wordBytes).getD (wordLimit - 1) := roundUpToWord_eq word
  have words := (measured_new blockSize requested config).whole_elements bounded
  have vets := init_vets rfl words memory system count
  refine ⟨rounded, ?accepts, ?overflows, ?keeps, fun setup => init_exact words rfl,
    init?_eq words (fun _ => rfl) memory system count⟩
  case accepts =>
    intro whole scratch block
    rw [Slab.exists_format?_iff]
    obtain ⟨⟨positive, fits⟩, passes⟩ | ⟨unfit, text, failed⟩ := vets
    · exact iff_of_true passes ⟨positive, words fits, whole, by omega⟩
    · refine iff_of_false (fun passes => passes _ failed) ?_
      rintro ⟨positive, -, -, fits⟩
      exact unfit ⟨positive, by omega⟩
  case overflows =>
    intro beyond
    rw [beyond, Option.getD_none] at rounded
    obtain ⟨⟨-, fits⟩, -⟩ | ⟨-, text, failed⟩ := vets
    · have large : 64 < wordLimit := by decide
      omega
    · exact ⟨_, failed⟩
  case keeps =>
    intro kept
    obtain ⟨-, passes⟩ | ⟨-, text, failed⟩ := vets
    · exact passes _ kept
    · rw [failed] at kept
      have same := Fault.invalidConfig.inj (Except.error.inj kept)
      have letter := congrArg (fun text => text.toList.head?) same
      simp at letter

end SlabAllocator.ElementPool
