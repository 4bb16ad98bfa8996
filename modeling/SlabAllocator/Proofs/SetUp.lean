import SlabAllocator.System

/-! Pools that are set up once. The tests of a set-up are made one after the other, and the
first that fails is reported; among the tests is one that no set-up has succeeded before, so
its outcome depends on the calls so far. -/
namespace SlabAllocator

/-! ## Tests in order -/

section tests

variable {α : Type} {outcome : Except Fault α} {fault : Fault}

/-- The fault a call ends with, if it does. -/
def fault? : Except Fault α → Option Fault
  | .error fault => some fault
  | .ok _ => none

theorem eq_error_iff : outcome = .error fault ↔ fault? outcome = some fault := by
  cases outcome <;> simp [fault?]

theorem exists_ok_iff : (∃ answer, outcome = .ok answer) ↔ fault? outcome = none := by
  cases outcome <;> simp [fault?]

/-- The fault of the first test that fails. Each test comes with the fault it reports. -/
def firstFailure : List (Bool × Fault) → Option Fault
  | [] => none
  | (passed, fault) :: rest => if passed then firstFailure rest else some fault

theorem firstFailure_eq_none_iff {tests : List (Bool × Fault)} :
    firstFailure tests = none ↔ ∀ test ∈ tests, test.1 = true := by
  induction tests with
  | nil => simp [firstFailure]
  | cons test rest ih =>
    obtain ⟨passed, fault⟩ := test
    cases passed <;> simp [firstFailure, ih]

/-- A call that makes a test, and goes on if it passes, goes through the tests in order if the
rest of it does. -/
theorem fault?_ite {condition : Prop} [Decidable condition] {passed : Bool} {rest : Except Fault α}
    {tests : List (Bool × Fault)} (decides : passed = true ↔ ¬ condition)
    (more : ¬ condition → fault? rest = firstFailure tests) :
    fault? (if condition then .error fault else rest) =
      firstFailure ((passed, fault) :: tests) := by
  unfold firstFailure
  by_cases stops : condition
  · rw [if_pos stops, if_neg (mt decides.1 (not_not_intro stops))]
    rfl
  · rw [if_neg stops, if_pos (decides.2 stops)]
    exact more stops

end tests

/-! ## Regions from the system -/

/-- Whether a request for memory is granted. -/
def System.grants (system : System) (layout : Layout) : Bool :=
  (system.policy system.granted system.held layout).isSome

theorem System.request_of_grants {system : System} {layout : Layout}
    (grants : system.grants layout = true) :
    ∃ start, system.request layout = .ok (start, { system with
      granted := ⟨start, layout.size⟩ :: system.granted
      held := ⟨start, layout.size⟩ :: system.held }) := by
  obtain ⟨start, decided⟩ := Option.isSome_iff_exists.1 grants
  unfold request
  rw [decided]
  exact ⟨start, rfl⟩

theorem System.request_of_not_grants {system : System} {layout : Layout}
    (refuses : system.grants layout = false) :
    system.request layout = .error (.ofLayout layout) := by
  unfold request
  rw [Option.not_isSome_iff_eq_none.1 (Bool.eq_false_iff.1 refuses)]

/-- A region that has to start at a multiple of `align` exists unless it is too large. -/
theorem Layout.of?_eq_ite {size align largest : Nat}
    (power : align ≠ 0 ∧ align &&& (align - 1) = 0) (within : limit = largest + align) :
    of? size align = if size ≤ largest then some ⟨size, align⟩ else none := by
  have fits : size + align ≤ limit ↔ size ≤ largest := by omega
  unfold of?
  simp only [power.1, power.2, fits, ne_eq, not_false_eq_true, true_and]

/-- The tests on the way to a region: that its size is a word, that it is not too large to exist,
and that the system grants it. -/
theorem fault?_region {α : Type} {size align largest : Nat} {wide long : Fault}
    {layout : Except Fault Layout} {place : Layout → Nat × System → Except Fault α}
    (shaped : layout = if size < wordLimit then
        if size ≤ largest then .ok ⟨size, align⟩ else .error long
      else .error wide)
    (placed : layout = .ok ⟨size, align⟩ →
      ∀ granted, fault? (place ⟨size, align⟩ granted) = none) (system : System) :
    fault? (layout >>= fun layout => system.request layout >>= place layout) =
      firstFailure [(decide (size < wordLimit), wide), (decide (size ≤ largest), long),
        (system.grants ⟨size, align⟩, .allocationFailed size align)] := by
  -- Two tests of the size, then the system; each failure cuts off the rest.
  by_cases short : size < wordLimit
  · rw [if_pos short] at shaped
    rw [decide_eq_true short]
    by_cases small : size ≤ largest
    · rw [if_pos small] at shaped
      have placed := placed shaped
      rw [shaped, decide_eq_true small]
      show fault? (system.request ⟨size, align⟩ >>= place ⟨size, align⟩) = _
      cases grants : system.grants ⟨size, align⟩ with
      | true =>
        obtain ⟨start, granted⟩ := System.request_of_grants grants
        rw [granted]
        exact placed _
      | false =>
        rw [System.request_of_not_grants grants]
        rfl
    · rw [if_neg small] at shaped
      rw [shaped, decide_eq_false small]
      rfl
  · rw [if_neg short] at shaped
    rw [shaped, decide_eq_false short]
    rfl

/-! ## Calls so far -/

/-- The calls a kind of pool answers. A call that succeeds leaves the pool in a new state. -/
structure Manner (π κ : Type) where
  answer : π → κ → Except Fault π
  /-- Whether a call, if it succeeds, sets the pool up. -/
  setsUp : κ → Bool

namespace Manner

variable {π κ : Type} (manner : Manner π κ)

/-- The pool after a call. One that fails leaves it as it was. -/
def after (pool : π) (call : κ) : π :=
  match manner.answer pool call with
  | .ok next => next
  | .error _ => pool

/-- The pool after calls. -/
def run (pool : π) (calls : List κ) : π :=
  calls.foldl manner.after pool

/-- Whether one of the calls has set the pool up. -/
def wasSetUp (pool : π) : List κ → Bool
  | [] => false
  | call :: rest =>
    manner.setsUp call && (fault? (manner.answer pool call)).isNone ||
      wasSetUp (manner.after pool call) rest

variable {manner} {pool : π} {calls : List κ}

/-- What every call that succeeds keeps true stays true. -/
theorem run_invariant (holds : π → Prop) (start : holds pool)
    (kept : ∀ {pool call next}, manner.answer pool call = .ok next → holds pool → holds next) :
    holds (manner.run pool calls) := by
  induction calls generalizing pool with
  | nil => exact start
  | cons call rest ih =>
    apply ih
    unfold after
    split
    · next next answered => exact kept answered start
    · exact start

/-- A flag that is raised by setting the pool up, and by nothing else, tells whether a call
has done so. -/
theorem flag_run (flag : π → Bool)
    (raised : ∀ {pool call next}, manner.answer pool call = .ok next →
      flag next = (manner.setsUp call || flag pool)) :
    flag (manner.run pool calls) = (manner.wasSetUp pool calls || flag pool) := by
  induction calls generalizing pool with
  | nil => rfl
  | cons call rest ih =>
    have here : flag (manner.after pool call) =
        (manner.setsUp call && (fault? (manner.answer pool call)).isNone || flag pool) := by
      unfold after
      cases answered : manner.answer pool call with
      | ok next => simpa [fault?] using raised answered
      | error fault => simp [fault?]
    show flag (manner.run (manner.after pool call) rest) = _
    rw [ih, here, wasSetUp, Bool.or_assoc, Bool.or_left_comm]

/-- Set-ups that fail leave the pool as it was. -/
theorem run_of_failures (only : ∀ call ∈ calls, manner.setsUp call = true)
    (failed : manner.wasSetUp pool calls = false) : manner.run pool calls = pool := by
  induction calls with
  | nil => rfl
  | cons call rest ih =>
    obtain ⟨here, later⟩ := Bool.or_eq_false_iff.1 failed
    rw [only call (by simp), Bool.true_and] at here
    have same : manner.after pool call = pool := by
      unfold after
      cases answered : manner.answer pool call with
      | ok next => simp [answered, fault?] at here
      | error fault => rfl
    rw [same] at later
    show manner.run (manner.after pool call) rest = pool
    rw [same]
    exact ih (fun other member => only other (by simp [member])) later

end Manner

end SlabAllocator
