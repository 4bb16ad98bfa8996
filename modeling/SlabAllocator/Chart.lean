import SlabAllocator.Word

/-! Functions on addresses that are changed a range at a time. A chart is kept in
parts, so that what it shows at an address is found without going through every
change ever made. The single law of a change is `look_apply`; it holds however
the chart happens to be divided. -/
namespace SlabAllocator

/-- A function on addresses. -/
inductive Chart (α : Type)
  /-- One rule for all addresses. -/
  | whole (rule : Nat → α)
  /-- One chart for the addresses below a boundary, another for the rest. -/
  | divided (boundary : Nat) (below above : Chart α)

/-- A change of a function on addresses: what is shown from `start` on, by position. -/
structure Patch (α : Type) where
  start : Nat
  length : Nat
  content : Nat → α

namespace Patch

variable {α : Type}

/-- One past the last address that changes. -/
def finish (patch : Patch α) : Nat :=
  patch.start + patch.length

/-- A function as it is after the change. -/
def onto (patch : Patch α) (rule : Nat → α) (address : Nat) : α :=
  if patch.start ≤ address ∧ address < patch.finish then patch.content (address - patch.start)
  else rule address

theorem onto_inside (patch : Patch α) (rule : Nat → α) {address : Nat}
    (low : patch.start ≤ address) (high : address < patch.finish) :
    patch.onto rule address = patch.content (address - patch.start) :=
  if_pos ⟨low, high⟩

theorem onto_outside (patch : Patch α) (rule : Nat → α) {address : Nat}
    (away : address < patch.start ∨ patch.finish ≤ address) :
    patch.onto rule address = rule address :=
  if_neg (by omega)

end Patch

namespace Chart

variable {α : Type}

/-- What a chart shows at an address. -/
def look : Chart α → Nat → α
  | whole rule, address => rule address
  | divided boundary below above, address =>
    if address < boundary then below.look address else above.look address

/-- A chart in two parts. One that is whole is divided at `middle`. -/
def halves (middle : Nat) : Chart α → Nat × Chart α × Chart α
  | whole rule => (middle, whole rule, whole rule)
  | divided boundary below above => (boundary, below, above)

/-- Applies a patch to the part of a chart that shows the addresses from `low` to
`high`. A part of which the patch leaves something is halved first, but only so
many times. -/
def applyWithin (patch : Patch α) : (divisions low high : Nat) → Chart α → Chart α
  | 0, _, _, chart => whole (patch.onto chart.look)
  | divisions + 1, low, high, chart =>
    if patch.start ≤ low ∧ high ≤ patch.finish then whole (patch.onto chart.look)
    else
      let (boundary, below, above) := chart.halves (low + (high - low) / 2)
      divided boundary
        (if patch.start < boundary then below.applyWithin patch divisions low boundary else below)
        (if boundary < patch.finish then above.applyWithin patch divisions boundary high else above)

/-- Applies a patch. Halving the machine's address range as often as a word has
bits leads to single addresses. -/
def apply (chart : Chart α) (patch : Patch α) : Chart α :=
  chart.applyWithin patch 64 0 wordLimit

/-- Shows a value at one address. -/
def set (chart : Chart α) (address : Nat) (value : α) : Chart α :=
  chart.apply ⟨address, 1, fun _ => value⟩

theorem look_halves (chart : Chart α) (middle address : Nat) :
    (if address < (chart.halves middle).1 then (chart.halves middle).2.1.look address
      else (chart.halves middle).2.2.look address) = chart.look address := by
  cases chart with
  | whole rule => simp [halves, look]
  | divided boundary below above => rfl

private theorem look_applyWithin (patch : Patch α) (divisions : Nat) :
    ∀ low high chart address,
      (applyWithin patch divisions low high chart).look address =
        patch.onto chart.look address := by
  induction divisions with
  | zero => intro low high chart address; rfl
  | succ divisions ih =>
    intro low high chart address
    have parts := chart.look_halves (low + (high - low) / 2) address
    simp only [applyWithin]
    split
    · rfl
    · simp only [look]
      generalize chart.halves (low + (high - low) / 2) = halved at parts ⊢
      obtain ⟨boundary, below, above⟩ := halved
      simp only at parts ⊢
      by_cases side : address < boundary
      · rw [if_pos side] at parts ⊢
        split
        · rw [ih, Patch.onto, Patch.onto, parts]
        · rw [patch.onto_outside _ (.inl (by omega)), parts]
      · rw [if_neg side] at parts ⊢
        split
        · rw [ih, Patch.onto, Patch.onto, parts]
        · rw [patch.onto_outside _ (.inr (by omega)), parts]

/-- A chart shows the patch where the patch lies, and what it showed before elsewhere. -/
theorem look_apply (chart : Chart α) (patch : Patch α) (address : Nat) :
    (chart.apply patch).look address = patch.onto chart.look address :=
  look_applyWithin patch 64 0 wordLimit chart address

theorem look_set (chart : Chart α) (changed : Nat) (value : α) (address : Nat) :
    (chart.set changed value).look address =
      if address = changed then value else chart.look address := by
  rw [set, look_apply]
  split
  · next same =>
    subst same
    exact Patch.onto_inside _ _ (Nat.le_refl address) (Nat.lt_succ_self address)
  · next differ => exact Patch.onto_outside _ _ (Nat.lt_or_gt_of_ne differ)

end Chart

end SlabAllocator
