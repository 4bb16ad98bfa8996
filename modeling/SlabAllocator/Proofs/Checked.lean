import SlabAllocator.Word

/-! Arithmetic that does not wrap. The operations here have no result where that of a machine
word would be another number. A calculation written out with them that always has a result,
and the plain one, is one that never wraps. -/
namespace SlabAllocator.Checked

variable {first second : Nat}

/-- The sum of two words. -/
def sum (first second : Nat) : Option Nat :=
  if first + second < wordLimit then some (first + second) else none

/-- The difference of two words. -/
def difference (first second : Nat) : Option Nat :=
  if second ≤ first then some (first - second) else none

/-- The product of two words. -/
def product (first second : Nat) : Option Nat :=
  if first * second < wordLimit then some (first * second) else none

/-- The least multiple of a positive number at or above a word. -/
def nextMultiple (value factor : Nat) : Option Nat :=
  if value % factor = 0 then some value else sum value (factor - value % factor)

theorem sum_eq (fits : first + second < wordLimit) : sum first second = some (first + second) :=
  if_pos fits

theorem difference_eq (fits : second ≤ first) : difference first second = some (first - second) :=
  if_pos fits

theorem product_eq (fits : first * second < wordLimit) :
    product first second = some (first * second) :=
  if_pos fits

/-- A calculation for each member of a list comes out if each of them does. -/
theorem mapM_eq {α β : Type} {members : List α} {calculate : α → Option β} {plain : α → β}
    (each : ∀ member ∈ members, calculate member = some (plain member)) :
    members.mapM calculate = some (members.map plain) := by
  induction members with
  | nil => rfl
  | cons head rest ih =>
    rw [List.mapM_cons, each head (by simp), ih fun member inside => each member (by simp [inside])]
    rfl

end SlabAllocator.Checked
