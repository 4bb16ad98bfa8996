/-! Named values in the order in which they were added. -/
namespace SlabAllocator

/-- Values by name, oldest first. -/
structure Table (α : Type) where
  entries : List (String × α)
  deriving Repr

namespace Table

variable {α : Type}

/-- No values. -/
def empty : Table α :=
  ⟨[]⟩

/-- The value of a name. -/
def find? (table : Table α) (name : String) : Option α :=
  (table.entries.find? fun entry => entry.1 == name).map Prod.snd

/-- The names that have a value, oldest first. -/
def names (table : Table α) : List String :=
  table.entries.map Prod.fst

/-- The number of names that have a value. -/
def size (table : Table α) : Nat :=
  table.entries.length

/-- Replaces the value of a name where it stands, in a list of entries. -/
def replace (name : String) (value : α) : List (String × α) → List (String × α)
  | [] => [(name, value)]
  | entry :: rest =>
    if entry.1 = name then (name, value) :: rest else entry :: replace name value rest

/-- Gives a name a value. A new name comes last, a known one keeps its place. -/
def insert (table : Table α) (name : String) (value : α) : Table α :=
  ⟨replace name value table.entries⟩

/-- Takes the value of a name away. -/
def erase (table : Table α) (name : String) : Table α :=
  ⟨table.entries.filter fun entry => entry.1 != name⟩

theorem find?_insert_self (table : Table α) (name : String) (value : α) :
    (table.insert name value).find? name = some value := by
  obtain ⟨entries⟩ := table
  induction entries with
  | nil => simp [insert, replace, find?]
  | cons entry rest ih =>
    by_cases same : entry.1 = name
    · simp [insert, replace, find?, same]
    · simpa [insert, replace, find?, same] using ih

theorem find?_insert_of_ne (table : Table α) {name other : String} (value : α)
    (different : other ≠ name) : (table.insert name value).find? other = table.find? other := by
  obtain ⟨entries⟩ := table
  induction entries with
  | nil => simp [insert, replace, find?, different.symm]
  | cons entry rest ih =>
    by_cases same : entry.1 = name
    · simp [insert, replace, find?, same, different.symm]
    · by_cases found : entry.1 = other
      · simp [insert, replace, find?, found, different]
      · simpa [insert, replace, find?, same, found] using ih

theorem find?_erase_self (table : Table α) (name : String) :
    (table.erase name).find? name = none := by
  simp [erase, find?]

theorem find?_erase_of_ne (table : Table α) {name other : String} (different : other ≠ name) :
    (table.erase name).find? other = table.find? other := by
  obtain ⟨entries⟩ := table
  induction entries with
  | nil => rfl
  | cons entry rest ih =>
    simp only [erase, find?] at ih ⊢
    by_cases same : entry.1 = name
    · simpa [same, different.symm] using ih
    · by_cases found : entry.1 = other
      · simp [found, different]
      · simpa [same, found] using ih

end Table

end SlabAllocator
