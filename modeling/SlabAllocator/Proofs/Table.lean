import Mathlib.Data.List.Nodup
import SlabAllocator.Table

/-! Tables by their entries. A table whose names are all different is taken apart
at a name, and the operations at that name are read off the parts. -/
namespace SlabAllocator.Table

variable {α : Type} {table : Table α} {name other : String} {value : α}

theorem find?_eq_none_iff : table.find? name = none ↔ name ∉ table.names := by
  unfold find? names
  rw [Option.map_eq_none_iff, List.find?_eq_none, List.mem_map]
  constructor
  · rintro absent ⟨entry, member, rfl⟩
    exact absent entry member (beq_self_eq_true _)
  · intro absent entry member same
    exact absent ⟨entry, member, eq_of_beq same⟩

theorem mem_of_find? (found : table.find? name = some value) : (name, value) ∈ table.entries := by
  unfold find? at found
  obtain ⟨entry, first, rfl⟩ := Option.map_eq_some_iff.1 found
  have same : entry.1 = name := by simpa using List.find?_some first
  rw [← same]
  exact List.mem_of_find?_eq_some first

theorem find?_of_mem (once : table.names.Nodup) (member : (name, value) ∈ table.entries) :
    table.find? name = some value := by
  cases found : table.find? name with
  | none => exact absurd (List.mem_map_of_mem member) (find?_eq_none_iff.1 found)
  | some first =>
    have both := List.inj_on_of_nodup_map once (mem_of_find? found) member rfl
    cases both
    rfl

theorem replace_of_absent {entries : List (String × α)} (absent : name ∉ entries.map Prod.fst)
    (value : α) : replace name value entries = entries ++ [(name, value)] := by
  induction entries with
  | nil => rfl
  | cons entry rest ih =>
    rw [List.map_cons, List.mem_cons, not_or] at absent
    unfold replace
    rw [if_neg (Ne.symm absent.1), ih absent.2]
    rfl

theorem replace_of_split {front back : List (String × α)} (absent : name ∉ front.map Prod.fst)
    (old value : α) :
    replace name value (front ++ (name, old) :: back) = front ++ (name, value) :: back := by
  induction front with
  | nil =>
    rw [List.nil_append, replace, if_pos rfl]
    rfl
  | cons entry rest ih =>
    rw [List.map_cons, List.mem_cons, not_or] at absent
    rw [List.cons_append, replace, if_neg (Ne.symm absent.1), ih absent.2]
    rfl

private theorem filter_absent {entries : List (String × α)} (absent : name ∉ entries.map Prod.fst) :
    (entries.filter fun entry => entry.1 != name) = entries := by
  rw [List.filter_eq_self]
  intro entry member
  rw [bne_iff_ne]
  rintro rfl
  exact absent (List.mem_map_of_mem member)

theorem erase_of_absent (absent : name ∉ table.names) : table.erase name = table := by
  unfold erase
  rw [filter_absent absent]

/-- A table at one of its names. -/
theorem split (once : table.names.Nodup) (found : table.find? name = some value) :
    ∃ front back, table.entries = front ++ (name, value) :: back ∧
      (table.erase name).entries = front ++ back ∧
      ∀ other, (table.insert name other).entries = front ++ (name, other) :: back := by
  obtain ⟨front, back, parts⟩ := List.append_of_mem (mem_of_find? found)
  unfold names at once
  rw [parts, List.map_append, List.map_cons] at once
  obtain ⟨absent, -⟩ := List.nodup_cons.1 (List.perm_middle.nodup_iff.1 once)
  rw [List.mem_append, not_or] at absent
  refine ⟨front, back, parts, ?_, fun other => ?_⟩
  · unfold erase
    rw [parts, List.filter_append, List.filter_cons_of_neg (by simp), filter_absent absent.1,
      filter_absent absent.2]
  · unfold insert
    rw [parts]
    exact replace_of_split absent.1 value other

/-- What is listed for every entry of a table, taken apart at a name. -/
theorem flatMap_split {β : Type} (once : table.names.Nodup) (found : table.find? name = some value)
    (listed : String × α → List β) : ∃ rest,
      (table.entries.flatMap listed).Perm (listed (name, value) ++ rest) ∧
      (table.erase name).entries.flatMap listed = rest ∧
      ∀ other, ((table.insert name other).entries.flatMap listed).Perm
        (listed (name, other) ++ rest) := by
  obtain ⟨front, back, parts, erased, inserted⟩ := split once found
  have moved (other : α) : ((front ++ (name, other) :: back).flatMap listed).Perm
      (listed (name, other) ++ (front ++ back).flatMap listed) := by
    rw [List.flatMap_append, List.flatMap_cons, List.flatMap_append, ← List.append_assoc,
      ← List.append_assoc]
    exact List.perm_append_comm.append_right _
  refine ⟨_, ?_, congrArg _ erased, fun other => ?_⟩
  · rw [parts]
    exact moved value
  · rw [inserted]
    exact moved other

theorem insert_same (once : table.names.Nodup) (found : table.find? name = some value) :
    table.insert name value = table := by
  obtain ⟨front, back, parts, -, inserted⟩ := split once found
  have same := (inserted value).trans parts.symm
  cases table
  exact congrArg Table.mk same

/-- The last value of a name counts. -/
theorem insert_insert (table : Table α) (name : String) (first second : α) :
    (table.insert name first).insert name second = table.insert name second := by
  obtain ⟨entries⟩ := table
  unfold insert
  congr 1
  induction entries with
  | nil => simp [replace]
  | cons entry rest ih =>
    by_cases same : entry.1 = name
    · simp [replace, same]
    · simp [replace, same, ih]

theorem names_insert (once : table.names.Nodup) (found : table.find? name = some value)
    (new : α) : (table.insert name new).names = table.names := by
  obtain ⟨front, back, parts, -, inserted⟩ := split once found
  unfold names
  rw [parts, inserted new, List.map_append, List.map_append]
  rfl

theorem size_insert (table : Table α) (name : String) (value : α) :
    ∃ rest, (table.insert name value).size = rest + 1 := by
  obtain ⟨entries⟩ := table
  cases entries with
  | nil => exact ⟨0, rfl⟩
  | cons entry rest =>
    unfold insert replace size
    simp only
    split <;> exact ⟨_, rfl⟩

/-- A new name goes behind all others. -/
theorem entries_insert_absent (absent : name ∉ table.names) (new : α) :
    (table.insert name new).entries = table.entries ++ [(name, new)] :=
  replace_of_absent absent new

theorem names_insert_absent (absent : name ∉ table.names) (new : α) :
    (table.insert name new).names = table.names ++ [name] := by
  unfold names
  rw [entries_insert_absent absent, List.map_append]
  rfl

theorem names_erase (table : Table α) (name : String) :
    (table.erase name).names = table.names.filter fun other => other != name := by
  unfold names erase
  rw [List.filter_map]
  rfl

/-- What is found after a change at a name is the new value, or it was found before. -/
theorem find?_insert_cases {new : α} (found : (table.insert name new).find? other = some value) :
    other = name ∧ value = new ∨ other ≠ name ∧ table.find? other = some value := by
  by_cases same : other = name
  · subst same
    rw [find?_insert_self] at found
    cases found
    exact .inl ⟨rfl, rfl⟩
  · rw [find?_insert_of_ne _ _ same] at found
    exact .inr ⟨same, found⟩

/-- What is found without a name was found before, under another name. -/
theorem find?_erase_cases (found : (table.erase name).find? other = some value) :
    other ≠ name ∧ table.find? other = some value := by
  have different : other ≠ name := by
    rintro rfl
    rw [find?_erase_self] at found
    cases found
  rw [find?_erase_of_ne _ different] at found
  exact ⟨different, found⟩

theorem mem_names (found : table.find? name = some value) : name ∈ table.names :=
  List.mem_map_of_mem (mem_of_find? found)

theorem erase_insert (table : Table α) (name : String) (value : α) :
    (table.insert name value).erase name = table.erase name := by
  obtain ⟨entries⟩ := table
  unfold insert erase
  congr 1
  induction entries with
  | nil => simp [replace]
  | cons entry rest ih =>
    unfold replace
    by_cases same : entry.1 = name
    · simp [same]
    · simp only [same, ↓reduceIte, List.filter_cons]
      rw [ih]

end SlabAllocator.Table
