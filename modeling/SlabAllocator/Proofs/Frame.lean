import Mathlib.Data.List.Pairwise
import SlabAllocator.Memory
import SlabAllocator.System

/-! What a change of memory leaves alone. A change is confined to a region; words
and bytes of every region apart from it read as before. -/
namespace SlabAllocator

namespace Region

/-- One region ends before the other starts. -/
def Apart (first second : Region) : Prop :=
  first.finish ≤ second.start ∨ second.finish ≤ first.start

instance (first second : Region) : Decidable (Apart first second) :=
  inferInstanceAs (Decidable (_ ∨ _))

/-- The first region lies in the second. -/
def Within (inner outer : Region) : Prop :=
  outer.start ≤ inner.start ∧ inner.finish ≤ outer.finish

instance (inner outer : Region) : Decidable (Within inner outer) :=
  inferInstanceAs (Decidable (_ ∧ _))

variable {first second inner outer : Region}

theorem Within.refl (region : Region) : region.Within region :=
  ⟨Nat.le_refl _, Nat.le_refl _⟩

theorem Within.trans {whole : Region} (first : inner.Within outer) (second : outer.Within whole) :
    inner.Within whole :=
  ⟨Nat.le_trans second.1 first.1, Nat.le_trans first.2 second.2⟩

theorem Apart.symm (apart : first.Apart second) : second.Apart first :=
  Or.symm apart

theorem Apart.of_within (apart : outer.Apart second) (within : inner.Within outer) :
    inner.Apart second := by
  unfold Apart Within at *
  omega

theorem Apart.within (apart : outer.Apart second) {other : Region} (mine : inner.Within outer)
    (its : other.Within second) : inner.Apart other :=
  ((apart.of_within mine).symm.of_within its).symm

theorem contains_iff (region : Region) (address : Nat) :
    region.contains address = true ↔ region.start ≤ address ∧ address < region.finish := by
  simp [contains]

theorem Within.contains (within : inner.Within outer) {address : Nat}
    (inside : inner.contains address = true) : outer.contains address = true := by
  rw [contains_iff] at inside ⊢
  exact ⟨Nat.le_trans within.1 inside.1, Nat.lt_of_lt_of_le inside.2 within.2⟩

theorem not_contains_iff (region : Region) (address : Nat) :
    region.contains address = false ↔ address < region.start ∨ region.finish ≤ address := by
  rw [Bool.eq_false_iff, ne_eq, contains_iff]
  omega

theorem Within.not_contains (within : inner.Within outer) {address : Nat}
    (outside : outer.contains address = false) : inner.contains address = false := by
  rw [Bool.eq_false_iff] at outside ⊢
  exact fun inside => outside (within.contains inside)

/-- An address in one of two regions that are apart is not in the other. -/
theorem Apart.not_contains (apart : first.Apart second) {address : Nat}
    (inside : first.contains address = true) : second.contains address = false := by
  rw [contains_iff] at inside
  rw [Bool.eq_false_iff, ne_eq, contains_iff]
  unfold Apart at apart
  omega

theorem apart_of_perm {regions others : List Region} (split : regions.Perm others)
    (apart : regions.Pairwise Apart) : others.Pairwise Apart :=
  split.pairwise apart Apart.symm

theorem apart_of_ne {regions : List Region} (apart : regions.Pairwise Apart)
    (mine : first ∈ regions) (other : second ∈ regions) (different : first ≠ second) :
    first.Apart second := by
  have symmetric : Std.Symm Apart := ⟨fun _ _ => Apart.symm⟩
  exact apart.forall mine other different

/-- Different items of a family whose regions are apart. -/
theorem apart_of_mem {α : Type} {region : α → Region} {items : List α} {here there : α}
    (apart : (items.map region).Pairwise Apart) (mine : here ∈ items) (other : there ∈ items)
    (different : here ≠ there) : (region here).Apart (region there) := by
  have symmetric : Std.Symm fun left right : α => (region left).Apart (region right) :=
    ⟨fun _ _ => Apart.symm⟩
  exact (List.pairwise_map.1 apart).forall mine other different

end Region

namespace Memory

/-- Two memories show the same bytes in a region. -/
def Agree (before after : Memory) (region : Region) : Prop :=
  ∀ address, region.start ≤ address → address < region.finish →
    after.byte address = before.byte address

/-- Two memories show the same bytes outside a region. -/
def ChangedWithin (before after : Memory) (region : Region) : Prop :=
  ∀ address, address < region.start ∨ region.finish ≤ address →
    after.byte address = before.byte address

variable {before middle after : Memory} {region other : Region}

theorem ChangedWithin.byte_eq (changed : before.ChangedWithin after region) {address : Nat}
    (outside : region.contains address = false) : after.byte address = before.byte address :=
  changed address ((region.not_contains_iff address).1 outside)

theorem ChangedWithin.refl (memory : Memory) (region : Region) :
    memory.ChangedWithin memory region :=
  fun _ _ => rfl

theorem ChangedWithin.trans (first : before.ChangedWithin middle region)
    (second : middle.ChangedWithin after region) : before.ChangedWithin after region :=
  fun address outside => (second address outside).trans (first address outside)

theorem ChangedWithin.mono (changed : before.ChangedWithin after region)
    (within : region.Within other) : before.ChangedWithin after other := by
  intro address outside
  refine changed address ?_
  unfold Region.Within at within
  omega

theorem ChangedWithin.agree (changed : before.ChangedWithin after region)
    (apart : region.Apart other) : before.Agree after other := by
  intro address low high
  refine changed address ?_
  unfold Region.Apart at apart
  omega

theorem Agree.of_eq (same : after = before) (region : Region) : before.Agree after region := by
  subst same
  exact fun _ _ _ => rfl

theorem Agree.mono (agree : before.Agree after other) (within : region.Within other) :
    before.Agree after region := by
  intro address low high
  unfold Region.Within at within
  exact agree address (by omega) (by omega)

theorem changedWithin_paint (memory : Memory) (start length : Nat) (content : Nat → UInt8) :
    memory.ChangedWithin (memory.paint start length content) ⟨start, length⟩ := by
  intro address outside
  rw [byte_paint, if_neg]
  simp only [Region.finish] at outside
  omega

/-- A byte after a range was filled with one value. -/
theorem byte_fill (memory : Memory) (start length : Nat) (value : UInt8) (address : Nat) :
    (memory.fill start length value).byte address =
      if (⟨start, length⟩ : Region).contains address then value else memory.byte address := by
  unfold fill
  simp only [byte_paint, Region.contains_iff, Region.finish]

theorem changedWithin_setWord (memory : Memory) (address value : Nat) :
    memory.ChangedWithin (memory.setWord address value) ⟨address, wordBytes⟩ :=
  changedWithin_paint memory address wordBytes _

/-- Two memories show the same bytes outside some regions. -/
def ChangedAmong (before after : Memory) (regions : List Region) : Prop :=
  ∀ address, (∀ region ∈ regions, region.contains address = false) →
    after.byte address = before.byte address

theorem ChangedWithin.among {regions : List Region} (changed : before.ChangedWithin after region)
    (member : region ∈ regions) : before.ChangedAmong after regions :=
  fun _ outside => changed.byte_eq (outside region member)

namespace ChangedAmong

variable {regions others : List Region}

theorem refl (memory : Memory) (regions : List Region) : memory.ChangedAmong memory regions :=
  fun _ _ => rfl

theorem trans (first : before.ChangedAmong middle regions)
    (second : middle.ChangedAmong after regions) : before.ChangedAmong after regions :=
  fun address outside => (second address outside).trans (first address outside)

/-- Only what the regions cover counts. -/
theorem mono (changed : before.ChangedAmong after regions)
    (covered : ∀ region ∈ regions, ∃ other ∈ others, region.Within other) :
    before.ChangedAmong after others := by
  refine fun address outside => changed address fun region member => ?_
  obtain ⟨other, known, within⟩ := covered region member
  exact within.not_contains (outside other known)

theorem of_subset (changed : before.ChangedAmong after regions) (subset : regions ⊆ others) :
    before.ChangedAmong after others :=
  changed.mono fun region member => ⟨region, subset member, .refl region⟩

theorem agree (changed : before.ChangedAmong after regions)
    (apart : ∀ region ∈ regions, region.Apart other) : before.Agree after other := by
  intro address low high
  refine changed address fun region member => ?_
  exact (apart region member).symm.not_contains ((other.contains_iff address).2 ⟨low, high⟩)

end ChangedAmong

/-- Words are read from their eight bytes only. -/
theorem Agree.word_eq {address : Nat} (agree : before.Agree after ⟨address, wordBytes⟩) :
    after.word address = before.word address := by
  refine number_congr fun offset below => agree _ (Nat.le_add_right _ _) ?_
  unfold Region.finish
  simp only
  omega

end Memory

end SlabAllocator
