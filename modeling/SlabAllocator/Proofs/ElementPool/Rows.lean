import SlabAllocator.ElementPool.Threading
import SlabAllocator.Ring.View

/-! Two rings as two plain lists. Every move a pool makes, taking a slab off its ring
and putting it at an end of the other, is said on the lists, for links of which each
is kept by itself. -/
namespace SlabAllocator.ElementPool

/-- The ring of slabs with room holds one list and the ring of slabs without the
other; no other ring is open. -/
def Rows (rings : Rings Links) (roomy full : List Nat) : Prop :=
  rings.Shows [fullRing, partialRing] fun ring => if ring = partialRing then roomy else full

namespace Rows

variable {rings : Rings Links} {roomy full front back : List Nat} {base : Nat}

private theorem of_update {contents : Nat → List Nat} {ring : Nat} {names : List Nat}
    (shows : rings.Shows [fullRing, partialRing] (Rings.update contents ring names))
    (first : Rings.update contents ring names partialRing = roomy)
    (second : Rings.update contents ring names fullRing = full) : Rows rings roomy full := by
  have same : ∀ other ∈ [fullRing, partialRing],
      (if other = partialRing then roomy else full) = Rings.update contents ring names other := by
    intro other member
    simp only [List.mem_cons, List.not_mem_nil, or_false] at member
    rcases member with rfl | rfl
    · rw [second]
      rfl
    · rw [first]
      rfl
  refine ⟨fun other member => ?_, shows.distinct, fun other member => ?_, ?_, ?_, ?_⟩
  · rw [same other member]
    exact shows.joined other member
  · rw [same other member]
    exact shows.once other member
  · intro left inLeft right inRight
    rw [same left inLeft, same right inRight]
    exact shows.apart left inLeft right inRight
  · intro name absent
    refine shows.detached name fun other member => ?_
    rw [← same other member]
    exact absent other member
  · rw [shows.linked]
    exact congrArg List.sum (List.map_congr_left fun other member => by rw [same other member])

theorem empty : Rows ((Rings.empty.openRing partialRing).openRing fullRing) [] [] :=
  of_update ((Rings.Shows.empty.openRing (by simp)).openRing (by decide)) rfl rfl

/-- No slab is on both rings or twice on one. -/
theorem nodup (rows : Rows rings roomy full) : (roomy ++ full).Nodup := by
  have first : roomy.Nodup := rows.once partialRing (by simp)
  have second : full.Nodup := rows.once fullRing (by simp)
  refine List.nodup_append.2 ⟨first, second, ?_⟩
  rintro name inRoomy other inFull rfl
  exact rows.apart partialRing (by simp) fullRing (by simp) (by decide) name inRoomy inFull

private theorem fresh (absent : base ∉ roomy ++ full) :
    ∀ other ∈ [fullRing, partialRing], base ∉ if other = partialRing then roomy else full := by
  intro other _
  rw [List.mem_append, not_or] at absent
  split
  · exact absent.1
  · exact absent.2

/-- A slab on no ring leads nowhere. -/
theorem detached (rows : Rows rings roomy full) (absent : base ∉ roomy ++ full) :
    rings.next (.node base) = .nowhere ∧ rings.prev (.node base) = .nowhere :=
  Rings.Shows.detached rows base (fresh absent)

/-- A slab on a ring has neighbours. -/
theorem linked (rows : Rows rings roomy full) (member : base ∈ roomy ++ full) :
    rings.next (.node base) ≠ .nowhere ∧ rings.prev (.node base) ≠ .nowhere := by
  rcases List.mem_append.1 member with inRoomy | inFull
  · exact rows.linked_node (show partialRing ∈ [fullRing, partialRing] by simp) inRoomy
  · exact rows.linked_node (show fullRing ∈ [fullRing, partialRing] by simp) inFull

private theorem unlink_roomy (rows : Rows rings (front ++ base :: back) full) :
    Rows (rings.unlink base) (front ++ back) full :=
  of_update (rows.unlink (show partialRing ∈ [fullRing, partialRing] by simp) rfl) rfl rfl

private theorem unlink_full (rows : Rows rings roomy (front ++ base :: back)) :
    Rows (rings.unlink base) roomy (front ++ back) :=
  of_update (rows.unlink (show fullRing ∈ [fullRing, partialRing] by simp) rfl) rfl rfl

theorem pushFront_roomy (rows : Rows rings roomy full) (absent : base ∉ roomy ++ full) :
    Rows (rings.pushFront partialRing base) (base :: roomy) full :=
  of_update (rows.pushFront (by simp) (fresh absent)) rfl rfl

theorem pushFront_full (rows : Rows rings roomy full) (absent : base ∉ roomy ++ full) :
    Rows (rings.pushFront fullRing base) roomy (base :: full) :=
  of_update (rows.pushFront (by simp) (fresh absent)) rfl rfl

theorem pushBack_roomy (rows : Rows rings roomy full) (absent : base ∉ roomy ++ full) :
    Rows (rings.pushBack partialRing base) (roomy ++ [base]) full :=
  of_update (rows.pushBack (by simp) (fresh absent)) rfl rfl

theorem pushBack_full (rows : Rows rings roomy full) (absent : base ∉ roomy ++ full) :
    Rows (rings.pushBack fullRing base) roomy (full ++ [base]) :=
  of_update (rows.pushBack (by simp) (fresh absent)) rfl rfl

private theorem erase_middle (absent : base ∉ front) :
    (front ++ base :: back).erase base = front ++ back := by
  rw [List.erase_append_right _ absent, List.erase_cons_head]

/-- What is left of both rows when a slab with room goes. -/
theorem erase_roomy (rows : Rows rings (front ++ base :: back) full) :
    (front ++ base :: back).erase base = front ++ back ∧ full.erase base = full := by
  obtain ⟨first, -, apart⟩ := List.nodup_append.1 rows.nodup
  have absent : base ∉ front := fun inside =>
    (List.nodup_append.1 first).2.2 base inside base List.mem_cons_self rfl
  exact ⟨erase_middle absent,
    List.erase_of_not_mem fun also => apart base (by simp) base also rfl⟩

/-- What is left of both rows when a slab without room goes. -/
theorem erase_full (rows : Rows rings roomy (front ++ base :: back)) :
    roomy.erase base = roomy ∧ (front ++ base :: back).erase base = front ++ back := by
  obtain ⟨-, second, apart⟩ := List.nodup_append.1 rows.nodup
  have absent : base ∉ front := fun inside =>
    (List.nodup_append.1 second).2.2 base inside base List.mem_cons_self rfl
  exact ⟨List.erase_of_not_mem fun also => apart base also base (by simp) rfl,
    erase_middle absent⟩

/-- A slab leaves whichever ring it is on. -/
theorem unlink (rows : Rows rings roomy full) (member : base ∈ roomy ++ full) :
    Rows (rings.unlink base) (roomy.erase base) (full.erase base) := by
  rcases List.mem_append.1 member with inRoomy | inFull
  · obtain ⟨front, back, rfl⟩ := List.append_of_mem inRoomy
    rw [rows.erase_roomy.1, rows.erase_roomy.2]
    exact rows.unlink_roomy
  · obtain ⟨front, back, rfl⟩ := List.append_of_mem inFull
    rw [rows.erase_full.1, rows.erase_full.2]
    exact rows.unlink_full

theorem not_mem_erase (rows : Rows rings roomy full) (base : Nat) :
    base ∉ roomy.erase base ++ full.erase base := by
  obtain ⟨first, second, -⟩ := List.nodup_append.1 rows.nodup
  rw [List.mem_append, not_or]
  exact ⟨first.not_mem_erase, second.not_mem_erase⟩

end Rows

end SlabAllocator.ElementPool
