import SlabAllocator.ElementPool
import SlabAllocator.Proofs.ElementPool.Rows
import SlabAllocator.Proofs.Slab.Representation

/-! The rings of a pool, threaded through memory. `Threads` reads them as two rows of
slabs. It is proved through rings whose links are kept by themselves: as long as no
slab begins within the links of another, every move does the same on both, and it
writes nothing but links of slabs that are on a ring. -/
namespace SlabAllocator.ElementPool

open Slab (linkRegion)

/-- Slabs whose links can be told apart, from each other and from the anchors. -/
structure Spaced (bases : List Nat) : Prop where
  placed : ∀ base ∈ bases, 0 < base ∧ base + 16 < wordLimit
  apart : ∀ base ∈ bases, ∀ other ∈ bases, base ≠ other →
    (linkRegion base).Apart (linkRegion other)

/-- The spots among which links of these slabs lead. -/
def Known (bases : List Nat) : Spot → Prop
  | .nowhere => False
  | .anchor ring => ring = partialRing ∨ ring = fullRing
  | .node base => base ∈ bases

/-- The links in memory are those of the plain rings, at both anchors and at these slabs,
and memory differs from what it was in links of these slabs only. -/
structure Tracks (bases : List Nat) (origin : Memory) (rings : Rings Threading)
    (plain : Rings Links) : Prop where
  next : ∀ spot, Known bases spot → rings.next spot = plain.next spot
  prev : ∀ spot, Known bases spot → rings.prev spot = plain.prev spot
  changed : origin.ChangedAmong rings.store.memory (bases.map linkRegion)

/-- The rings in memory hold these slabs: the ring of slabs with room the first, the ring
of slabs without room the second. -/
def Threads (rings : Rings Threading) (roomy full : List Nat) : Prop :=
  Spaced (roomy ++ full) ∧ ∃ plain, Rows plain roomy full ∧
    Tracks (roomy ++ full) rings.store.memory rings plain

/-- A move leads to rings that hold these slabs, and it wrote links of `bases` only. -/
structure Moved (bases : List Nat) (rings after : Rings Threading) (roomy full : List Nat) :
    Prop where
  threads : Threads after roomy full
  changed : rings.store.memory.ChangedAmong after.store.memory (bases.map linkRegion)

theorem Spaced.subset {bases fewer : List Nat} (spaced : Spaced bases) (subset : fewer ⊆ bases) :
    Spaced fewer :=
  ⟨fun base member => spaced.placed base (subset member),
    fun base member other also => spaced.apart base (subset member) other (subset also)⟩

theorem Known.subset {bases fewer : List Nat} {spot : Spot} (known : Known fewer spot)
    (subset : fewer ⊆ bases) : Known bases spot := by
  cases spot with
  | nowhere => exact known
  | anchor ring => exact known
  | node base => exact subset known

/-! ## Single links -/

section Single

variable {bases : List Nat} {rings : Rings Threading} {plain : Rings Links} {here there spot : Spot}

/-- A link that can be stored is read back. -/
private theorem spotOfWord_word (spaced : Spaced bases)
    (stored : Known bases there ∨ there = .nowhere) :
    there.word < wordLimit ∧ spotOfWord there.word = there := by
  unfold spotOfWord
  rcases stored with known | rfl
  · cases there with
    | nowhere => exact known.elim
    | anchor ring => rcases known with rfl | rfl <;> decide
    | node base =>
      have top : wordLimit = 18446744073709551616 := rfl
      have first : (Spot.anchor partialRing).word = 18446744073709551615 := rfl
      have second : (Spot.anchor fullRing).word = 18446744073709551614 := rfl
      have same : (Spot.node base).word = base := rfl
      obtain ⟨low, high⟩ := spaced.placed base known
      rw [same, if_neg (by omega), if_neg (by omega), if_neg (by omega)]
      exact ⟨by omega, rfl⟩
  · decide

/-- A link that is stored changes no other link of these slabs. -/
private theorem spot_setWord (memory : Memory) (spaced : Spaced bases)
    (stored : Known bases there ∨ there = .nowhere) {base other offset shift : Nat}
    (mine : base ∈ bases) (seen : other ∈ bases) (written : offset = 0 ∨ offset = 8)
    (read : shift = 0 ∨ shift = 8) :
    spotOfWord ((memory.setWord (base + offset) there.word).word (other + shift)) =
      if other = base ∧ shift = offset then there
      else spotOfWord (memory.word (other + shift)) := by
  obtain ⟨fits, same⟩ := spotOfWord_word spaced stored
  split
  · next here =>
    obtain ⟨rfl, rfl⟩ := here
    rw [Memory.word_setWord _ _ fits, same]
  · next elsewhere =>
    rw [Memory.word_setWord_of_disjoint]
    have apart := spaced.apart other seen base mine
    unfold linkRegion Region.Apart Region.finish at apart
    simp only [wordBytes] at apart ⊢
    omega

private theorem ofRing_change (sentinels : Sentinels) {ring other : Nat}
    (edit : Sentinel → Sentinel) (first : ring = partialRing ∨ ring = fullRing)
    (second : other = partialRing ∨ other = fullRing) :
    (sentinels.change ring edit).ofRing other =
      if other = ring then edit (sentinels.ofRing ring) else sentinels.ofRing other := by
  rcases first with rfl | rfl <;> rcases second with rfl | rfl <;> rfl

/-- A link ahead that is written is all that reads differently. -/
private theorem reads_setNext (spaced : Spaced bases) (mine : Known bases here)
    (stored : Known bases there ∨ there = .nowhere) (seen : Known bases spot) :
    (rings.setNext here there).next spot = (if spot = here then there else rings.next spot) ∧
      (rings.setNext here there).prev spot = rings.prev spot := by
  cases here with
  | nowhere => exact mine.elim
  | anchor ring =>
    cases spot with
    | nowhere => exact seen.elim
    | anchor other =>
      simp only [Threading.next_anchor, Threading.prev_anchor, Threading.setNext_anchor,
        ofRing_change _ _ mine seen, Spot.anchor.injEq]
      by_cases same : other = ring <;> simp [same]
    | node base => exact ⟨rfl, rfl⟩
  | node base =>
    cases spot with
    | nowhere => exact seen.elim
    | anchor other => exact ⟨rfl, rfl⟩
    | node other =>
      have ahead := spot_setWord rings.store.memory spaced stored mine seen (.inl rfl) (.inl rfl)
      have behind := spot_setWord rings.store.memory spaced stored mine seen (.inl rfl) (.inr rfl)
      simp only [Threading.next_node, Threading.prev_node, Threading.setNext_node]
      exact ⟨by simpa using ahead, by simpa using behind⟩

/-- A link back that is written is all that reads differently. -/
private theorem reads_setPrev (spaced : Spaced bases) (mine : Known bases here)
    (stored : Known bases there ∨ there = .nowhere) (seen : Known bases spot) :
    (rings.setPrev here there).next spot = rings.next spot ∧
      (rings.setPrev here there).prev spot = if spot = here then there else rings.prev spot := by
  cases here with
  | nowhere => exact mine.elim
  | anchor ring =>
    cases spot with
    | nowhere => exact seen.elim
    | anchor other =>
      simp only [Threading.next_anchor, Threading.prev_anchor, Threading.setPrev_anchor,
        ofRing_change _ _ mine seen, Spot.anchor.injEq]
      by_cases same : other = ring <;> simp [same]
    | node base => exact ⟨rfl, rfl⟩
  | node base =>
    cases spot with
    | nowhere => exact seen.elim
    | anchor other => exact ⟨rfl, rfl⟩
    | node other =>
      have ahead := spot_setWord rings.store.memory spaced stored mine seen (.inr rfl) (.inl rfl)
      have behind := spot_setWord rings.store.memory spaced stored mine seen (.inr rfl) (.inr rfl)
      simp only [Threading.next_node, Threading.prev_node, Threading.setPrev_node]
      exact ⟨by simpa using ahead, by simpa using behind⟩

/-- A link that is written changes memory in links of these slabs only. -/
private theorem changed_word (memory : Memory) {base offset : Nat} (mine : base ∈ bases)
    (written : offset = 0 ∨ offset = 8) (value : Nat) :
    memory.ChangedAmong (memory.setWord (base + offset) value) (bases.map linkRegion) := by
  refine ((memory.changedWithin_setWord _ _).mono ?_).among (List.mem_map_of_mem mine)
  unfold linkRegion Region.Within Region.finish wordBytes
  simp only
  omega

private theorem changed_setNext (rings : Rings Threading) (mine : Known bases here) (there : Spot) :
    rings.store.memory.ChangedAmong (rings.setNext here there).store.memory
      (bases.map linkRegion) := by
  cases here with
  | nowhere => exact mine.elim
  | anchor ring => exact .refl _ _
  | node base => exact changed_word _ mine (.inl rfl) _

private theorem changed_setPrev (rings : Rings Threading) (mine : Known bases here) (there : Spot) :
    rings.store.memory.ChangedAmong (rings.setPrev here there).store.memory
      (bases.map linkRegion) := by
  cases here with
  | nowhere => exact mine.elim
  | anchor ring => exact .refl _ _
  | node base => exact changed_word _ mine (.inr rfl) _

end Single

/-! ## Moves on both -/

namespace Tracks

variable {bases roomy full : List Nat} {origin : Memory} {rings : Rings Threading}
  {plain : Rings Links} {here there before after : Spot} {base ring : Nat}

theorem setNext (tracks : Tracks bases origin rings plain) (spaced : Spaced bases)
    (mine : Known bases here) (stored : Known bases there ∨ there = .nowhere) :
    Tracks bases origin (rings.setNext here there) (plain.setNext here there) where
  next spot known := by
    rw [(reads_setNext spaced mine stored known).1, Rings.next_setNext, tracks.next spot known]
  prev spot known := by
    rw [(reads_setNext spaced mine stored known).2, Rings.prev_setNext, tracks.prev spot known]
  changed := tracks.changed.trans (changed_setNext rings mine there)

theorem setPrev (tracks : Tracks bases origin rings plain) (spaced : Spaced bases)
    (mine : Known bases here) (stored : Known bases there ∨ there = .nowhere) :
    Tracks bases origin (rings.setPrev here there) (plain.setPrev here there) where
  next spot known := by
    rw [(reads_setPrev spaced mine stored known).1, Rings.next_setPrev, tracks.next spot known]
  prev spot known := by
    rw [(reads_setPrev spaced mine stored known).2, Rings.prev_setPrev, tracks.prev spot known]
  changed := tracks.changed.trans (changed_setPrev rings mine there)

/-- How many nodes are counted has no say in where links lead. -/
theorem setLinked (tracks : Tracks bases origin rings plain) (first second : Nat) :
    Tracks bases origin (rings.setLinked first) (plain.setLinked second) :=
  ⟨tracks.next, tracks.prev, tracks.changed⟩

theorem insertBetween (tracks : Tracks bases origin rings plain) (spaced : Spaced bases)
    (mine : base ∈ bases) (behind : Known bases before) (ahead : Known bases after) :
    Tracks bases origin (rings.insertBetween base before after)
      (plain.insertBetween base before after) := by
  have known : Known bases (.node base) := mine
  exact ((((tracks.setPrev spaced ahead (.inl known)).setNext spaced known (.inl ahead)).setPrev
    spaced known (.inl behind)).setNext spaced behind (.inl known)).setLinked _ _

/-- A spot on the way round a ring is known with the slabs of the ring. -/
private theorem known_of_circuit {names : List Nat} (opened : ring = partialRing ∨ ring = fullRing)
    (subset : names ⊆ bases) {spot : Spot} (passed : spot ∈ Rings.circuit ring names) :
    Known bases spot := by
  rcases Rings.mem_circuit.1 passed with rfl | ⟨name, member, rfl⟩
  · exact opened
  · exact subset member

/-- What a ring of the pool holds is among the slabs of both. -/
private theorem contents_subset (subset : roomy ++ full ⊆ bases) (ring : Nat) :
    (if ring = partialRing then roomy else full) ⊆ bases := by
  split
  · exact fun name member => subset (List.mem_append_left _ member)
  · exact fun name member => subset (List.mem_append_right _ member)

private theorem mem_rings (opened : ring = partialRing ∨ ring = fullRing) :
    ring ∈ [fullRing, partialRing] := by
  rcases opened with rfl | rfl <;> decide

theorem pushFront (tracks : Tracks bases origin rings plain) (spaced : Spaced bases)
    (rows : Rows plain roomy full) (subset : roomy ++ full ⊆ bases)
    (opened : ring = partialRing ∨ ring = fullRing) (mine : base ∈ bases) :
    Tracks bases origin (rings.pushFront ring base) (plain.pushFront ring base) := by
  have anchor : Known bases (.anchor ring) := opened
  have ahead := known_of_circuit opened (contents_subset subset ring)
    (rows.ends_mem (mem_rings opened)).2
  unfold Rings.pushFront
  rw [tracks.next _ anchor]
  exact tracks.insertBetween spaced mine anchor ahead

theorem pushBack (tracks : Tracks bases origin rings plain) (spaced : Spaced bases)
    (rows : Rows plain roomy full) (subset : roomy ++ full ⊆ bases)
    (opened : ring = partialRing ∨ ring = fullRing) (mine : base ∈ bases) :
    Tracks bases origin (rings.pushBack ring base) (plain.pushBack ring base) := by
  have anchor : Known bases (.anchor ring) := opened
  have behind := known_of_circuit opened (contents_subset subset ring)
    (rows.ends_mem (mem_rings opened)).1
  unfold Rings.pushBack
  rw [tracks.prev _ anchor]
  exact tracks.insertBetween spaced mine behind anchor

/-- The ring a slab is on. -/
private theorem exists_ring (member : base ∈ roomy ++ full) :
    ∃ ring, (ring = partialRing ∨ ring = fullRing) ∧
      base ∈ if ring = partialRing then roomy else full := by
  rcases List.mem_append.1 member with inRoomy | inFull
  · exact ⟨partialRing, .inl rfl, inRoomy⟩
  · exact ⟨fullRing, .inr rfl, inFull⟩

theorem unlink (tracks : Tracks bases origin rings plain) (spaced : Spaced bases)
    (rows : Rows plain roomy full) (subset : roomy ++ full ⊆ bases)
    (member : base ∈ roomy ++ full) :
    Tracks bases origin (rings.unlink base) (plain.unlink base) := by
  have known : Known bases (.node base) := subset member
  obtain ⟨ring, opened, inside⟩ := exists_ring member
  obtain ⟨behind, ahead⟩ := rows.neighbours_mem (mem_rings opened) inside
  have behind := known_of_circuit opened (contents_subset subset ring) behind
  have ahead := known_of_circuit opened (contents_subset subset ring) ahead
  unfold Rings.unlink
  rw [tracks.prev _ known, tracks.next _ known]
  exact ((((tracks.setPrev spaced ahead (.inl behind)).setNext spaced behind (.inl ahead)).setNext
    spaced known (.inr rfl)).setPrev spaced known (.inr rfl)).setLinked _ _

end Tracks

/-! ## The rings as rows -/

namespace Threads

variable {rings : Rings Threading} {roomy full front back : List Nat} {base : Nat}

/-- Two rings without slabs, whatever is in memory. -/
theorem empty (memory : Memory) (count : Nat) : Threads ⟨⟨.empty, memory⟩, count⟩ [] [] := by
  refine ⟨⟨by simp, by simp⟩, _, Rows.empty, ?_, ?_, .refl _ _⟩ <;> intro spot known
  all_goals cases spot with
    | nowhere => exact known.elim
    | anchor ring => rcases known with rfl | rfl <;> rfl
    | node base => cases known

theorem spaced (threads : Threads rings roomy full) : Spaced (roomy ++ full) :=
  threads.1

/-- No slab is on both rings or twice on one. -/
theorem nodup (threads : Threads rings roomy full) : (roomy ++ full).Nodup := by
  obtain ⟨-, plain, rows, -⟩ := threads
  exact rows.nodup

/-- The anchors and the links of the slabs on the rings are all that is read. -/
theorem of_agree (threads : Threads rings roomy full) {after : Rings Threading}
    (anchors : after.store.sentinels = rings.store.sentinels)
    (agree : ∀ base ∈ roomy ++ full,
      rings.store.memory.Agree after.store.memory (linkRegion base)) :
    Threads after roomy full := by
  obtain ⟨spaced, plain, rows, tracks⟩ := threads
  refine ⟨spaced, plain, rows, fun spot known => ?_, fun spot known => ?_, .refl _ _⟩
  · rw [← tracks.next spot known]
    cases spot with
    | nowhere => exact known.elim
    | anchor ring => rw [Threading.next_anchor, Threading.next_anchor, anchors]
    | node base =>
      rw [Threading.next_node, Threading.next_node, (Slab.link_words (agree base known)).1]
  · rw [← tracks.prev spot known]
    cases spot with
    | nowhere => exact known.elim
    | anchor ring => rw [Threading.prev_anchor, Threading.prev_anchor, anchors]
    | node base =>
      rw [Threading.prev_node, Threading.prev_node, (Slab.link_words (agree base known)).2]

/-! ### Reading -/

private theorem joined_of_tracks {bases : List Nat} {origin : Memory} {plain : Rings Links}
    (tracks : Tracks bases origin rings plain) :
    ∀ {spots : List Spot}, (∀ spot ∈ spots, Known bases spot) → plain.Joined spots →
      rings.Joined spots
  | [], _, _ => trivial
  | [_], _, _ => trivial
  | here :: there :: rest, known, ⟨forward, backward, joined⟩ => by
    refine ⟨(tracks.next here (known here (by simp))).trans forward,
      (tracks.prev there (known there (by simp))).trans backward, ?_⟩
    exact joined_of_tracks tracks (fun spot member => known spot (List.mem_cons_of_mem _ member))
      joined

/-- Both rings are linked through in memory, forwards and backwards. -/
theorem joined (threads : Threads rings roomy full) :
    rings.Joined (Rings.circuit partialRing roomy) ∧
      rings.Joined (Rings.circuit fullRing full) := by
  obtain ⟨-, plain, rows, tracks⟩ := threads
  constructor
  · refine joined_of_tracks tracks (fun spot passed => ?_) (rows.joined partialRing (by simp))
    exact Tracks.known_of_circuit (.inl rfl) (List.subset_append_left _ _) passed
  · refine joined_of_tracks tracks (fun spot passed => ?_) (rows.joined fullRing (by simp))
    exact Tracks.known_of_circuit (.inr rfl) (List.subset_append_right _ _) passed

theorem toList_partial (threads : Threads rings roomy full) (enough : roomy.length ≤ rings.linked) :
    rings.toList partialRing = roomy :=
  Rings.toList_of_joined threads.joined.1 enough

theorem toList_full (threads : Threads rings roomy full) (enough : full.length ≤ rings.linked) :
    rings.toList fullRing = full :=
  Rings.toList_of_joined threads.joined.2 enough

theorem front_partial (threads : Threads rings roomy full) :
    rings.front partialRing = roomy.head? :=
  Rings.front_of_joined threads.joined.1

/-! ### Moving -/

/-- Where the plain rings went, the rings in memory went as well. -/
private theorem moved {bases : List Nat} {after : Rings Threading} {plain : Rings Links}
    (spaced : Spaced bases) (rows : Rows plain roomy full) (subset : roomy ++ full ⊆ bases)
    (tracks : Tracks bases rings.store.memory after plain) : Moved bases rings after roomy full where
  threads :=
    ⟨spaced.subset subset, plain, rows, fun spot known => tracks.next spot (known.subset subset),
      fun spot known => tracks.prev spot (known.subset subset), .refl _ _⟩
  changed := tracks.changed

private theorem erase_subset (roomy full : List Nat) (base : Nat) :
    roomy.erase base ++ full.erase base ⊆ roomy ++ full :=
  List.append_subset.2 ⟨fun _ inside => List.mem_append_left _ (List.mem_of_mem_erase inside),
    fun _ inside => List.mem_append_right _ (List.mem_of_mem_erase inside)⟩

/-- What is left of both rows holds all that is not the slab that leaves. -/
private theorem subset_erase {others : List Nat} (absent : base ∉ others)
    (subset : others ⊆ roomy ++ full) : others ⊆ roomy.erase base ++ full.erase base := by
  intro other member
  have different : other ≠ base := by
    rintro rfl
    exact absent member
  rw [List.mem_append, List.mem_erase_of_ne different, List.mem_erase_of_ne different,
    ← List.mem_append]
  exact subset member

/-- A slab that leaves both rows makes room for itself. -/
theorem length_erase_lt (member : base ∈ roomy ++ full) :
    (roomy.erase base).length + (full.erase base).length < roomy.length + full.length := by
  rcases List.mem_append.1 member with inside | inside
  · have shorter := List.length_erase_add_one inside
    have second := List.length_erase_le (a := base) (l := full)
    omega
  · have shorter := List.length_erase_add_one inside
    have first := List.length_erase_le (a := base) (l := roomy)
    omega

/-- A slab leaves whichever ring it is on. -/
theorem unlink (threads : Threads rings roomy full) (member : base ∈ roomy ++ full) :
    Moved (roomy ++ full) rings (rings.unlink base) (roomy.erase base) (full.erase base) := by
  obtain ⟨spaced, plain, rows, tracks⟩ := threads
  exact moved spaced (rows.unlink member) (erase_subset roomy full base)
    (tracks.unlink spaced rows (List.Subset.refl _) member)

/-- Slabs leave one after the other, each from whichever ring it is on. -/
theorem unlinkAll {bases : List Nat} (threads : Threads rings roomy full) (once : bases.Nodup)
    (subset : bases ⊆ roomy ++ full) :
    Moved (roomy ++ full) rings (bases.foldl Rings.unlink rings) (roomy.diff bases)
      (full.diff bases) := by
  induction bases generalizing rings roomy full with
  | nil => exact ⟨threads, .refl _ _⟩
  | cons base rest ih =>
    obtain ⟨here, others⟩ := List.cons_subset.1 subset
    obtain ⟨fresh, once⟩ := List.nodup_cons.1 once
    obtain ⟨left, first⟩ := threads.unlink here
    obtain ⟨gone, second⟩ := ih left once (subset_erase fresh others)
    rw [List.foldl_cons, List.diff_cons, List.diff_cons]
    exact ⟨gone, first.trans (second.of_subset (List.map_subset _ (erase_subset roomy full base)))⟩

/-- A slab goes to the back of the ring of slabs without room. -/
theorem park (threads : Threads rings roomy full) (member : base ∈ roomy ++ full) :
    Moved (roomy ++ full) rings ((rings.unlink base).pushBack fullRing base) (roomy.erase base)
      (full.erase base ++ [base]) := by
  obtain ⟨spaced, plain, rows, tracks⟩ := threads
  have fewer := erase_subset roomy full base
  have off := tracks.unlink spaced rows (List.Subset.refl _) member
  refine moved spaced ((rows.unlink member).pushBack_full (rows.not_mem_erase base)) ?_
    (off.pushBack spaced (rows.unlink member) fewer (.inr rfl) member)
  rw [← List.append_assoc]
  exact List.append_subset.2 ⟨fewer, by simpa using member⟩

/-- A slab goes to the back of the ring of slabs with room. -/
theorem reopen (threads : Threads rings roomy full) (member : base ∈ roomy ++ full) :
    Moved (roomy ++ full) rings ((rings.unlink base).pushBack partialRing base)
      (roomy.erase base ++ [base]) (full.erase base) := by
  obtain ⟨spaced, plain, rows, tracks⟩ := threads
  have fewer := erase_subset roomy full base
  have off := tracks.unlink spaced rows (List.Subset.refl _) member
  refine moved spaced ((rows.unlink member).pushBack_roomy (rows.not_mem_erase base)) ?_
    (off.pushBack spaced (rows.unlink member) fewer (.inl rfl) member)
  rw [List.append_assoc, List.singleton_append]
  exact fun name inside => List.cons_subset.2 ⟨member, fewer⟩ (List.perm_middle.subset inside)

/-- What is left of both rows when a slab with room goes. -/
theorem erase_roomy (threads : Threads rings (front ++ base :: back) full) :
    (front ++ base :: back).erase base = front ++ back ∧ full.erase base = full := by
  obtain ⟨-, plain, rows, -⟩ := threads
  exact rows.erase_roomy

theorem erase_head (threads : Threads rings (base :: back) full) :
    (base :: back).erase base = back ∧ full.erase base = full :=
  erase_roomy (show Threads rings ([] ++ base :: back) full from threads)

/-- What is left of both rows when a slab without room goes. -/
theorem erase_full (threads : Threads rings roomy (front ++ base :: back)) :
    roomy.erase base = roomy ∧ (front ++ base :: back).erase base = front ++ back := by
  obtain ⟨-, plain, rows, -⟩ := threads
  exact rows.erase_full

/-- The links of a slab lead nowhere, as in a header that was just written. -/
def Detached (rings : Rings Threading) (base : Nat) : Prop :=
  rings.next (.node base) = .nowhere ∧ rings.prev (.node base) = .nowhere

private theorem tracks_fresh {plain : Rings Links} (rows : Rows plain roomy full)
    (absent : base ∉ roomy ++ full) (detached : Detached rings base)
    (tracks : Tracks (roomy ++ full) rings.store.memory rings plain) :
    Tracks (base :: (roomy ++ full)) rings.store.memory rings plain := by
  obtain ⟨forward, backward⟩ := rows.detached absent
  have either : ∀ spot, Known (base :: (roomy ++ full)) spot →
      spot = .node base ∨ Known (roomy ++ full) spot := by
    intro spot known
    cases spot with
    | nowhere => exact known.elim
    | anchor ring => exact .inr known
    | node name => exact (List.mem_cons.1 known).imp_left (congrArg Spot.node)
  refine ⟨fun spot known => ?_, fun spot known => ?_, .refl _ _⟩
  · rcases either spot known with rfl | old
    · rw [detached.1, forward]
    · exact tracks.next spot old
  · rcases either spot known with rfl | old
    · rw [detached.2, backward]
    · exact tracks.prev spot old

/-- A new slab goes to the front of the ring of slabs with room. -/
theorem pushFront_roomy (threads : Threads rings roomy full) (absent : base ∉ roomy ++ full)
    (spaced : Spaced (base :: (roomy ++ full))) (detached : Detached rings base) :
    Moved (base :: (roomy ++ full)) rings (rings.pushFront partialRing base) (base :: roomy)
      full := by
  obtain ⟨-, plain, rows, tracks⟩ := threads
  have fresh := tracks_fresh rows absent detached tracks
  exact moved spaced (rows.pushFront_roomy absent) (List.Subset.refl _)
    (fresh.pushFront spaced rows (List.subset_cons_self _ _) (.inl rfl) List.mem_cons_self)

/-- A new slab without room goes to the front of the other ring. -/
theorem pushFront_full (threads : Threads rings roomy full) (absent : base ∉ roomy ++ full)
    (spaced : Spaced (base :: (roomy ++ full))) (detached : Detached rings base) :
    Moved (base :: (roomy ++ full)) rings (rings.pushFront fullRing base) roomy
      (base :: full) := by
  obtain ⟨-, plain, rows, tracks⟩ := threads
  have fresh := tracks_fresh rows absent detached tracks
  refine moved spaced (rows.pushFront_full absent) ?_
    (fresh.pushFront spaced rows (List.subset_cons_self _ _) (.inr rfl) List.mem_cons_self)
  exact List.perm_middle.subset

/-- A slab that goes to the front of a ring, whatever its links were, writes links only. -/
theorem changed_pushFront (threads : Threads rings roomy full) {ring : Nat}
    (opened : ring = partialRing ∨ ring = fullRing) (base : Nat) :
    rings.store.memory.ChangedAmong (rings.pushFront ring base).store.memory
      ((base :: (roomy ++ full)).map linkRegion) := by
  obtain ⟨-, plain, rows, tracks⟩ := threads
  have subset := List.subset_cons_self base (roomy ++ full)
  have anchor : Known (roomy ++ full) (.anchor ring) := opened
  have ahead := Tracks.known_of_circuit opened
    (Tracks.contents_subset (List.Subset.refl (roomy ++ full)) ring)
    (rows.ends_mem (Tracks.mem_rings opened)).2
  rw [← tracks.next _ anchor] at ahead
  have mine : Known (base :: (roomy ++ full)) (.node base) := List.mem_cons_self
  unfold Rings.pushFront Rings.insertBetween
  exact (((changed_setPrev rings (ahead.subset subset) _).trans (changed_setNext _ mine _)).trans
    (changed_setPrev _ mine _)).trans (changed_setNext _ (anchor.subset subset) _)

/-! ### What moves rely on -/

/-- A slab on a ring can be taken off, and is detached then. -/
theorem unlink?_eq (threads : Threads rings roomy full) (member : base ∈ roomy ++ full) :
    rings.unlink? base = .ok (rings.unlink base) ∧ Detached (rings.unlink base) base := by
  obtain ⟨spaced, plain, rows, tracks⟩ := threads
  have known : Known (roomy ++ full) (.node base) := member
  obtain ⟨forward, backward⟩ := rows.linked member
  have off := tracks.unlink spaced rows (List.Subset.refl _) member
  obtain ⟨nothing, nowhere⟩ := (rows.unlink member).detached (rows.not_mem_erase base)
  refine ⟨?_, (off.next _ known).trans nothing, (off.prev _ known).trans nowhere⟩
  unfold Rings.unlink?
  rw [tracks.next _ known, tracks.prev _ known, if_neg (by simp [forward, backward])]

/-- Slabs on rings can be taken off one after the other. -/
theorem unlinkAll?_eq {bases : List Nat} (threads : Threads rings roomy full) (once : bases.Nodup)
    (subset : bases ⊆ roomy ++ full) :
    bases.foldlM Rings.unlink? rings = .ok (bases.foldl Rings.unlink rings) := by
  induction bases generalizing rings roomy full with
  | nil => rfl
  | cons base rest ih =>
    obtain ⟨here, others⟩ := List.cons_subset.1 subset
    obtain ⟨fresh, once⟩ := List.nodup_cons.1 once
    rw [List.foldlM_cons, (threads.unlink?_eq here).1, List.foldl_cons]
    exact ih (threads.unlink here).threads once (subset_erase fresh others)

/-- A detached slab can be put on a ring. -/
theorem push?_eq (ring : Nat) (detached : Detached rings base) :
    rings.pushFront? ring base = .ok (rings.pushFront ring base) ∧
      rings.pushBack? ring base = .ok (rings.pushBack ring base) := by
  have off : rings.isLinked base = false := by
    unfold Rings.isLinked
    rw [detached.1]
    rfl
  unfold Rings.pushFront? Rings.pushBack?
  rw [off]
  exact ⟨rfl, rfl⟩

end Threads

end SlabAllocator.ElementPool
