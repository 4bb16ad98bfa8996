import Mathlib.Algebra.Ring.Nat
import SlabAllocator.Ring

/-! Rings as lists. `Shows` ties a family of rings to the node names each of them
holds, front to back; the lemmas say what every operation does to that view, so
that nobody has to follow links again. -/
namespace SlabAllocator.Rings

/-- Neighbours in a series of spots are linked both ways. -/
def Joined {σ : Type} [LinkStore σ] (rings : Rings σ) : List Spot → Prop
  | here :: there :: rest =>
    rings.next here = there ∧ rings.prev there = here ∧ Joined rings (there :: rest)
  | _ => True

/-- The spots passed on the way once round a ring, from its anchor to its anchor. -/
def circuit (ring : Nat) (names : List Nat) : List Spot :=
  .anchor ring :: names.map .node ++ [.anchor ring]

/-- What each ring holds, with one ring changed. -/
def update (contents : Nat → List Nat) (ring : Nat) (names : List Nat) : Nat → List Nat :=
  fun other => if other = ring then names else contents other

/-- The rings `opened` are closed and hold the nodes that `contents` gives them,
no node twice; every other node is detached. -/
structure Shows (rings : Rings Links) (opened : List Nat) (contents : Nat → List Nat) : Prop where
  joined : ∀ ring ∈ opened, rings.Joined (circuit ring (contents ring))
  distinct : opened.Nodup
  once : ∀ ring ∈ opened, (contents ring).Nodup
  apart : ∀ ring ∈ opened, ∀ other ∈ opened, ring ≠ other →
    ∀ name ∈ contents ring, name ∉ contents other
  detached : ∀ name, (∀ ring ∈ opened, name ∉ contents ring) →
    rings.next (.node name) = .nowhere ∧ rings.prev (.node name) = .nowhere
  linked : rings.linked = (opened.map fun ring => (contents ring).length).sum

theorem joined_append {rings : Rings Links} (front : List Spot) (middle : Spot)
    (back : List Spot) :
    rings.Joined (front ++ middle :: back) ↔
      rings.Joined (front ++ [middle]) ∧ rings.Joined (middle :: back) := by
  induction front with
  | nil => simp [Joined]
  | cons head rest ih =>
    cases rest with
    | nil => simp [Joined, and_assoc]
    | cons second others =>
      simp only [List.cons_append] at ih ⊢
      simp only [Joined, ih, and_assoc]

/-- Links of spots that were not touched still join them. -/
private theorem joined_transport {before after : Rings Links} :
    ∀ {spots : List Spot}, before.Joined spots →
      (∀ spot ∈ spots.dropLast, after.next spot = before.next spot) →
      (∀ spot ∈ spots.tail, after.prev spot = before.prev spot) → after.Joined spots
  | [], _, _, _ => trivial
  | [_], _, _, _ => trivial
  | here :: there :: rest, ⟨forward, backward, joined⟩, sameNext, samePrev => by
    refine ⟨?_, ?_, joined_transport joined ?_ ?_⟩
    · rw [sameNext here (by simp), forward]
    · rw [samePrev there (by simp), backward]
    · intro spot member
      exact sameNext spot (by simp [member])
    · intro spot member
      exact samePrev spot (by simp [List.mem_of_mem_tail member])

private theorem next_insertBetween (rings : Rings Links) (name : Nat) (before after spot : Spot) :
    (rings.insertBetween name before after).next spot =
      if spot = before then .node name
      else if spot = .node name then after
      else rings.next spot := by
  simp only [insertBetween, next_setLinked, next_setNext, next_setPrev]

private theorem prev_insertBetween (rings : Rings Links) (name : Nat) (before after spot : Spot) :
    (rings.insertBetween name before after).prev spot =
      if spot = .node name then before
      else if spot = after then .node name
      else rings.prev spot := by
  simp only [insertBetween, prev_setLinked, prev_setNext, prev_setPrev]

/-- Threading a new node between two neighbours puts it between them in the series. -/
private theorem joined_insertBetween {rings : Rings Links} {front back : List Spot} {before after : Spot}
    {name : Nat} (joined : rings.Joined (front ++ before :: after :: back))
    (sources : (front ++ before :: (after :: back).dropLast).Nodup)
    (targets : ((front ++ [before]).tail ++ after :: back).Nodup)
    (fresh : .node name ∉ front ++ before :: after :: back) :
    (rings.insertBetween name before after).Joined
      (front ++ before :: .node name :: after :: back) := by
  obtain ⟨left, right⟩ := (joined_append front before (after :: back)).1 joined
  have newBefore : Spot.node name ≠ before := fun same => fresh (by simp [same])
  -- The circuit splits at the new node. No spot occurs twice, so neither half reads a link that was
  -- written.
  rw [joined_append]
  refine ⟨joined_transport left ?_ ?_, ?_, ?_, ?_, ?_, joined_transport right.2.2 ?_ ?_⟩
  · intro spot member
    rw [List.dropLast_concat] at member
    have notBefore : spot ≠ before := by
      rintro rfl
      exact (List.nodup_append.1 sources).2.2 spot member spot (by simp) rfl
    have notNew : spot ≠ .node name := fun same => fresh (by simp [← same, member])
    rw [next_insertBetween, if_neg notBefore, if_neg notNew]
  · intro spot member
    have notAfter : spot ≠ after := by
      rintro rfl
      exact (List.nodup_append.1 targets).2.2 spot member spot (by simp) rfl
    have notNew : spot ≠ .node name := by
      rintro rfl
      have inside := List.mem_of_mem_tail member
      exact fresh (by grind)
    rw [prev_insertBetween, if_neg notNew, if_neg notAfter]
  · rw [next_insertBetween, if_pos rfl]
  · rw [prev_insertBetween, if_pos rfl]
  · rw [next_insertBetween, if_neg newBefore, if_pos rfl]
  · rw [prev_insertBetween, if_neg (fun same => fresh (by simp [← same])), if_pos rfl]
  · intro spot member
    have notBefore : spot ≠ before := by
      rintro rfl
      exact (List.nodup_cons.1 (List.nodup_append.1 sources).2.1).1 member
    have notNew : spot ≠ .node name := by
      rintro rfl
      have inside := (List.dropLast_sublist _).subset member
      exact fresh (by grind)
    rw [next_insertBetween, if_neg notBefore, if_neg notNew]
  · intro spot member
    have member : spot ∈ back := member
    have notAfter : spot ≠ after := by
      rintro rfl
      exact (List.nodup_cons.1 (List.nodup_append.1 targets).2.1).1 member
    have notNew : spot ≠ .node name := fun same => fresh (by simp [← same, member])
    rw [prev_insertBetween, if_neg notNew, if_neg notAfter]

private theorem next_unlink (rings : Rings Links) (name : Nat) (spot : Spot) :
    (rings.unlink name).next spot =
      if spot = .node name then .nowhere
      else if spot = rings.prev (.node name) then rings.next (.node name)
      else rings.next spot := by
  simp only [unlink, next_setLinked, next_setNext, next_setPrev]

private theorem prev_unlink (rings : Rings Links) (name : Nat) (spot : Spot) :
    (rings.unlink name).prev spot =
      if spot = .node name then .nowhere
      else if spot = rings.next (.node name) then rings.prev (.node name)
      else rings.prev spot := by
  simp only [unlink, prev_setLinked, prev_setNext, prev_setPrev]

private theorem next_openRing (rings : Rings Links) (ring : Nat) (spot : Spot) :
    (rings.openRing ring).next spot =
      if spot = .anchor ring then .anchor ring else rings.next spot := by
  simp only [openRing, next_setPrev, next_setNext]

private theorem prev_openRing (rings : Rings Links) (ring : Nat) (spot : Spot) :
    (rings.openRing ring).prev spot =
      if spot = .anchor ring then .anchor ring else rings.prev spot := by
  simp only [openRing, prev_setPrev, prev_setNext]

private theorem next_closeRing (rings : Rings Links) (ring : Nat) (spot : Spot) :
    (rings.closeRing ring).next spot =
      if spot = .anchor ring then .nowhere else (rings.drain ring rings.linked).next spot := by
  simp only [closeRing, next_setPrev, next_setNext]

private theorem prev_closeRing (rings : Rings Links) (ring : Nat) (spot : Spot) :
    (rings.closeRing ring).prev spot =
      if spot = .anchor ring then .nowhere else (rings.drain ring rings.linked).prev spot := by
  simp only [closeRing, prev_setPrev, prev_setNext]

/-- Taking a node out of a series joins its neighbours. -/
private theorem joined_unlink {rings : Rings Links} {front back : List Spot} {before after : Spot}
    {name : Nat} (joined : rings.Joined (front ++ before :: .node name :: after :: back))
    (sources : (front ++ before :: .node name :: (after :: back).dropLast).Nodup)
    (targets : ((front ++ [before]).tail ++ .node name :: after :: back).Nodup) :
    (rings.unlink name).Joined (front ++ before :: after :: back) := by
  obtain ⟨left, toName, fromName, toAfter, fromAfter, right⟩ :=
    (joined_append front before (.node name :: after :: back)).1 joined
  have leftApart : before ≠ .node name := by
    rintro rfl
    exact (List.nodup_cons.1 (List.nodup_append.1 sources).2.1).1 (by simp)
  have rightApart : after ≠ .node name := by
    rintro rfl
    exact (List.nodup_cons.1 (List.nodup_append.1 targets).2.1).1 (by simp)
  -- Again two halves and the link across. Unlinking writes the neighbours of the node, and these
  -- are the two spots around the gap.
  rw [joined_append]
  refine ⟨joined_transport left ?_ ?_, ?_, ?_, joined_transport right ?_ ?_⟩
  · intro spot member
    rw [List.dropLast_concat] at member
    have notBefore : spot ≠ before := by
      rintro rfl
      exact (List.nodup_append.1 sources).2.2 spot member spot (by simp) rfl
    have notName : spot ≠ .node name := by
      rintro rfl
      exact (List.nodup_append.1 sources).2.2 _ member (.node name) (by simp) rfl
    rw [next_unlink, if_neg notName, fromName, if_neg notBefore]
  · intro spot member
    have notAfter : spot ≠ after := by
      rintro rfl
      exact (List.nodup_append.1 targets).2.2 spot member spot (by simp) rfl
    have notName : spot ≠ .node name := by
      rintro rfl
      exact (List.nodup_append.1 targets).2.2 _ member (.node name) (by simp) rfl
    rw [prev_unlink, if_neg notName, toAfter, if_neg notAfter]
  · rw [next_unlink, if_neg leftApart, fromName, if_pos rfl, toAfter]
  · rw [prev_unlink, if_neg rightApart, toAfter, if_pos rfl, fromName]
  · intro spot member
    have rest := (List.nodup_append.1 sources).2.1
    have notBefore : spot ≠ before := by
      rintro rfl
      exact (List.nodup_cons.1 rest).1 (List.mem_cons_of_mem _ member)
    have notName : spot ≠ .node name := by
      rintro rfl
      exact (List.nodup_cons.1 (List.nodup_cons.1 rest).2).1 member
    rw [next_unlink, if_neg notName, fromName, if_neg notBefore]
  · intro spot member
    have member : spot ∈ back := member
    have rest := (List.nodup_append.1 targets).2.1
    have notAfter : spot ≠ after := by
      rintro rfl
      exact (List.nodup_cons.1 (List.nodup_cons.1 rest).2).1 member
    have notName : spot ≠ .node name := by
      rintro rfl
      exact (List.nodup_cons.1 rest).1 (List.mem_cons_of_mem _ member)
    rw [prev_unlink, if_neg notName, toAfter, if_neg notAfter]

theorem mem_circuit {ring : Nat} {names : List Nat} {spot : Spot} :
    spot ∈ circuit ring names ↔ spot = .anchor ring ∨ ∃ name ∈ names, spot = .node name := by
  simp only [circuit, List.cons_append, List.mem_cons, List.mem_append, List.mem_map,
    List.not_mem_nil, or_false]
  constructor
  · rintro (same | ⟨name, member, rfl⟩ | same)
    · exact .inl same
    · exact .inr ⟨name, member, rfl⟩
    · exact .inl same
  · rintro (same | ⟨name, member, rfl⟩)
    · exact .inl same
    · exact .inr (.inl ⟨name, member, rfl⟩)

theorem node_mem_circuit {ring : Nat} {names : List Nat} {name : Nat} :
    .node name ∈ circuit ring names ↔ name ∈ names := by
  simp [mem_circuit]

/-- The ways round two rings that share no node have no spot in common. -/
private theorem circuits_apart {ring other : Nat} {names others : List Nat}
    (different : other ≠ ring) (apart : ∀ name ∈ others, name ∉ names) {spot : Spot}
    (inside : spot ∈ circuit other others) : spot ∉ circuit ring names := by
  intro twice
  rcases mem_circuit.1 inside with rfl | ⟨name, member, rfl⟩
  · rcases mem_circuit.1 twice with same | ⟨_, _, same⟩
    · exact different (Spot.anchor.inj same)
    · cases same
  · exact apart name member (node_mem_circuit.1 twice)

private theorem nodup_spots {names : List Nat} (once : names.Nodup) (ring : Nat) :
    (Spot.anchor ring :: names.map Spot.node).Nodup := by
  refine List.nodup_cons.2 ⟨by simp, ?_⟩
  refine List.Pairwise.map _ ?_ once
  intro first second different same
  exact different (Spot.node.inj same)

/-- The first spot after the anchor of a ring with these nodes. -/
private def entrance (ring : Nat) : List Nat → Spot
  | [] => .anchor ring
  | name :: _ => .node name

/-- The last spot before the anchor of a ring with these nodes. -/
private def exit (ring : Nat) (names : List Nat) : Spot :=
  match names.getLast? with
  | none => .anchor ring
  | some name => .node name

private theorem circuit_concat (ring : Nat) (start : List Nat) (last : Nat) :
    circuit ring (start ++ [last]) =
      (.anchor ring :: start.map Spot.node) ++ .node last :: [.anchor ring] := by
  simp [circuit]

/-- The way round a ring with and without one of its nodes. Both pass the same two
spots, between which the node stands. -/
private theorem circuit_around (ring : Nat) (start rest : List Nat) (name : Nat) :
    ∃ front back,
      circuit ring (start ++ name :: rest) =
        front ++ exit ring start :: .node name :: entrance ring rest :: back ∧
      circuit ring (start ++ rest) = front ++ exit ring start :: entrance ring rest :: back := by
  have onward : ∃ back, rest.map Spot.node ++ [.anchor ring] = entrance ring rest :: back := by
    cases rest with
    | nil => exact ⟨[], rfl⟩
    | cons second others => exact ⟨others.map Spot.node ++ [.anchor ring], rfl⟩
  have upTo : ∃ front, .anchor ring :: start.map Spot.node = front ++ [exit ring start] := by
    rcases start.eq_nil_or_concat with rfl | ⟨earlier, last, rfl⟩
    · exact ⟨[], rfl⟩
    · exact ⟨.anchor ring :: earlier.map Spot.node, by simp [exit]⟩
  -- The spots on both sides are nodes or the anchor, so both circuits are written around their
  -- ends.
  obtain ⟨back, onward⟩ := onward
  obtain ⟨front, upTo⟩ := upTo
  refine ⟨front, back, ?_, ?_⟩
  · calc circuit ring (start ++ name :: rest)
        = (.anchor ring :: start.map Spot.node) ++
            .node name :: (rest.map Spot.node ++ [.anchor ring]) := by simp [circuit]
      _ = _ := by rw [upTo, onward]; simp
  · calc circuit ring (start ++ rest)
        = (.anchor ring :: start.map Spot.node) ++ (rest.map Spot.node ++ [.anchor ring]) := by
          simp [circuit]
      _ = _ := by rw [upTo, onward]; simp

private theorem entrance_ne_nowhere (ring : Nat) (names : List Nat) :
    entrance ring names ≠ .nowhere := by
  cases names <;> simp [entrance]

private theorem exit_ne_nowhere (ring : Nat) (names : List Nat) : exit ring names ≠ .nowhere := by
  unfold exit
  split <;> simp

section Reading

variable {σ : Type} [LinkStore σ] {rings : Rings σ} {ring : Nat} {names : List Nat}

/-- Walking a joined series of nodes meets them in order. -/
private theorem walk_joined :
    ∀ (names : List Nat) (count : Nat), rings.Joined (names.map Spot.node ++ [Spot.anchor ring]) →
      rings.walk count (entrance ring names) = names.take count
  | [], 0, _ => rfl
  | [], _ + 1, _ => rfl
  | _ :: _, 0, _ => rfl
  | [name], count + 1, joined => by
    have follow : rings.next (.node name) = entrance ring [] := joined.1
    simp [walk, entrance, nodeAt, joined.1]
    cases count <;> rfl
  | name :: second :: others, count + 1, joined => by
    have follow : rings.next (.node name) = entrance ring (second :: others) := joined.1
    have rest := walk_joined (second :: others) count joined.2.2
    rw [← follow] at rest
    simp [walk, entrance, nodeAt, rest]

private theorem joined_names (joined : rings.Joined (circuit ring names)) :
    rings.Joined (names.map Spot.node ++ [Spot.anchor ring]) ∧
      rings.next (.anchor ring) = entrance ring names := by
  cases names with
  | nil => exact ⟨trivial, joined.1⟩
  | cons second others => exact ⟨joined.2.2, joined.1⟩

/-- The first nodes of a ring that is linked through. -/
theorem take_of_joined (joined : rings.Joined (circuit ring names)) (count : Nat) :
    rings.take ring count = names.take count := by
  obtain ⟨joined, first⟩ := joined_names joined
  rw [take, first]
  exact walk_joined _ count joined

/-- Walking a ring that is linked through to its end finds exactly what it holds. -/
theorem toList_of_joined (joined : rings.Joined (circuit ring names))
    (enough : names.length ≤ rings.linked) : rings.toList ring = names := by
  rw [toList, take_of_joined joined, List.take_of_length_le enough]

theorem front_of_joined (joined : rings.Joined (circuit ring names)) :
    rings.front ring = names.head? := by
  rw [front, (joined_names joined).2]
  cases names <;> rfl

end Reading

private theorem sum_update {opened : List Nat} {contents : Nat → List Nat} {ring : Nat}
    (names : List Nat) (distinct : opened.Nodup) (member : ring ∈ opened) :
    (opened.map fun other => (update contents ring names other).length).sum +
        (contents ring).length =
      (opened.map fun other => (contents other).length).sum + names.length := by
  -- Open rings are distinct, so only one summand differs, wherever it comes up.
  induction opened with
  | nil => cases member
  | cons head rest ih =>
    obtain ⟨absent, distinct⟩ := List.nodup_cons.1 distinct
    simp only [List.map_cons, List.sum_cons]
    by_cases same : head = ring
    · subst same
      have others : (rest.map fun other => (update contents head names other).length) =
          rest.map fun other => (contents other).length := by
        refine List.map_congr_left fun other inside => ?_
        rw [update, if_neg]
        rintro rfl
        exact absent inside
      rw [others, update, if_pos rfl]
      omega
    · have := ih distinct ((List.mem_cons.1 member).resolve_left (Ne.symm same))
      rw [show update contents ring names head = contents head from if_neg same]
      omega

namespace Shows

variable {rings : Rings Links} {opened : List Nat} {contents : Nat → List Nat} {ring name : Nat}

theorem length_le_linked (shows : rings.Shows opened contents) (member : ring ∈ opened) :
    (contents ring).length ≤ rings.linked := by
  rw [shows.linked]
  obtain ⟨front, back, rfl⟩ := List.append_of_mem member
  simp
  omega

/-- The first nodes of a ring. -/
theorem take_eq (shows : rings.Shows opened contents) (member : ring ∈ opened) (count : Nat) :
    rings.take ring count = (contents ring).take count :=
  take_of_joined (shows.joined _ member) count

/-- Walking a ring to its end finds exactly what it holds. -/
theorem toList_eq (shows : rings.Shows opened contents) (member : ring ∈ opened) :
    rings.toList ring = contents ring :=
  toList_of_joined (shows.joined _ member) (shows.length_le_linked member)

theorem length_eq (shows : rings.Shows opened contents) (member : ring ∈ opened) :
    rings.length ring = (contents ring).length := by
  rw [length, shows.toList_eq member]

theorem front_eq (shows : rings.Shows opened contents) (member : ring ∈ opened) :
    rings.front ring = (contents ring).head? :=
  front_of_joined (shows.joined _ member)

theorem isEmpty_eq (shows : rings.Shows opened contents) (member : ring ∈ opened) :
    rings.isEmpty ring = (contents ring).isEmpty := by
  rw [isEmpty, (joined_names (shows.joined _ member)).2]
  cases contents ring <;> simp [entrance]

private theorem prev_anchor (shows : rings.Shows opened contents) (member : ring ∈ opened) :
    rings.prev (.anchor ring) = exit ring (contents ring) := by
  have joined := shows.joined _ member
  revert joined
  rcases (contents ring).eq_nil_or_concat with same | ⟨start, last, same⟩
  · rw [same]
    exact fun joined => joined.2.1
  · rw [same, List.concat_eq_append, circuit_concat, joined_append]
    intro joined
    simpa [exit] using joined.2.2.1

theorem back_eq (shows : rings.Shows opened contents) (member : ring ∈ opened) :
    rings.back ring = (contents ring).getLast? := by
  rw [Rings.back, shows.prev_anchor member, exit]
  cases (contents ring).getLast? <;> rfl

/-- The neighbours of a node on a ring. -/
private theorem neighbours (shows : rings.Shows opened contents) (member : ring ∈ opened)
    {start rest : List Nat} (held : contents ring = start ++ name :: rest) :
    rings.prev (.node name) = exit ring start ∧
      rings.next (.node name) = entrance ring rest := by
  obtain ⟨front, back, split, -⟩ := circuit_around ring start rest name
  have joined := shows.joined _ member
  rw [held, split, joined_append] at joined
  exact ⟨joined.2.2.1, joined.2.2.2.1⟩

theorem linked_node (shows : rings.Shows opened contents) (member : ring ∈ opened)
    (inside : name ∈ contents ring) :
    rings.next (.node name) ≠ .nowhere ∧ rings.prev (.node name) ≠ .nowhere := by
  obtain ⟨start, rest, held⟩ := List.append_of_mem inside
  obtain ⟨before, after⟩ := shows.neighbours member held
  rw [before, after]
  exact ⟨entrance_ne_nowhere ring rest, exit_ne_nowhere ring start⟩

/-- Links around a node lead along the way round its ring. -/
theorem neighbours_mem (shows : rings.Shows opened contents) (member : ring ∈ opened)
    (inside : name ∈ contents ring) :
    rings.prev (.node name) ∈ circuit ring (contents ring) ∧
      rings.next (.node name) ∈ circuit ring (contents ring) := by
  obtain ⟨start, rest, held⟩ := List.append_of_mem inside
  obtain ⟨before, after⟩ := shows.neighbours member held
  obtain ⟨front, back, split, -⟩ := circuit_around ring start rest name
  rw [before, after, held, split]
  simp

/-- Links of an anchor lead along the way round its ring. -/
theorem ends_mem (shows : rings.Shows opened contents) (member : ring ∈ opened) :
    rings.prev (.anchor ring) ∈ circuit ring (contents ring) ∧
      rings.next (.anchor ring) ∈ circuit ring (contents ring) := by
  rw [shows.prev_anchor member, (joined_names (shows.joined _ member)).2, mem_circuit, mem_circuit]
  constructor
  · unfold exit
    split
    · exact .inl rfl
    · next last => exact .inr ⟨_, List.mem_of_getLast? last, rfl⟩
  · cases contents ring with
    | nil => exact .inl rfl
    | cons first others => exact .inr ⟨first, List.mem_cons_self, rfl⟩

/-- A node is linked exactly when some ring holds it. -/
theorem isLinked_iff (shows : rings.Shows opened contents) (name : Nat) :
    rings.isLinked name = true ↔ ∃ ring ∈ opened, name ∈ contents ring := by
  rw [isLinked, bne_iff_ne]
  constructor
  · intro linked
    refine Classical.byContradiction fun absent => linked ?_
    exact (shows.detached name fun ring member inside => absent ⟨ring, member, inside⟩).1
  · rintro ⟨ring, member, inside⟩
    exact (shows.linked_node member inside).1

/-- A circuit stays joined when links change only at spots outside it. -/
private theorem joined_of_outside {before after : Rings Links} {spots : List Spot}
    (joined : before.Joined spots)
    (sameNext : ∀ spot ∈ spots, after.next spot = before.next spot)
    (samePrev : ∀ spot ∈ spots, after.prev spot = before.prev spot) : after.Joined spots :=
  joined_transport joined
    (fun spot member => sameNext spot ((List.dropLast_sublist _).subset member))
    fun spot member => samePrev spot (List.mem_of_mem_tail member)

private theorem update_self (names : List Nat) : update contents ring names ring = names :=
  if_pos rfl

private theorem update_other {other : Nat} (names : List Nat) (different : other ≠ ring) :
    update contents ring names other = contents other :=
  if_neg different

private theorem dropLast_circuit (ring : Nat) (names : List Nat) :
    (circuit ring names).dropLast = .anchor ring :: names.map Spot.node := by
  rw [circuit, List.dropLast_concat]

private theorem tail_circuit (ring : Nat) (names : List Nat) :
    (circuit ring names).tail = names.map Spot.node ++ [Spot.anchor ring] := rfl

private theorem nodup_sources {ring : Nat} {names : List Nat} (once : names.Nodup)
    {front back : List Spot} {here : Spot} (split : circuit ring names = front ++ here :: back)
    (ends : back ≠ []) : (front ++ here :: back.dropLast).Nodup := by
  have spots := nodup_spots once ring
  rwa [← dropLast_circuit, split, List.dropLast_append_of_ne_nil (by simp),
    List.dropLast_cons_of_ne_nil ends] at spots

private theorem nodup_targets {ring : Nat} {names : List Nat} (once : names.Nodup)
    {front back : List Spot} {here : Spot} (split : circuit ring names = front ++ here :: back) :
    ((front ++ [here]).tail ++ back).Nodup := by
  have spots := nodup_spots once ring
  have turned : (names.map Spot.node ++ [Spot.anchor ring]).Nodup :=
    (List.perm_append_comm : ([Spot.anchor ring] ++ names.map Spot.node).Perm _).nodup_iff.1 spots
  rw [← tail_circuit, split] at turned
  cases front with
  | nil => simpa using turned
  | cons first rest => simpa using turned

/-- Giving one ring other nodes. Links change only on the way round it, as it was or as
it is now, so every other ring is left alone; a node that is taken off is detached, and a
node that is put on was detached before. -/
private theorem replace (shows : rings.Shows opened contents) (member : ring ∈ opened)
    {after : Rings Links} {names : List Nat} (joined : after.Joined (circuit ring names))
    (once : names.Nodup)
    (origin : ∀ node ∈ names, node ∈ contents ring ∨ ∀ other ∈ opened, node ∉ contents other)
    (frame : ∀ spot, spot ∉ circuit ring (contents ring) → spot ∉ circuit ring names →
      after.next spot = rings.next spot ∧ after.prev spot = rings.prev spot)
    (gone : ∀ node ∈ contents ring, node ∉ names →
      after.next (.node node) = .nowhere ∧ after.prev (.node node) = .nowhere)
    (counted : after.linked + (contents ring).length = rings.linked + names.length) :
    after.Shows opened (update contents ring names) := by
  have foreign : ∀ other ∈ opened, other ≠ ring → ∀ node ∈ contents other, node ∉ names := by
    intro other inOpened different node inside here
    rcases origin node here with old | fresh
    · exact shows.apart _ inOpened _ member different _ inside old
    · exact fresh other inOpened inside
  refine ⟨?_, shows.distinct, ?_, ?_, ?_, ?_⟩
  · intro other inOpened
    by_cases here : other = ring
    · subst here
      rwa [update_self]
    · rw [update_other names here]
      have same : ∀ spot ∈ circuit other (contents other),
          after.next spot = rings.next spot ∧ after.prev spot = rings.prev spot :=
        fun spot inside => frame spot
          (circuits_apart here (shows.apart _ inOpened _ member here) inside)
          (circuits_apart here (foreign _ inOpened here) inside)
      exact joined_of_outside (shows.joined _ inOpened) (fun spot inside => (same spot inside).1)
        fun spot inside => (same spot inside).2
  · intro other inOpened
    by_cases here : other = ring
    · subst here
      rwa [update_self]
    · rw [update_other names here]
      exact shows.once _ inOpened
  · intro first inFirst second inSecond different
    by_cases left : first = ring
    · subst left
      rw [update_self, update_other names (Ne.symm different)]
      exact fun node inside here => foreign _ inSecond (Ne.symm different) node here inside
    · rw [update_other names left]
      by_cases right : second = ring
      · subst right
        rw [update_self]
        exact foreign _ inFirst left
      · rw [update_other names right]
        exact shows.apart _ inFirst _ inSecond different
  -- A node on no ring was taken off this one, or it was on none before either.
  · intro node absent
    have notNew : node ∉ names := by
      have := absent ring member
      rwa [update_self] at this
    by_cases old : node ∈ contents ring
    · exact gone node old notNew
    · obtain ⟨sameNext, samePrev⟩ :=
        frame (.node node) (mt node_mem_circuit.1 old) (mt node_mem_circuit.1 notNew)
      rw [sameNext, samePrev]
      refine shows.detached node fun other inOpened => ?_
      by_cases here : other = ring
      · rwa [here]
      · have := absent other inOpened
        rwa [update_other names here] at this
  · have sums := @sum_update opened contents ring names shows.distinct member
    rw [← shows.linked] at sums
    omega

/-- Threading a detached node between two neighbouring spots of a ring puts it there. -/
private theorem insertBetween_shows (shows : rings.Shows opened contents) (member : ring ∈ opened)
    (fresh : ∀ other ∈ opened, name ∉ contents other) {start rest : List Nat}
    (held : contents ring = start ++ rest) :
    (rings.insertBetween name (exit ring start) (entrance ring rest)).Shows opened
      (update contents ring (start ++ name :: rest)) := by
  obtain ⟨front, back, result, split⟩ := circuit_around ring start rest name
  rw [← held] at split
  have once := shows.once _ member
  have absent := fresh _ member
  refine shows.replace member ?_ ?_ ?_ ?_ ?_ ?_
  · have newNode : Spot.node name ∉ circuit ring (contents ring) := mt node_mem_circuit.1 absent
    rw [result]
    exact joined_insertBetween (split ▸ shows.joined _ member)
      (nodup_sources once split (by simp)) (nodup_targets once split) (split ▸ newNode)
  · rw [List.perm_middle.nodup_iff, ← held]
    exact List.nodup_cons.2 ⟨absent, once⟩
  · intro node inside
    rcases List.mem_cons.1 (List.perm_middle.mem_iff.1 inside) with rfl | old
    · exact .inr fresh
    · exact .inl (held ▸ old)
  · intro spot _ outside
    simp only [result, List.mem_append, List.mem_cons, not_or] at outside
    obtain ⟨-, notBefore, notNew, notAfter, -⟩ := outside
    rw [next_insertBetween, if_neg notBefore, if_neg notNew, prev_insertBetween, if_neg notNew,
      if_neg notAfter]
    exact ⟨rfl, rfl⟩
  · intro node old left
    rw [held] at old
    exact absurd (List.perm_middle.mem_iff.2 (List.mem_cons_of_mem _ old)) left
  · show rings.linked + 1 + _ = _
    rw [held]
    simp only [List.length_append, List.length_cons]
    omega

/-- Threading a node at the front puts it first. -/
theorem pushFront (shows : rings.Shows opened contents) (member : ring ∈ opened)
    (fresh : ∀ other ∈ opened, name ∉ contents other) :
    (rings.pushFront ring name).Shows opened (update contents ring (name :: contents ring)) := by
  have held : contents ring = [] ++ contents ring := rfl
  have threaded := shows.insertBetween_shows member fresh held
  rw [Rings.pushFront, (joined_names (shows.joined _ member)).2]
  exact threaded

/-- Threading a node at the back puts it last. -/
theorem pushBack (shows : rings.Shows opened contents) (member : ring ∈ opened)
    (fresh : ∀ other ∈ opened, name ∉ contents other) :
    (rings.pushBack ring name).Shows opened (update contents ring (contents ring ++ [name])) := by
  have held : contents ring = contents ring ++ [] := (List.append_nil _).symm
  have threaded := shows.insertBetween_shows member fresh held
  rw [Rings.pushBack, shows.prev_anchor member]
  exact threaded

/-- Taking a node off leaves the order of all others as it was. -/
theorem unlink (shows : rings.Shows opened contents) (member : ring ∈ opened)
    {start rest : List Nat}
    (held : contents ring = start ++ name :: rest) :
    (rings.unlink name).Shows opened (update contents ring (start ++ rest)) := by
  obtain ⟨front, back, split, result⟩ := circuit_around ring start rest name
  obtain ⟨toName, fromName⟩ := shows.neighbours member held
  rw [← held] at split
  have once := shows.once _ member
  refine shows.replace member ?_ ?_ ?_ ?_ ?_ ?_
  · rw [result]
    exact joined_unlink (split ▸ shows.joined _ member)
      (by simpa using nodup_sources once split (by simp)) (nodup_targets once split)
  · rw [held, List.perm_middle.nodup_iff] at once
    exact (List.nodup_cons.1 once).2
  · intro node inside
    rw [held]
    exact .inl (List.perm_middle.mem_iff.2 (List.mem_cons_of_mem _ inside))
  · intro spot outside _
    simp only [split, List.mem_append, List.mem_cons, not_or] at outside
    obtain ⟨-, notBefore, notName, notAfter, -⟩ := outside
    rw [next_unlink, if_neg notName, toName, if_neg notBefore, prev_unlink, if_neg notName,
      fromName, if_neg notAfter]
    exact ⟨rfl, rfl⟩
  · intro node old left
    rw [held] at old
    obtain rfl := (List.mem_cons.1 (List.perm_middle.mem_iff.1 old)).resolve_right left
    rw [next_unlink, if_pos rfl, prev_unlink, if_pos rfl]
    exact ⟨rfl, rfl⟩
  · have below := shows.length_le_linked member
    show rings.linked - 1 + _ = _
    rw [held] at below ⊢
    simp only [List.length_append, List.length_cons] at below ⊢
    omega

/-- What a view says does not depend on the order in which rings are named. -/
theorem perm (shows : rings.Shows opened contents) {others : List Nat} (same : opened.Perm others) :
    rings.Shows others contents := by
  have back : ∀ ring, ring ∈ others → ring ∈ opened := fun _ member => same.mem_iff.2 member
  refine ⟨fun ring member => shows.joined ring (back _ member), same.nodup_iff.1 shows.distinct,
    fun ring member => shows.once ring (back _ member),
    fun ring member other inOthers => shows.apart ring (back _ member) other (back _ inOthers),
    fun name absent => shows.detached name fun ring member =>
      absent ring (same.mem_iff.1 member), ?_⟩
  rw [shows.linked, (same.map _).sum_nat]

/-- A family without rings. -/
theorem empty : Rings.empty.Shows [] fun _ => [] :=
  ⟨by simp, by simp, by simp, by simp, fun _ _ => ⟨rfl, rfl⟩, rfl⟩

/-- A ring that is started holds nothing. -/
theorem openRing (shows : rings.Shows opened contents) (fresh : ring ∉ opened) :
    (rings.openRing ring).Shows (ring :: opened) (update contents ring []) := by
  have others : ∀ other ∈ opened, other ≠ ring := by
    rintro other inOpened rfl
    exact fresh inOpened
  -- Only the links of the new anchor are written, and it is on no other circuit.
  refine ⟨?_, List.nodup_cons.2 ⟨fresh, shows.distinct⟩, ?_, ?_, ?_, ?_⟩
  · intro other member
    rcases List.mem_cons.1 member with rfl | inOpened
    · rw [update_self]
      exact ⟨(next_openRing _ _ _).trans (if_pos rfl), (prev_openRing _ _ _).trans (if_pos rfl),
        trivial⟩
    · rw [update_other _ (others _ inOpened)]
      have away : ∀ spot ∈ circuit other (contents other), spot ≠ .anchor ring := by
        rintro spot inside rfl
        rcases mem_circuit.1 inside with same | ⟨_, _, same⟩
        · exact others _ inOpened (Spot.anchor.inj same).symm
        · cases same
      exact joined_of_outside (shows.joined _ inOpened)
        (fun spot inside => (next_openRing _ _ _).trans (if_neg (away spot inside)))
        fun spot inside => (prev_openRing _ _ _).trans (if_neg (away spot inside))
  · intro other member
    rcases List.mem_cons.1 member with rfl | inOpened
    · simp [update_self]
    · rw [update_other _ (others _ inOpened)]
      exact shows.once _ inOpened
  · intro first inFirst second inSecond different
    rcases List.mem_cons.1 inFirst with rfl | inFirst
    · simp [update_self]
    · rcases List.mem_cons.1 inSecond with rfl | inSecond
      · simp [update_self]
      · rw [update_other _ (others _ inFirst), update_other _ (others _ inSecond)]
        exact shows.apart _ inFirst _ inSecond different
  · intro name absent
    have untouched := shows.detached name fun other inOpened => by
      have := absent other (List.mem_cons_of_mem _ inOpened)
      rwa [update_other _ (others _ inOpened)] at this
    have apart : Spot.node name ≠ .anchor ring := by simp
    rw [next_openRing, prev_openRing, if_neg apart, if_neg apart]
    exact untouched
  · show rings.linked = _
    rw [shows.linked, List.map_cons, List.sum_cons, update_self]
    have same : (opened.map fun other => (update contents ring [] other).length) =
        opened.map fun other => (contents other).length :=
      List.map_congr_left fun other inOpened => by rw [update_other _ (others _ inOpened)]
    simp [same]

/-- Draining takes nodes off the front. -/
theorem drain (member : ring ∈ opened) :
    ∀ (count : Nat) {rings : Rings Links} {contents : Nat → List Nat}, rings.Shows opened contents →
      (rings.drain ring count).Shows opened
        (update contents ring ((contents ring).drop count)) := by
  -- The rings and their contents change with every node taken off, so the induction is over all of
  -- them.
  intro count
  induction count with
  | zero =>
    intro rings contents shows
    have same : update contents ring ((contents ring).drop 0) = contents := by
      funext other
      by_cases here : other = ring
      · subst here
        rw [update_self, List.drop_zero]
      · rw [update_other _ here]
    rw [same]
    exact shows
  | succ count ih =>
    intro rings contents shows
    rw [Rings.drain, shows.front_eq member]
    cases held : contents ring with
    | nil =>
      have same : update contents ring (([] : List Nat).drop (count + 1)) = contents := by
        funext other
        by_cases here : other = ring
        · subst here
          rw [update_self, held]
          rfl
        · rw [update_other _ here]
      rw [same]
      exact shows
    | cons first rest =>
      have split : contents ring = [] ++ first :: rest := held
      have after := ih (shows.unlink member split)
      have same : update (update contents ring ([] ++ rest)) ring
          ((update contents ring ([] ++ rest) ring).drop count) =
            update contents ring ((first :: rest).drop (count + 1)) := by
        funext other
        by_cases here : other = ring
        · subst here
          simp [update_self]
        · rw [update_other _ here, update_other _ here, update_other _ here]
      rw [← same]
      exact after

/-- Ending a ring detaches its nodes and leaves all other rings alone. -/
theorem closeRing (shows : rings.Shows opened contents) (member : ring ∈ opened) :
    (rings.closeRing ring).Shows (opened.erase ring) contents := by
  -- As many steps as nodes are linked are enough to empty the ring.
  have drained := drain member rings.linked shows
  rw [List.drop_of_length_le (shows.length_le_linked member)] at drained
  have others : ∀ other, other ∈ opened.erase ring ↔ other ≠ ring ∧ other ∈ opened :=
    fun other => shows.distinct.mem_erase_iff
  refine ⟨?_, shows.distinct.erase ring, ?_, ?_, ?_, ?_⟩
  · intro other inOthers
    obtain ⟨different, inOpened⟩ := (others other).1 inOthers
    have joined := drained.joined _ inOpened
    rw [update_other _ different] at joined
    have away : ∀ spot ∈ circuit other (contents other), spot ≠ .anchor ring := by
      rintro spot inside rfl
      rcases mem_circuit.1 inside with same | ⟨_, _, same⟩
      · exact different (Spot.anchor.inj same).symm
      · cases same
    exact joined_of_outside joined
      (fun spot inside => (next_closeRing _ _ _).trans (if_neg (away spot inside)))
      fun spot inside => (prev_closeRing _ _ _).trans (if_neg (away spot inside))
  · intro other inOthers
    exact shows.once _ ((others other).1 inOthers).2
  · intro first inFirst second inSecond
    exact shows.apart _ ((others first).1 inFirst).2 _ ((others second).1 inSecond).2
  · intro name absent
    have untouched := drained.detached name fun other inOpened => by
      by_cases here : other = ring
      · subst here
        simp [update_self]
      · rw [update_other _ here]
        exact absent other ((others other).2 ⟨here, inOpened⟩)
    have apart : Spot.node name ≠ .anchor ring := by simp
    rw [next_closeRing, prev_closeRing, if_neg apart, if_neg apart]
    exact untouched
  · show (rings.drain ring rings.linked).linked = _
    rw [drained.linked]
    have counted := @sum_update opened contents ring [] shows.distinct member
    have split := ((List.perm_cons_erase member).map fun other => (contents other).length).sum_nat
    simp only [List.map_cons, List.sum_cons] at split
    simp only [List.length_nil, Nat.add_zero] at counted
    omega

/-- Unlinking succeeds on linked nodes only. -/
theorem unlink?_eq (shows : rings.Shows opened contents) (name : Nat)
    [Decidable (∃ other ∈ opened, name ∈ contents other)] :
    rings.unlink? name =
      if ∃ other ∈ opened, name ∈ contents other then .ok (rings.unlink name)
      else .error .linked := by
  by_cases held : ∃ other ∈ opened, name ∈ contents other
  · obtain ⟨other, inOpened, inside⟩ := held
    obtain ⟨forward, backward⟩ := shows.linked_node inOpened inside
    rw [if_pos ⟨other, inOpened, inside⟩, Rings.unlink?, if_neg (by simp [forward, backward])]
  · obtain ⟨forward, backward⟩ := shows.detached name
      fun ring member inside => held ⟨ring, member, inside⟩
    rw [if_neg held, Rings.unlink?, if_pos (.inr forward)]

end Shows

end SlabAllocator.Rings
