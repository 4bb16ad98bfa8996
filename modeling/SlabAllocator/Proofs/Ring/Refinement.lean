import SlabAllocator.Proofs.Ring.Sequences

/-! Every script of ring operations refines the same script on plain sequences. `step` says
of one operation that a board that shows a row answers as the row does and shows the row
after it, `run` says so of a script, and `scripts_refine_sequences` adds what the links of
the board are like then. -/
namespace SlabAllocator.Ring

namespace Board

variable {board : Board} {contents : Nat → List Nat} {list ring node : Nat}

/-- A board answers like a row of sequences, and shows what the row is afterwards. -/
def Follows (outcome : Board × Answer) (expected : Row × Answer) : Prop :=
  outcome.2 = expected.2 ∧ ∃ contents, outcome.1.Shows contents ∧ outcome.1.row contents = expected.1

namespace Shows

theorem stay (shows : board.Shows contents) (answer : Answer) :
    Follows (board, answer) (board.row contents, answer) :=
  ⟨rfl, contents, shows, rfl⟩

/-- A list of a board is asked as the sequence it holds. -/
theorem ask (shows : board.Shows contents) {asked : Nat → Answer} {answer : List Nat → Answer}
    (same : ∀ ring ∈ board.lists, asked ring = answer (contents ring)) :
    Follows (board.ask list asked) ((board.row contents).ask list answer) := by
  unfold Board.ask Row.ask
  cases found : board.lists[list]? with
  | none =>
    rw [row_absent found]
    exact shows.stay .absent
  | some ring =>
    rw [row_get found]
    simp only [same ring (List.mem_of_getElem? found)]
    exact shows.stay _

/-- Links that hold one sequence more than before, on a board that is otherwise as it was. -/
private theorem relink (shows : board.Shows contents) (found : board.lists[list]? = some ring)
    {links : Rings Links} {names : List Nat}
    (linked : links.Shows board.lists (Rings.update contents ring names)) :
    Follows ({ board with rings := links }, .changed)
      ((board.row contents).set list names, .changed) :=
  ⟨rfl, _, ⟨linked, shows.older⟩, map_update shows.rings.distinct found names⟩

/-- To thread a node into a ring is to put it into one sequence. Both are refused if the node
is somewhere already. -/
private theorem thread (shows : board.Shows contents) (links : Nat → Rings Links)
    (place : List Nat → List Nat)
    (threaded : ∀ ring ∈ board.lists, (∀ other ∈ board.lists, node ∉ contents other) →
      (links ring).Shows board.lists (Rings.update contents ring (place (contents ring)))) :
    Follows
      (match board.lists[list]? with
      | none => (board, .absent)
      | some ring => board.settle
          (if board.rings.isLinked node then .error .detached else .ok (links ring)))
      ((board.row contents).thread list node place) := by
  unfold Row.thread
  cases found : board.lists[list]? with
  | none =>
    rw [row_absent found]
    exact shows.stay .absent
  | some ring =>
    rw [row_get found]
    simp only [shows.isLinked_eq]
    -- Both sides make the same test: a node of some list is refused.
    cases held : (board.row contents).holds node with
    | true => exact shows.stay _
    | false =>
      have member := List.mem_of_getElem? found
      exact shows.relink found (threaded ring member (free_of_not_holds held))

theorem pushFront (shows : board.Shows contents) :
    Follows (board.step (.pushFront list node)) ((board.row contents).step (.pushFront list node)) :=
  shows.thread (fun ring => board.rings.pushFront ring node) (fun names => node :: names)
    fun _ member free => shows.rings.pushFront member free

theorem pushBack (shows : board.Shows contents) :
    Follows (board.step (.pushBack list node)) ((board.row contents).step (.pushBack list node)) :=
  shows.thread (fun ring => board.rings.pushBack ring node) (fun names => names ++ [node])
    fun _ member free => shows.rings.pushBack member free

/-- Taking a node off the ring that holds it takes it out of every sequence. -/
private theorem row_unlink (shows : board.Shows contents) (member : ring ∈ board.lists)
    {start rest : List Nat} (held : contents ring = start ++ node :: rest) :
    board.lists.map (Rings.update contents ring (start ++ rest)) =
      (board.row contents).map fun names => names.erase node := by
  have absent : node ∉ start := by
    intro earlier
    have once := shows.rings.once ring member
    rw [held] at once
    exact (List.nodup_append.1 once).2.2 node earlier node List.mem_cons_self rfl
  -- Erasing the node from every list changes only the list that holds it.
  rw [row, List.map_map]
  refine List.map_congr_left fun other listed => ?_
  by_cases same : other = ring
  · subst same
    rw [Function.comp_apply, held, List.erase_append_right _ absent, List.erase_cons_head]
    exact if_pos rfl
  · have elsewhere : node ∉ contents other := by
      intro there
      have inside : node ∈ contents ring := by simp [held]
      exact shows.rings.apart ring member other listed (Ne.symm same) node inside there
    rw [Function.comp_apply, List.erase_of_not_mem elsewhere]
    exact if_neg same

theorem unlink (shows : board.Shows contents) :
    Follows (board.step (.unlink node)) ((board.row contents).step (.unlink node)) := by
  simp only [Board.step, Row.step, shows.rings.unlink?_eq, ← row_holds_iff]
  cases held : (board.row contents).holds node with
  | false => exact shows.stay _
  | true =>
    obtain ⟨ring, member, inside⟩ := (row_holds_iff board contents node).1 held
    obtain ⟨start, rest, split⟩ := List.append_of_mem inside
    exact ⟨rfl, _, ⟨shows.rings.unlink member split, shows.older⟩, shows.row_unlink member split⟩

theorem swap (shows : board.Shows contents) (first second : Nat) :
    Follows (board.step (.swap first second)) ((board.row contents).step (.swap first second)) := by
  simp only [Board.step, Row.step]
  cases here : board.lists[first]? with
  | none =>
    rw [row_absent here]
    exact shows.stay .absent
  | some left =>
    rw [row_get here]
    cases there : board.lists[second]? with
    | none =>
      rw [row_absent there]
      exact shows.stay .absent
    | some right =>
      rw [row_get there]
      obtain ⟨inFirst, rfl⟩ := List.getElem?_eq_some_iff.1 here
      obtain ⟨inSecond, rfl⟩ := List.getElem?_eq_some_iff.1 there
      -- The links stay. Only which list goes by which ring is exchanged.
      have same := List.set_set_perm inFirst inSecond
      refine ⟨rfl, contents, ⟨shows.rings.perm same.symm, fun ring member => ?_⟩, ?_⟩
      · exact shows.older ring (same.mem_iff.1 member)
      · simp only [row, List.map_set]

/-- Ending a list and opening a new one leaves the other lists alone. -/
theorem drop (shows : board.Shows contents) :
    Follows (board.step (.drop list)) ((board.row contents).step (.drop list)) := by
  simp only [Board.step, Row.step]
  cases found : board.lists[list]? with
  | none =>
    rw [row_absent found]
    exact shows.stay .absent
  | some ring =>
    rw [row_get found]
    have member := List.mem_of_getElem? found
    have fresh : board.opened ∉ board.lists := fun known =>
      Nat.lt_irrefl _ (shows.older _ known)
    obtain ⟨inside, here⟩ := List.getElem?_eq_some_iff.1 found
    -- The new anchor takes the place of the old one; the rings are shown up to a permutation.
    have others : (board.lists.erase ring).Perm (board.lists.eraseIdx list) := by
      apply List.Perm.cons_inv (a := ring)
      apply (List.perm_cons_erase member).symm.trans
      have moved := List.getElem_cons_eraseIdx_perm inside
      rw [here] at moved
      exact moved.symm
    have same : (board.opened :: board.lists.erase ring).Perm
        (board.lists.set list board.opened) :=
      (others.cons _).trans (List.set_perm_cons_eraseIdx inside board.opened).symm
    have closed := (shows.rings.closeRing member).openRing
      fun known => fresh (List.mem_of_mem_erase known)
    refine ⟨rfl, Rings.update contents board.opened [], ⟨closed.perm same, ?_⟩, ?_⟩
    · intro other listed
      rcases List.mem_or_eq_of_mem_set listed with old | rfl
      · exact Nat.lt_succ_of_lt (shows.older other old)
      · exact Nat.lt_succ_self _
    · rw [row, List.map_set]
      have untouched : board.lists.map (Rings.update contents board.opened []) =
          board.row contents := by
        refine List.map_congr_left fun other listed => if_neg ?_
        rintro rfl
        exact fresh listed
      rw [untouched]
      have bare : Rings.update contents board.opened [] board.opened = [] := if_pos rfl
      rw [bare]

/-- **One operation.** A board that shows a row answers as the row does. -/
theorem step (shows : board.Shows contents) (operation : Operation) :
    Follows (board.step operation) ((board.row contents).step operation) := by
  have member {list ring : Nat} (found : board.lists[list]? = some ring) : ring ∈ board.lists :=
    List.mem_of_getElem? found
  cases operation with
  | pushFront list node => exact shows.pushFront
  | pushBack list node => exact shows.pushBack
  | unlink node => exact shows.unlink
  | swap first second => exact shows.swap first second
  | drop list => exact shows.drop
  | front list => exact shows.ask fun ring listed => congrArg _ (shows.rings.front_eq listed)
  | back list => exact shows.ask fun ring listed => congrArg _ (shows.rings.back_eq listed)
  | length list => exact shows.ask fun ring listed => congrArg _ (shows.rings.length_eq listed)
  | isEmpty list => exact shows.ask fun ring listed => congrArg _ (shows.rings.isEmpty_eq listed)
  | take list count => exact shows.ask fun ring listed => congrArg _ (shows.rings.take_eq listed count)
  | isLinked node =>
    simp only [Board.step, Row.step, shows.isLinked_eq]
    exact shows.stay _
  | describe list =>
    refine shows.ask fun ring listed => ?_
    rw [Rings.describe, shows.rings.length_eq listed]

/-- The lists of a board, written out, are the row it shows. -/
theorem contents_eq (shows : board.Shows contents) : board.contents = board.row contents :=
  List.map_congr_left fun _ listed => shows.rings.toList_eq listed

/-- **A script.** The outcomes are those of the script on sequences. -/
theorem run (shows : board.Shows contents) (script : List Operation) :
    (Ring.run board script).1 = (Row.run (board.row contents) script).1 ∧
      ∃ later, (Ring.run board script).2.Shows later ∧
        (Ring.run board script).2.row later = (Row.run (board.row contents) script).2 := by
  induction script generalizing board contents with
  | nil => exact ⟨rfl, contents, shows, rfl⟩
  | cons operation rest ih =>
    obtain ⟨answer, later, shown, same⟩ := shows.step operation
    obtain ⟨outcomes, last⟩ := ih shown
    rw [same] at outcomes last
    refine ⟨?_, last⟩
    -- An outcome shows the lists written out, and those are the row.
    simp only [Ring.run, Row.run]
    rw [outcomes, answer, shown.contents_eq, same]

/-- Ending lists one after the other detaches what they hold. -/
theorem close_lists {rings : Rings Links} {lists : List Nat} (shows : rings.Shows lists contents) :
    (lists.foldl Rings.closeRing rings).Shows [] contents := by
  induction lists generalizing rings with
  | nil => exact shows
  | cons ring rest ih =>
    have closed := shows.closeRing List.mem_cons_self
    rw [List.erase_cons_head] at closed
    exact ih closed

/-- Empty lists show empty sequences. -/
theorem start (count : Nat) : ∃ contents, (Board.start count).Shows contents ∧
    (Board.start count).row contents = List.replicate count [] ∧
    (Board.start count).opened = count := by
  -- A list more is a ring opened under the next name, which no list has yet.
  induction count with
  | zero => exact ⟨fun _ => [], ⟨Rings.Shows.empty, by simp [Board.start]⟩, rfl, rfl⟩
  | succ count ih =>
    obtain ⟨contents, shows, bare, opened⟩ := ih
    have older := shows.older
    rw [opened] at older
    have fresh : count ∉ (Board.start count).lists := fun known => Nat.lt_irrefl _ (older _ known)
    refine ⟨Rings.update contents count [], ⟨?_, ?_⟩, ?_, rfl⟩
    · exact (shows.rings.openRing fresh).perm (List.perm_append_singleton _ _).symm
    · intro ring listed
      rcases List.mem_append.1 listed with old | new
      · exact Nat.lt_succ_of_lt (older ring old)
      · obtain rfl := List.mem_singleton.1 new
        exact Nat.lt_succ_self _
    · have untouched : (Board.start count).lists.map (Rings.update contents count []) =
          (Board.start count).row contents := by
        refine List.map_congr_left fun other listed => if_neg ?_
        rintro rfl
        exact fresh listed
      rw [List.replicate_succ', ← bare, ← untouched]
      simp [Board.start, row, Rings.update]

end Shows

/-- An operation that finds its condition broken has changed nothing, not even a link. -/
theorem step_broken {operation : Operation} {condition : Assertion}
    (broken : (board.step operation).2 = .broken condition) :
    (board.step operation).1 = board := by
  have settled {outcome : Except Assertion (Rings Links)}
      (broken : (board.settle outcome).2 = .broken condition) : (board.settle outcome).1 = board := by
    cases outcome with
    | ok rings => cases broken
    | error _ => rfl
  cases operation with
  | pushFront list node | pushBack list node =>
    simp only [step] at broken ⊢
    split
    · rfl
    · next found =>
      rw [found] at broken
      exact settled broken
  | unlink node => exact settled broken
  | swap first second =>
    simp only [step] at broken ⊢
    split at broken
    · cases broken
    · rfl
  | drop list =>
    simp only [step] at broken
    split at broken <;> cases broken
  | isLinked node => cases broken
  | front list | back list | length list | isEmpty list | take list count | describe list =>
    simp only [step, ask] at broken ⊢
    split <;> rfl

end Board

/-- What a script leaves behind: its outcomes are those of the script on sequences, links
are those of the sequences, conditions are checked before anything is written, and ending
all lists detaches every node. -/
structure Refined (outcomes : List Outcome) (board : Board) (expected : List Outcome) (row : Row) :
    Prop where
  outcomes : outcomes = expected
  threads : board.Threads row
  contents : board.contents = row
  answers : ∀ operation, (board.step operation).2 = (row.step operation).2 ∧
    (board.step operation).1.Threads (row.step operation).1
  broken : ∀ operation condition, (board.step operation).2 = .broken condition →
    (board.step operation).1 = board
  closed : ∀ node, board.close.next (.node node) = .nowhere ∧ board.close.prev (.node node) = .nowhere

/-- **Lists threaded through their nodes refine plain sequences**, for any number of lists
and nodes and any script. -/
theorem scripts_refine_sequences (count : Nat) (script : List Operation) :
    Refined (run (Board.start count) script).1 (run (Board.start count) script).2
      (Row.run (List.replicate count []) script).1 (Row.run (List.replicate count []) script).2 := by
  obtain ⟨contents, shows, bare, -⟩ := Board.Shows.start count
  obtain ⟨outcomes, later, shown, same⟩ := shows.run script
  rw [bare] at outcomes same
  rw [← same]
  refine ⟨outcomes, shown.threads, shown.contents_eq, fun operation => ?_, fun operation condition =>
    Board.step_broken, fun node => ?_⟩
  · obtain ⟨answer, after, shownAfter, sameAfter⟩ := shown.step operation
    rw [← sameAfter]
    exact ⟨answer, shownAfter.threads⟩
  · exact (Board.Shows.close_lists shown.rings).detached node fun ring listed => by cases listed

end SlabAllocator.Ring
