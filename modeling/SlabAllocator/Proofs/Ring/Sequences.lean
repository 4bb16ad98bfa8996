import Mathlib.Data.List.Induction
import Mathlib.Data.List.Nodup
import Mathlib.Data.List.Perm.Basic
import SlabAllocator.Ring.Script
import SlabAllocator.Ring.View

/-! Lists threaded through their own nodes behave as plain sequences. A row of sequences
answers every operation by itself, without links; a board shows a row when reading links
from each anchor, forwards and backwards, finds the sequence of that list. Every script
keeps the two together, and reading and draining come to an end by themselves. -/
namespace SlabAllocator.Ring

/-! ## Sequences -/

/-- A row of sequences of nodes. -/
abbrev Row := List (List Nat)

namespace Row

/-- Some sequence of the row has this node. -/
def holds (row : Row) (node : Nat) : Bool :=
  row.any fun names => names.contains node

/-- Puts a node into one sequence, unless some sequence has it. -/
def thread (row : Row) (list node : Nat) (place : List Nat → List Nat) : Row × Answer :=
  match row[list]? with
  | none => (row, .absent)
  | some names =>
    if row.holds node then (row, .broken .detached) else (row.set list (place names), .changed)

/-- Answers a question about one sequence. -/
def ask (row : Row) (list : Nat) (question : List Nat → Answer) : Row × Answer :=
  match row[list]? with
  | none => (row, .absent)
  | some names => (row, question names)

/-- Performs one operation on sequences. -/
def step (row : Row) : Operation → Row × Answer
  | .pushFront list node => row.thread list node fun names => node :: names
  | .pushBack list node => row.thread list node fun names => names ++ [node]
  | .unlink node =>
    if row.holds node then (row.map fun names => names.erase node, .changed)
    else (row, .broken .linked)
  | .swap first second =>
    match row[first]?, row[second]? with
    | some left, some right => ((row.set first right).set second left, .changed)
    | _, _ => (row, .absent)
  | .drop list =>
    match row[list]? with
    | none => (row, .absent)
    | some _ => (row.set list [], .changed)
  | .front list => row.ask list fun names => .node names.head?
  | .back list => row.ask list fun names => .node names.getLast?
  | .length list => row.ask list fun names => .count names.length
  | .isEmpty list => row.ask list fun names => .flag names.isEmpty
  | .take list count => row.ask list fun names => .nodes (names.take count)
  | .isLinked node => (row, .flag (row.holds node))
  | .describe list => row.ask list fun names =>
    .text (Text.record "List" [Text.field "len" (toString names.length)])

/-- Runs a script on sequences. -/
def run (row : Row) : List Operation → List Outcome × Row
  | [] => ([], row)
  | operation :: rest =>
    let (after, answer) := row.step operation
    let shown := if answer = .changed then some after else none
    let (outcomes, last) := run after rest
    (⟨answer, shown⟩ :: outcomes, last)

theorem holds_iff (row : Row) (node : Nat) :
    row.holds node = true ↔ ∃ names ∈ row, node ∈ names := by
  simp [holds]

end Row

/-! ## Reading and draining -/

/-- Following links from a spot meets these nodes, one after the other, and then the anchor
of the ring. Nothing bounds the number of steps. -/
inductive Reads (follow : Spot → Spot) (ring : Nat) : Spot → List Nat → Prop
  | finish : Reads follow ring (.anchor ring) []
  | step {name : Nat} {rest : List Nat} (behind : Reads follow ring (follow (.node name)) rest) :
      Reads follow ring (.node name) (name :: rest)

/-- Taking nodes off the front of a ring until it has none ends with these links. Nothing
bounds the number of steps. -/
inductive Drains (ring : Nat) : Rings Links → Rings Links → Prop
  | finish {rings : Rings Links} (bare : rings.front ring = none) : Drains ring rings rings
  | step {rings after : Rings Links} {name : Nat} (first : rings.front ring = some name)
      (behind : Drains ring (rings.unlink name) after) : Drains ring rings after

namespace Board

/-- The links of a board are those of a row of sequences. -/
structure Threads (board : Board) (row : Row) : Prop where
  size : board.lists.length = row.length
  /-- Every list has an anchor of its own. -/
  anchors : board.lists.Nodup
  forward : ∀ (list ring : Nat) (names : List Nat), board.lists[list]? = some ring →
    row[list]? = some names → Reads board.rings.next ring (board.rings.next (.anchor ring)) names
  backward : ∀ (list ring : Nat) (names : List Nat), board.lists[list]? = some ring →
    row[list]? = some names →
    Reads board.rings.prev ring (board.rings.prev (.anchor ring)) names.reverse
  /-- No sequence has a node twice, and no two sequences have one in common. -/
  once : row.flatten.Nodup
  linked : ∀ node ∈ row.flatten,
    board.rings.next (.node node) ≠ .nowhere ∧ board.rings.prev (.node node) ≠ .nowhere
  detached : ∀ node, node ∉ row.flatten →
    board.rings.next (.node node) = .nowhere ∧ board.rings.prev (.node node) = .nowhere
  /-- A list can be drained, and that leaves the links its end leaves. -/
  drains : ∀ ring ∈ board.lists,
    Drains ring board.rings (board.rings.drain ring board.rings.linked)

end Board

section reading

variable {rings : Rings Links} {ring : Nat}

/-- Joined spots are read forwards in their order. -/
theorem reads_next {here : Spot} {names : List Nat}
    (joined : rings.Joined (here :: names.map Spot.node ++ [.anchor ring])) :
    Reads rings.next ring (rings.next here) names := by
  induction names generalizing here with
  | nil =>
    have last : rings.next here = .anchor ring := joined.1
    rw [last]
    exact .finish
  | cons name rest ih =>
    have first : rings.next here = .node name := joined.1
    rw [first]
    exact .step (ih joined.2.2)

/-- Joined spots are read backwards in the opposite order. -/
theorem reads_prev {there : Spot} {names : List Nat}
    (joined : rings.Joined (.anchor ring :: names.map Spot.node ++ [there])) :
    Reads rings.prev ring (rings.prev there) names.reverse := by
  induction names using List.reverseRecOn generalizing there with
  | nil =>
    have last : rings.prev there = .anchor ring := joined.2.1
    rw [last]
    exact .finish
  | append_singleton start name ih =>
    have split : Spot.anchor ring :: (start ++ [name]).map Spot.node ++ [there] =
        (.anchor ring :: start.map Spot.node) ++ .node name :: [there] := by simp
    rw [split, Rings.joined_append] at joined
    obtain ⟨before, -, last, -⟩ := joined
    rw [last, List.reverse_append]
    exact .step (ih before)

end reading

/-! ## Boards that show a row -/

namespace Board

/-- The rings of a board hold the sequences of a row, and later rings get fresh numbers. -/
structure Shows (board : Board) (contents : Nat → List Nat) : Prop where
  rings : board.rings.Shows board.lists contents
  older : ∀ ring ∈ board.lists, ring < board.opened

/-- The sequences of the lists of a board, told by what each ring holds. -/
def row (board : Board) (contents : Nat → List Nat) : Row :=
  board.lists.map contents

variable {board : Board} {contents : Nat → List Nat} {list ring node : Nat}

theorem row_get (found : board.lists[list]? = some ring) :
    (board.row contents)[list]? = some (contents ring) := by
  rw [row, List.getElem?_map, found]
  rfl

theorem row_absent (missing : board.lists[list]? = none) :
    (board.row contents)[list]? = none := by
  rw [row, List.getElem?_map, missing]
  rfl

/-- A change of what one ring holds changes the sequence of its list. -/
theorem map_update {lists : List Nat} (distinct : lists.Nodup) (found : lists[list]? = some ring)
    (names : List Nat) :
    lists.map (Rings.update contents ring names) = (lists.map contents).set list names := by
  obtain ⟨inside, here⟩ := List.getElem?_eq_some_iff.1 found
  apply List.ext_getElem
  · simp
  · intro position below _
    rw [List.getElem_set, List.getElem_map]
    by_cases same : list = position
    · subst same
      rw [if_pos rfl, here]
      exact if_pos rfl
    · rw [if_neg same, List.getElem_map]
      refine if_neg fun equal => same ?_
      have below : position < lists.length := by simpa using below
      exact (List.Nodup.getElem_inj_iff distinct).1 (here.trans equal.symm)

theorem row_holds_iff (board : Board) (contents : Nat → List Nat) (node : Nat) :
    (board.row contents).holds node = true ↔ ∃ ring ∈ board.lists, node ∈ contents ring := by
  rw [Row.holds_iff]
  constructor
  · rintro ⟨names, member, inside⟩
    obtain ⟨ring, listed, rfl⟩ := List.mem_map.1 member
    exact ⟨ring, listed, inside⟩
  · rintro ⟨ring, listed, inside⟩
    exact ⟨_, List.mem_map_of_mem listed, inside⟩

theorem free_of_not_holds (free : (board.row contents).holds node = false) :
    ∀ other ∈ board.lists, node ∉ contents other := by
  intro other listed inside
  rw [(row_holds_iff board contents node).2 ⟨other, listed, inside⟩] at free
  cases free

namespace Shows

/-- A node is on some ring exactly when some sequence has it. -/
theorem isLinked_eq (shows : board.Shows contents) (node : Nat) :
    board.rings.isLinked node = (board.row contents).holds node := by
  rw [Bool.eq_iff_iff, shows.rings.isLinked_iff, row_holds_iff]

/-- Draining comes to an end once it may take as many steps as there are nodes. -/
theorem drains {rings : Rings Links} {opened : List Nat} (member : ring ∈ opened) (count : Nat)
    (shows : rings.Shows opened contents) (enough : (contents ring).length ≤ count) :
    Drains ring rings (rings.drain ring count) := by
  -- The bound goes down with the length: taking the first node off leaves one node less.
  induction count generalizing rings contents with
  | zero =>
    have bare : contents ring = [] := List.length_eq_zero_iff.1 (Nat.le_zero.1 enough)
    refine .finish ?_
    rw [shows.front_eq member, bare]
    rfl
  | succ count ih =>
    have first := shows.front_eq member
    rw [Rings.drain]
    cases held : contents ring with
    | nil =>
      rw [held] at first
      rw [first]
      exact .finish first
    | cons name rest =>
      rw [held] at first enough
      rw [first]
      have parts : contents ring = [] ++ name :: rest := held
      refine .step first (ih (shows.unlink member parts) ?_)
      have left : Rings.update contents ring ([] ++ rest) ring = rest := if_pos rfl
      rw [left]
      exact Nat.le_of_succ_le_succ enough

theorem threads (shows : board.Shows contents) : board.Threads (board.row contents) := by
  have member : ∀ {list ring : Nat}, board.lists[list]? = some ring → ring ∈ board.lists :=
    fun found => List.mem_of_getElem? found
  refine ⟨by simp [row], shows.rings.distinct, ?_, ?_, ?_, ?_, ?_, ?_⟩
  · intro list ring names found here
    rw [row_get found] at here
    cases here
    exact reads_next (shows.rings.joined ring (member found))
  · intro list ring names found here
    rw [row_get found] at here
    cases here
    exact reads_prev (shows.rings.joined ring (member found))
  · rw [List.nodup_flatten, row, List.pairwise_map]
    constructor
    · intro names inside
      obtain ⟨ring, listed, rfl⟩ := List.mem_map.1 inside
      exact shows.rings.once ring listed
    · refine shows.rings.distinct.imp_of_mem fun {first second} inFirst inSecond different => ?_
      exact fun name here there => shows.rings.apart _ inFirst _ inSecond different name here there
  · intro node inside
    obtain ⟨names, listed, inside⟩ := List.mem_flatten.1 inside
    obtain ⟨ring, opened, rfl⟩ := List.mem_map.1 listed
    exact shows.rings.linked_node opened inside
  · intro node absent
    apply shows.rings.detached
    intro ring listed inside
    exact absent (List.mem_flatten.2 ⟨_, List.mem_map_of_mem listed, inside⟩)
  · intro ring listed
    exact drains listed _ shows.rings (shows.rings.length_le_linked listed)

end Shows

end Board

end SlabAllocator.Ring
