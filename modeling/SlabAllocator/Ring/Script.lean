import SlabAllocator.Ring

/-! Scripts of ring operations. A board holds a row of lists, each the handle of
a ring, over one family of nodes; handles can change places without the rings
noticing. -/
namespace SlabAllocator.Ring

/-- A row of lists over one family of nodes. -/
structure Board where
  /-- The links of all nodes and anchors. -/
  rings : Rings Links
  /-- The ring each list of the row stands for. -/
  lists : List Nat
  /-- Rings started so far; the next one gets this number. -/
  opened : Nat

/-- One operation on a board. -/
inductive Operation
  | pushFront (list node : Nat)
  | pushBack (list node : Nat)
  | unlink (node : Nat)
  /-- Exchanges two lists of the row. -/
  | swap (first second : Nat)
  /-- Ends a list and puts a new one in its place. -/
  | drop (list : Nat)
  | front (list : Nat)
  | back (list : Nat)
  | length (list : Nat)
  | isEmpty (list : Nat)
  /-- The first few nodes of a list. -/
  | take (list count : Nat)
  | isLinked (node : Nat)
  | describe (list : Nat)
  deriving DecidableEq, Repr

/-- What an operation answers. -/
inductive Answer
  /-- The board was changed. -/
  | changed
  /-- The operation relies on a condition that does not hold; nothing was changed. -/
  | broken (condition : Assertion)
  | node (name : Option Nat)
  | count (number : Nat)
  | flag (value : Bool)
  | nodes (names : List Nat)
  | text (value : String)
  /-- The row has no list at this position. -/
  | absent
  deriving DecidableEq, Repr

namespace Board

/-- A row of empty lists. -/
def start : Nat → Board
  | 0 => ⟨Rings.empty, [], 0⟩
  | count + 1 =>
    let board := start count
    ⟨board.rings.openRing count, board.lists ++ [count], count + 1⟩

/-- The nodes of every list of the row. -/
def contents (board : Board) : List (List Nat) :=
  board.lists.map board.rings.toList

/-- The board after a change of links, or as it was if a condition was broken. -/
def settle (board : Board) : Except Assertion (Rings Links) → Board × Answer
  | .ok rings => ({ board with rings := rings }, .changed)
  | .error condition => (board, .broken condition)

/-- Answers a question about the ring of one list. -/
def ask (board : Board) (list : Nat) (question : Nat → Answer) : Board × Answer :=
  match board.lists[list]? with
  | none => (board, .absent)
  | some ring => (board, question ring)

/-- Performs one operation. -/
def step (board : Board) : Operation → Board × Answer
  | .pushFront list node =>
    match board.lists[list]? with
    | none => (board, .absent)
    | some ring => board.settle (board.rings.pushFront? ring node)
  | .pushBack list node =>
    match board.lists[list]? with
    | none => (board, .absent)
    | some ring => board.settle (board.rings.pushBack? ring node)
  | .unlink node => board.settle (board.rings.unlink? node)
  | .swap first second =>
    match board.lists[first]?, board.lists[second]? with
    | some left, some right =>
      ({ board with lists := (board.lists.set first right).set second left }, .changed)
    | _, _ => (board, .absent)
  | .drop list =>
    match board.lists[list]? with
    | none => (board, .absent)
    | some ring =>
      (⟨(board.rings.closeRing ring).openRing board.opened, board.lists.set list board.opened,
        board.opened + 1⟩, .changed)
  | .front list => board.ask list fun ring => .node (board.rings.front ring)
  | .back list => board.ask list fun ring => .node (board.rings.back ring)
  | .length list => board.ask list fun ring => .count (board.rings.length ring)
  | .isEmpty list => board.ask list fun ring => .flag (board.rings.isEmpty ring)
  | .take list count => board.ask list fun ring => .nodes (board.rings.take ring count)
  | .isLinked node => (board, .flag (board.rings.isLinked node))
  | .describe list => board.ask list fun ring => .text (board.rings.describe ring)

/-- Ends every list of the row, first to last. -/
def close (board : Board) : Rings Links :=
  board.lists.foldl Rings.closeRing board.rings

end Board

/-- One answer of a script, with the contents of all lists after a change. -/
structure Outcome where
  answer : Answer
  contents : Option (List (List Nat))
  deriving DecidableEq, Repr

/-- Runs a script: the outcome of each operation and the board at the end. -/
def run (board : Board) : List Operation → List Outcome × Board
  | [] => ([], board)
  | operation :: rest =>
    let (after, answer) := board.step operation
    let shown := if answer = .changed then some after.contents else none
    let (outcomes, last) := run after rest
    (⟨answer, shown⟩ :: outcomes, last)

/-- How many of the first `nodes` nodes are on a ring. -/
def linkedCount (rings : Rings Links) (nodes : Nat) : Nat :=
  (List.range nodes).countP rings.isLinked

end SlabAllocator.Ring
