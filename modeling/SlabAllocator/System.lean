import SlabAllocator.Fault

/-! The system that pools get their memory from. Which requests it grants, and
where, is a policy that may be exchanged at any time; the regions it has granted
and not taken back are on record. -/
namespace SlabAllocator

/-- A range of memory. -/
structure Region where
  start : Nat
  size : Nat
  deriving DecidableEq, Repr

namespace Region

/-- One past the last byte of a region. -/
def finish (region : Region) : Nat :=
  region.start + region.size

/-- Whether an address lies in a region. -/
def contains (region : Region) (address : Nat) : Bool :=
  region.start ≤ address && address < region.finish

/-- The sum of the sizes of some regions. -/
def total (regions : List Region) : Nat :=
  regions.foldr (fun region sum => region.size + sum) 0

/-- How far regions that are laid out one after the other lie apart. -/
def spacing : Nat := .pow 2 44

/-- The page boundary that leaves room behind the newest of some regions, or
`origin` if there are none. -/
def following (origin : Nat) : List Region → Nat
  | [] => origin
  | newest :: _ => (newest.finish + (pageSize - 1)) / pageSize * pageSize + spacing

end Region

/-- Decides a request from the regions granted so far and those still held, both
newest first: where the new region starts, or that there is none. -/
abbrev Policy := (granted held : List Region) → Layout → Option Nat

/-- Grants a request exactly if what is held afterwards stays within a number of
bytes, each time at an address never used before. -/
def Policy.budgeted (bytes : Nat) : Policy :=
  fun granted held layout =>
    if Region.total held + layout.size ≤ bytes then
      some (Region.following Region.spacing granted)
    else none

/-- The system: its policy and the regions it has granted. -/
structure System where
  policy : Policy
  /-- Every region ever granted, newest first. -/
  granted : List Region
  /-- The regions not yet taken back, newest first. -/
  held : List Region
  /-- Every region that ever came back, newest first, whether it was held or not. -/
  released : List Region

namespace System

/-- A system that has granted nothing. -/
def start (policy : Policy) : System :=
  ⟨policy, [], [], []⟩

/-- Asks for memory. -/
def request (system : System) (layout : Layout) : Except Fault (Nat × System) :=
  match system.policy system.granted system.held layout with
  | none => .error (.ofLayout layout)
  | some start =>
    let region : Region := ⟨start, layout.size⟩
    .ok (start, { system with granted := region :: system.granted, held := region :: system.held })

/-- Takes memory back. -/
def release (system : System) (region : Region) : System :=
  { system with held := system.held.erase region, released := region :: system.released }

/-- Bytes granted and not taken back. -/
def outstanding (system : System) : Nat :=
  Region.total system.held

end System

end SlabAllocator
