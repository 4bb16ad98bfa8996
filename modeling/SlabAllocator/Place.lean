import SlabAllocator.Text
import SlabAllocator.Word

/-! Named regions of memory, and addresses written by the region they belong to. -/
namespace SlabAllocator

/-- A region with a name. -/
structure Place where
  name : String
  start : Nat
  size : Nat
  deriving DecidableEq, Repr

/-- An address moved by a signed distance, on words that wrap. -/
def displaced (address : Nat) (distance : Int) : Nat :=
  ((Int.ofNat address + distance) % Int.ofNat wordLimit).toNat

/-- The address with a given number that belongs to no region. Regions lie among
the machine's addresses, and these addresses come after all of them. -/
def foreignAddress (number : Nat) : Nat :=
  wordLimit + number

namespace Place

/-- How far outside a region an address may lie and still be written by it.
Places lie at least twice as far apart. -/
def margin : Nat := .pow 2 43

/-- Whether an address belongs to a place or lies a little outside it. -/
def covers (place : Place) (address : Nat) : Bool :=
  place.start ≤ address + margin && address < place.start + place.size + margin

/-- An address as its distance from the start of a place. -/
def write (place : Place) (address : Nat) : String :=
  if place.start ≤ address then place.name ++ "+" ++ toString (address - place.start)
  else place.name ++ "-" ++ toString (place.start - address)

/-- An address written by its place; one that belongs to none is written in
hexadecimal, by its number. -/
def locate (places : List Place) (address : Nat) : String :=
  match places.find? fun place => place.covers address with
  | some place => place.write address
  | none => "0x" ++ Text.hex (address % wordLimit)

end Place

end SlabAllocator
