/-! The highest value a gauge has shown. -/
namespace SlabAllocator

/-- The peak after one more observation. -/
def raisePeak (peak observed : Nat) : Nat :=
  max peak observed

/-- The peak after each of a series of observations. -/
def peaks (peak : Nat) : List Nat → List Nat
  | [] => []
  | observed :: rest =>
    let raised := raisePeak peak observed
    raised :: peaks raised rest

end SlabAllocator
