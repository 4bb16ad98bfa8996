import SlabAllocator.Layout
import SlabAllocator.Text
import SlabAllocator.Text.Quoted

/-! Why a request was refused. A fault names its cause; how it reads, how it is
categorised and whether the caller is to blame are functions of the cause. -/
namespace SlabAllocator

/-- The causes for which a pool refuses a request. -/
inductive Fault
  /-- The system, or a source of blocks, had no memory of this size and alignment to give. -/
  | allocationFailed (size align : Nat)
  /-- A size is too large to be the size of any region. -/
  | invalidLayout (reason : String)
  /-- The computation of a size left the machine word. -/
  | sizeOverflow (operation : String)
  /-- The sizes a pool was given do not fit together. -/
  | invalidConfig (reason : String)
  /-- A pool that has been set up was to be set up again. -/
  | alreadyInitialized (component : String)
  /-- A pool was used before it was set up. -/
  | notInitialized (component : String)
  /-- The address is not one the pool has handed out. -/
  | foreignPointer (address : Nat)
  /-- The address was given back to a slab that has none of it outstanding. -/
  | doubleFree (address : Nat)
  /-- Bookkeeping was found damaged. -/
  | corruption (component details : String)
  deriving DecidableEq, Repr

namespace Fault

/-- What the system could not give. -/
def ofLayout (layout : Layout) : Fault :=
  .allocationFailed layout.size layout.align

/-- The sentence a fault reads as, with addresses written by `place`. -/
def message (place : Nat → String) : Fault → String
  | .allocationFailed size align =>
    "Memory allocation failed: " ++ toString size ++ " bytes with " ++
      toString align ++ " byte alignment"
  | .invalidLayout reason => "Invalid memory layout: " ++ reason
  | .sizeOverflow operation => "Size overflow during operation: " ++ operation
  | .invalidConfig reason => "Invalid configuration: " ++ reason
  | .alreadyInitialized component => component ++ " is already initialized"
  | .notInitialized component => component ++ " is not initialized"
  | .foreignPointer address => "Pointer " ++ place address ++ " was not allocated by this pool"
  | .doubleFree address =>
    "Pointer " ++ place address ++ " released to a slab with no live elements"
  | .corruption component details =>
    "Memory corruption detected in " ++ component ++ ": " ++ details

/-- The name of the cause. -/
def kind : Fault → String
  | .allocationFailed .. => "AllocationFailed"
  | .invalidLayout .. => "InvalidLayout"
  | .sizeOverflow .. => "SizeOverflow"
  | .invalidConfig .. => "InvalidConfig"
  | .alreadyInitialized .. => "AlreadyInitialized"
  | .notInitialized .. => "NotInitialized"
  | .foreignPointer .. => "ForeignPointer"
  | .doubleFree .. => "DoubleFree"
  | .corruption .. => "Corruption"

/-- The code under which faults are counted: the area, then the cause. -/
def code : Fault → String
  | .allocationFailed .. => "MEM:ALLOC:FAILED"
  | .invalidLayout .. => "MEM:ALLOC:LAYOUT"
  | .sizeOverflow .. => "MEM:ALLOC:OVERFLOW"
  | .invalidConfig .. => "MEM:CONFIG:INVALID"
  | .alreadyInitialized .. => "MEM:CONFIG:REINIT"
  | .notInitialized .. => "MEM:CONFIG:UNINIT"
  | .foreignPointer .. => "MEM:CONTRACT:FOREIGN"
  | .doubleFree .. => "MEM:CONTRACT:DOUBLE_FREE"
  | .corruption .. => "MEM:SYSTEM:CORRUPTION"

/-- A fault written as a record, with the cause for its name. -/
def describe (fault : Fault) : String :=
  Text.record fault.kind (match fault with
    | .allocationFailed size align =>
      [Text.field "size" (toString size), Text.field "align" (toString align)]
    | .invalidLayout reason => [Text.field "reason" (Text.quoted reason)]
    | .sizeOverflow operation => [Text.field "operation" (Text.quoted operation)]
    | .invalidConfig reason => [Text.field "reason" (Text.quoted reason)]
    | .alreadyInitialized component => [Text.field "component" (Text.quoted component)]
    | .notInitialized component => [Text.field "component" (Text.quoted component)]
    | .foreignPointer address => [Text.field "address" (toString address)]
    | .doubleFree address => [Text.field "address" (toString address)]
    | .corruption component details =>
      [Text.field "component" (Text.quoted component), Text.field "details" (Text.quoted details)])

/-- The caller broke the rules, or memory was damaged; neither more memory nor
another configuration would help. -/
def isContractViolation : Fault → Bool
  | .foreignPointer .. => true
  | .doubleFree .. => true
  | .corruption .. => true
  | _ => false

/-- There was no memory left to give. -/
def isOutOfMemory : Fault → Bool
  | .allocationFailed .. => true
  | _ => false

end Fault

end SlabAllocator
