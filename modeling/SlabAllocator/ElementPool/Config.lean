import SlabAllocator.Text

/-! Which counters an element pool keeps and which bytes it fills elements with. -/
namespace SlabAllocator.ElementPool

/-- The options of an element pool. -/
structure Config where
  /-- Whether the pool counts its operations and remembers its peak. -/
  trackStats : Bool
  /-- The byte a fresh element is filled with. -/
  allocPattern : Option UInt8
  /-- The byte a released element is filled with. -/
  deallocPattern : Option UInt8
  deriving DecidableEq, Repr

namespace Config

/-- For finding misuse: everything is counted, fresh and released elements are
filled with bytes that stand out. -/
def debug : Config := ⟨true, some 0xBB, some 0xDD⟩

/-- Counters without fills. -/
def production : Config := ⟨true, none, none⟩

/-- Neither counters nor fills. -/
def performance : Config := ⟨false, none, none⟩

/-- What a pool uses that was given no options. -/
def standard : Config := debug

/-- The ready-made options by name. -/
def presets : List (String × Config) :=
  [("default", standard), ("production", production),
    ("debug", debug), ("performance", performance)]

/-- The ready-made options of this name. -/
def preset? (name : String) : Option Config :=
  (presets.find? fun entry => entry.1 == name).map Prod.snd

/-- The names of the ready-made options that equal these. -/
def presetNames (config : Config) : List String :=
  (presets.filter fun entry => entry.2 == config).map Prod.fst

/-- The options as a record. -/
def describe (config : Config) : String :=
  Text.record "PoolConfig" [
    Text.field "track_stats" (Text.flag config.trackStats),
    Text.field "alloc_pattern" (Text.optional (config.allocPattern.map UInt8.toNat)),
    Text.field "dealloc_pattern" (Text.optional (config.deallocPattern.map UInt8.toNat))]

end Config

end SlabAllocator.ElementPool
