import SlabAllocator.Chart

/-! Byte-addressed memory. Everything is stored through one operation, painting
a range, whose single law is `byte_paint`; words are eight bytes, least
significant first. -/
namespace SlabAllocator

/-- The contents of memory. -/
structure Memory where
  contents : Chart UInt8

namespace Memory

/-- Memory that holds zero everywhere. -/
def zeroed : Memory :=
  ⟨.whole fun _ => 0⟩

/-- The byte at an address. -/
def byte (memory : Memory) (address : Nat) : UInt8 :=
  memory.contents.look address

/-- Stores `length` bytes from `start` on; `content` gives them by position. -/
def paint (memory : Memory) (start length : Nat) (content : Nat → UInt8) : Memory :=
  ⟨memory.contents.apply ⟨start, length, content⟩⟩

/-- Stores one value in every byte of a range. -/
def fill (memory : Memory) (start length : Nat) (value : UInt8) : Memory :=
  memory.paint start length fun _ => value

/-- The bytes of a range, in order. -/
def bytes (memory : Memory) (start length : Nat) : List UInt8 :=
  (List.range length).map fun offset => memory.byte (start + offset)

/-- The number whose `count` bytes, least significant first, start here. -/
def number (memory : Memory) (address : Nat) : Nat → Nat
  | 0 => 0
  | count + 1 => (memory.byte address).toNat + 256 * memory.number (address + 1) count

/-- The byte of a number at a position, least significant first. -/
def digit (number position : Nat) : UInt8 :=
  UInt8.ofNat (number / Nat.pow 256 position % 256)

/-- The word stored at an address. -/
def word (memory : Memory) (address : Nat) : Nat :=
  memory.number address wordBytes

/-- Stores a word. -/
def setWord (memory : Memory) (address value : Nat) : Memory :=
  memory.paint address wordBytes (digit value)

theorem byte_paint (memory : Memory) (start length : Nat) (content : Nat → UInt8) (address : Nat) :
    (memory.paint start length content).byte address =
      if start ≤ address ∧ address < start + length then content (address - start)
      else memory.byte address :=
  memory.contents.look_apply ⟨start, length, content⟩ address

/-- A number depends only on the bytes it is read from. -/
theorem number_congr {first second : Memory} {count address : Nat}
    (same : ∀ offset < count, first.byte (address + offset) = second.byte (address + offset)) :
    first.number address count = second.number address count := by
  induction count generalizing address with
  | zero => rfl
  | succ count ih =>
    have head := same 0 (by omega)
    have tail : first.number (address + 1) count = second.number (address + 1) count := by
      refine ih fun offset below => ?_
      have := same (offset + 1) (by omega)
      rwa [Nat.add_assoc, Nat.add_comm 1 offset]
    simp only [number]
    rw [tail]
    simpa using congrArg (fun byte => byte.toNat + 256 * second.number (address + 1) count) head

/-- Painting elsewhere leaves a word as it was. -/
theorem word_paint_of_disjoint (memory : Memory) {start length address : Nat}
    (content : Nat → UInt8)
    (apart : address + wordBytes ≤ start ∨ start + length ≤ address) :
    (memory.paint start length content).word address = memory.word address := by
  refine number_congr fun offset below => ?_
  rw [byte_paint, if_neg]
  simp only [wordBytes] at apart below
  omega

private theorem number_digits (memory : Memory) (count : Nat) :
    ∀ address value, value < Nat.pow 256 count →
      (∀ offset < count, memory.byte (address + offset) = digit value offset) →
      memory.number address count = value := by
  induction count with
  | zero =>
    intro address value small _
    simp only [Nat.pow_eq, Nat.pow_zero] at small
    simp only [number]
    omega
  | succ count ih =>
    intro address value small stored
    have rest : memory.number (address + 1) count = value / 256 := by
      refine ih (address + 1) (value / 256) ?_ fun offset below => ?_
      · simp only [Nat.pow_eq, Nat.pow_succ] at small ⊢
        omega
      · have := stored (offset + 1) (by omega)
        rw [Nat.add_assoc, Nat.add_comm 1 offset, this]
        simp only [digit, Nat.pow_eq, Nat.pow_succ', Nat.div_div_eq_div_mul]
    have head := stored 0 (by omega)
    simp only [Nat.add_zero, digit, Nat.pow_eq, Nat.pow_zero, Nat.div_one] at head
    simp only [number, rest, head, UInt8.toNat_ofNat']
    omega

/-- A word that fits is read back as it was stored. -/
theorem word_setWord (memory : Memory) (address : Nat) {value : Nat} (fits : value < wordLimit) :
    (memory.setWord address value).word address = value := by
  refine number_digits _ wordBytes address value
    (by simpa [wordBytes, wordLimit] using fits) fun offset below => ?_
  rw [setWord, byte_paint, if_pos (by omega)]
  congr 1
  omega

/-- Storing a word elsewhere leaves a word as it was. -/
theorem word_setWord_of_disjoint (memory : Memory) {address other value : Nat}
    (apart : other + wordBytes ≤ address ∨ address + wordBytes ≤ other) :
    (memory.setWord address value).word other = memory.word other :=
  memory.word_paint_of_disjoint _ apart

end Memory

end SlabAllocator
