import SlabAllocator.Text.CodeRange

/-! Characters that are not shown unless there is a special reason to, as of
Unicode 17.0: fillers, joiners, marks of direction and selectors of variants. -/
namespace SlabAllocator.Text

/-- The code points with the property Default_Ignorable_Code_Point. -/
def defaultIgnorable : List CodeRange :=
  [⟨0xAD, 0xAD⟩, ⟨0x34F, 0x34F⟩, ⟨0x61C, 0x61C⟩, ⟨0x115F, 0x1160⟩, ⟨0x17B4, 0x17B5⟩,
   ⟨0x180B, 0x180F⟩, ⟨0x200B, 0x200F⟩, ⟨0x202A, 0x202E⟩, ⟨0x2060, 0x206F⟩, ⟨0x3164, 0x3164⟩,
   ⟨0xFE00, 0xFE0F⟩, ⟨0xFEFF, 0xFEFF⟩, ⟨0xFFA0, 0xFFA0⟩, ⟨0xFFF0, 0xFFF8⟩, ⟨0x1BCA0, 0x1BCA3⟩,
   ⟨0x1D173, 0x1D17A⟩, ⟨0xE0000, 0xE0FFF⟩]

theorem ascending_defaultIgnorable : CodeRange.ascending defaultIgnorable = true := by
  decide +kernel

theorem total_defaultIgnorable : CodeRange.total defaultIgnorable = 4174 := by
  decide +kernel

/-- Whether a character has the property Default_Ignorable_Code_Point. -/
def isIgnorable (char : Char) : Bool :=
  CodeRange.hold defaultIgnorable char.toNat

end SlabAllocator.Text
