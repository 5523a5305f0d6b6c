/-
Module: TaintFlow.Text.Ignorable
Purpose: The characters that a page leaves out where it cannot do what they ask for, such as joiners,
  fillers and variation selectors.
Main exports: Text.isIgnorable
-/
import TaintFlow.Text.CodeRange

namespace TaintFlow.Text

/-- The property Default_Ignorable_Code_Point. -/
def ignorableRanges : List CodeRange :=
  [⟨0xad, 0xad⟩, ⟨0x34f, 0x34f⟩, ⟨0x61c, 0x61c⟩, ⟨0x115f, 0x1160⟩, ⟨0x17b4, 0x17b5⟩,
   ⟨0x180b, 0x180f⟩, ⟨0x200b, 0x200f⟩, ⟨0x202a, 0x202e⟩, ⟨0x2060, 0x206f⟩, ⟨0x3164, 0x3164⟩,
   ⟨0xfe00, 0xfe0f⟩, ⟨0xfeff, 0xfeff⟩, ⟨0xffa0, 0xffa0⟩, ⟨0xfff0, 0xfff8⟩, ⟨0x1bca0, 0x1bca3⟩,
   ⟨0x1d173, 0x1d17a⟩, ⟨0xe0000, 0xe0fff⟩]

/-- Does the character have the property Default_Ignorable_Code_Point? -/
def isIgnorable (char : Char) : Bool :=
  ignorableRanges.any (·.holds char.toNat)

example : CodeRange.ascending ignorableRanges = true := by decide +kernel

example : CodeRange.total ignorableRanges = 4174 := by decide +kernel

example : isIgnorable '\u115f' = true ∧ isIgnorable '\u1100' = false := by decide +kernel

end TaintFlow.Text
