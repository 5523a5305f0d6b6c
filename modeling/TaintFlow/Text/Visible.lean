/-
Module: TaintFlow.Text.Visible
Purpose: Tell apart the characters that can be shown as they are from those that leave no mark of
  their own on a page.
Main exports: Text.isVisible
-/
import TaintFlow.Text.Blank
import TaintFlow.Text.Extending
import TaintFlow.Text.Ignorable

namespace TaintFlow.Text

/-- The characters of ASCII that are neither controls nor DEL. -/
def isPrintableAscii (char : Char) : Bool :=
  0x20 ≤ char.toNat && char.toNat ≤ 0x7e

/-- Characters that can be written as they are: those that stand for a sign, do not merge with the
character before them and are never left out. ASCII is answered before the tables are searched. -/
def isVisible (char : Char) : Bool :=
  isPrintableAscii char || !(isBlank char || isExtendingMark char || isIgnorable char)

/- The tables hold no printable character of ASCII, so answering those first changes nothing. -/
example :
    (blankRanges ++ extendingRanges ++ ignorableRanges).all
      (fun range => range.last < 0x20 || 0x7e < range.first) = true := by
  decide +kernel

end TaintFlow.Text
