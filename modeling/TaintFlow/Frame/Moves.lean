/-
Module: TaintFlow.Frame.Moves
Purpose: Instructions that act on a frame alone: they rearrange, copy and combine the facts in it,
  whatever the method and the policy are.
Main exports: Frame.shuffle, Frame.storeWords, Frame.loadWords, Frame.arrayLoad, Frame.concatTop
-/
import TaintFlow.Frame.Basic
import TaintFlow.Instruction.Basic

namespace TaintFlow.Frame

/-- Rearrange the top of the stack. -/
def shuffle (frame : Frame) : Shuffle → Except Fault Frame
  | .pop => do
      let (_, rest) ← frame.pop
      return rest
  | .pop2 => do
      let (_, rest) ← frame.popMany 2
      return rest
  | .dup => do
      let top ← frame.peek 0
      return frame.push top
  | .dupX1 => do
      let (top, withoutTop) ← frame.pop
      let (below, rest) ← withoutTop.pop
      return ((rest.push top).push below).push top
  | .dup2 => do
      let top ← frame.peek 0
      let below ← frame.peek 1
      return (frame.push below).push top
  | .swap => do
      let (top, withoutTop) ← frame.pop
      let (below, rest) ← withoutTop.pop
      return (rest.push top).push below

/-- Pop the words of a value into locals: the top one into the local at `index`, the next one into the
local after it. Each becomes bound to its local. -/
def storeWords (frame : Frame) (index : Nat) : Nat → Except Fault Frame
  | 0 => .ok frame
  | words + 1 => do
      let (taint, rest) ← frame.pop
      let stored ← rest.setLocal index { taint with slot := some index }
      stored.storeWords (index + 1) words

/-- The fact about a local, which must be bound to itself. -/
def getBound (frame : Frame) (slot : Nat) : Except Fault Taint := do
  let taint ← frame.getLocal slot
  if taint.slot = some slot then return taint
  else throw (.aliasMismatch slot taint.slot)

/-- How many words there are to load from the local at `index` and those after it. If the index after the
last of them is no machine word, it wraps around, and the range that it ends is empty. -/
def rangeWords (index words : Nat) : Nat :=
  if index + words ≤ maxIndex then words else 0

/-- Push the words of a value from locals, the local at `index` last. -/
def loadWords (frame : Frame) (index : Nat) : Nat → Except Fault Frame
  | 0 => .ok frame
  | words + 1 => do
      let taint ← frame.getBound (index + words)
      (frame.push taint).loadWords index words

/-- Take an element out of an array. It is as dangerous as the array; of which class it is, and where it
was created, is not known. -/
def arrayLoad (frame : Frame) (words : Nat) : Except Fault Frame := do
  let (_, withoutIndex) ← frame.pop
  let (array, rest) ← withoutIndex.pop
  return rest.pushWords { array with runtimeClass := none, allocation := none } words

/-- The fact about texts that are put one after the other. -/
def concatAll : List Taint → Taint
  | [] => .constant ""
  | first :: later => later.foldl Taint.concat first

/-- Replace the given number of words by the text that they make, the top one being its end. The text
is a new object. -/
def concatTop (frame : Frame) (operands : Nat) : Except Fault Frame := do
  let (words, rest) ← frame.popMany operands
  return rest.push
    { concatAll words.reverse with slot := none, runtimeClass := none, allocation := none }

/-- Replace the topmost words by words of which nothing is known. -/
def replaceTop (frame : Frame) (consumed produced : Nat) : Except Fault Frame := do
  let (_, rest) ← frame.popMany consumed
  return rest.pushWords .unknown produced

end TaintFlow.Frame
