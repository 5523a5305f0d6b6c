/-
Module: TaintFlow.Program.Body
Purpose: The code of a method as a graph: instructions at offsets, and where control goes from each.
Main exports: Body, Body.ofList, Body.insert, Body.instruction?, Body.successors
-/
import Std.Data.ExtTreeMap
import TaintFlow.Instruction.Basic
import TaintFlow.Taint.Origin

namespace TaintFlow

/-- An instruction with the offsets that control may reach directly after it. -/
structure Node where
  instruction : Instruction
  successors : List Offset
deriving Repr, Inhabited, DecidableEq

/-- The code of a method. -/
structure Body where
  entry : Offset
  nodes : Std.ExtTreeMap Offset Node := ∅
deriving DecidableEq

namespace Body

/-- Put an instruction at an offset, in place of what was there. -/
def insert (body : Body) (offset : Offset) (instruction : Instruction)
    (successors : List Offset) : Body :=
  { body with nodes := body.nodes.insert offset ⟨instruction, successors⟩ }

/-- Replace the successors of an offset; an offset without an instruction has none. -/
def setSuccessors (body : Body) (source : Offset) (successors : List Offset) : Body :=
  match body.nodes[source]? with
  | some node => body.insert source node.instruction successors
  | none => body

/-- Let control go from one offset to another one as well. -/
def addEdge (body : Body) (source target : Offset) : Body :=
  match body.nodes[source]? with
  | some node =>
      if target ∈ node.successors then body
      else body.insert source node.instruction (node.successors ++ [target])
  | none => body

/-- Where control goes in code without jumps: on to the next offset, unless the instruction is the last
one or ends the method. -/
def fallThrough (offset : Offset) : Instruction → List Instruction → List Offset
  | .return _, _ | _, [] => []
  | _, _ :: _ => [offset + 1]

/-- Put instructions one after the other, beginning at an offset. -/
def layOut (body : Body) (offset : Offset) : List Instruction → Body
  | [] => body
  | instruction :: later =>
      (body.insert offset instruction (fallThrough offset instruction later)).layOut
        (offset + 1) later

/-- Code without jumps, from offset zero. -/
def ofList (instructions : List Instruction) : Body :=
  layOut ⟨0, ∅⟩ 0 instructions

def instruction? (body : Body) (offset : Offset) : Option Instruction :=
  body.nodes[offset]?.map Node.instruction

/-- The offsets that control may reach directly after an offset. -/
def successors (body : Body) (offset : Offset) : List Offset :=
  match body.nodes[offset]? with
  | some node => node.successors
  | none => []

theorem instruction?_insert (body : Body) (offset other : Offset) (instruction : Instruction)
    (successors : List Offset) :
    (body.insert offset instruction successors).instruction? other =
      if offset = other then some instruction else body.instruction? other := by
  simp only [instruction?, insert, Std.ExtTreeMap.getElem?_insert, Nat.compare_eq_eq]
  split <;> rfl

theorem successors_insert (body : Body) (offset other : Offset) (instruction : Instruction)
    (successors : List Offset) :
    (body.insert offset instruction successors).successors other =
      if offset = other then successors else body.successors other := by
  by_cases same : offset = other
  · simp [Body.successors, insert, same]
  · simp [Body.successors, insert, Std.ExtTreeMap.getElem?_insert, same]

/-- All offsets with an instruction, in ascending order. -/
def offsets (body : Body) : List Offset :=
  body.nodes.keys

/-- The number of instructions. -/
def size (body : Body) : Nat :=
  body.nodes.size

/-- Are two bodies the same program? -/
def sameMeaning (one two : Body) : Bool :=
  one.entry = two.entry && one.offsets = two.offsets &&
    (one.nodes.values.zip two.nodes.values).all fun (left, right) =>
      left.instruction.sameMeaning right.instruction && left.successors = right.successors

end Body

end TaintFlow
