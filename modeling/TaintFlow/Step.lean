/-
Module: TaintFlow.Step
Purpose: What each instruction does to the facts in a frame.
Main exports: Step, Site.act, Site.arrayStore
-/
import TaintFlow.Call.Effect
import TaintFlow.Frame.Moves

namespace TaintFlow

/-- The fact about a constant. -/
def Literal.taint : Literal → Taint
  | .string value => .constant value
  | .int value => .constant (toString value.toInt)
  | .char value => .constant (String.singleton value)
  | .long _ | .float _ | .double _ => .safe
  | .null => .null

/-- The fact about an array after the words of a value have been stored in it: it is as dangerous as
both, and still the same array. -/
def Taint.holding (array : Taint) (words : List Taint) : Taint :=
  let value := words.foldl (fun known word => Taint.combine known (some word)) none
  let joined := value.elim array (·.join array)
  { joined with slot := array.slot, allocation := array.allocation }

/-- What an instruction leaves behind: the frame after it, and the fact about the value that it
returned from the method. -/
structure Step where
  frame : Frame
  returned : Option Taint := none

namespace Site

/-! ### Instructions that make facts -/

/-- The fact about a constant, with a remark if that is wanted. -/
def constantTaint (site : Site) (literal : Literal) : Taint :=
  site.remark (fun _ => literal.text) literal.taint

/-- Push a constant. -/
def constant (site : Site) (literal : Literal) (frame : Frame) : Frame :=
  frame.pushWords (site.constantTaint literal) literal.kind.words

/-- The fact about a new object. -/
def objectTaint (site : Site) (className : String) : Taint :=
  site.remark (fun _ => "new " ++ className)
    { Taint.safe with
      runtimeClass := some (slashed className)
      allocation := some site.offset }

/-- Push a new object. -/
def new (site : Site) (className : String) (frame : Frame) : Frame :=
  frame.push (site.objectTaint className)

/-- The fact about a new array. -/
def arrayTaint (site : Site) : Taint :=
  site.remark (fun _ => "new array") { Taint.safe with allocation := some site.offset }

/-- Replace the sizes of an array by the new array. -/
def newArray (site : Site) (dimensions : Nat) (frame : Frame) : Except Fault Frame := do
  let (_, rest) ← frame.popMany dimensions
  return rest.push site.arrayTaint

/-- The fact about a value after a cast to a safe type. -/
def castTaint (site : Site) (className : String) : Taint :=
  site.remark (fun _ => "cast to " ++ className) .safe

/-- A cast to a safe type makes a safe value, and any other cast changes nothing. -/
def checkCast (site : Site) (className : String) (frame : Frame) : Except Fault Frame :=
  if site.context.policy.isSafe (classDescriptor className) then do
    let (_, rest) ← frame.pop
    return rest.push (site.castTaint className)
  else .ok frame

/-- The fact about a value that is read from a field. -/
def fieldTaint (site : Site) (field : FieldName) : Taint :=
  let state := site.context.policy.fieldState field.signature .unknown
  let located :=
    if state = .safe then Taint.of state else (Taint.of state).addLocation site.location
  site.remark (fun _ => "field " ++ field.signature)
    (located.addSource ⟨.field, state, some field.signature⟩)

/-- Read a field. -/
def getField (site : Site) (field : FieldName) (isStatic : Bool) (frame : Frame) :
    Traced Fault Frame := do
  let taint := site.fieldTaint field
  let (_, rest) ← frame.popMany (if isStatic then 0 else 1)
  let after := rest.pushWords taint field.kind.words
  site.context.notify (.field site.method.key site.offset field after taint)
  return after

/-- Write a field. What fields hold is up to the policy, so the value is only shown to observers. -/
def putField (site : Site) (field : FieldName) (isStatic : Bool) (frame : Frame) :
    Traced Fault Frame := do
  let taint ← frame.peek 0
  let (_, rest) ← frame.popMany (field.kind.words + if isStatic then 0 else 1)
  site.context.notify (.field site.method.key site.offset field rest taint)
  return rest

/-- Load a local. What observers are told is how many words it has, not how many were there to load. -/
def load (site : Site) (index words : Nat) (frame : Frame) : Traced Fault Frame := do
  let after ← frame.loadWords index (Frame.rangeWords index words)
  site.context.notify (.load site.method.key site.offset after words)
  return after

/-- Store a value in an array. The local that the array is bound to, and a second reference to it on top
of the stack, refer to the array as it is now. -/
def arrayStore (site : Site) (kind : Kind) (frame : Frame) : Traced Fault Frame := do
  let (words, withoutValue) ← frame.popMany kind.words
  let (_, withoutIndex) ← withoutValue.pop
  let (array, rest) ← withoutIndex.pop
  let merged := array.holding words
  let written ← site.writeThrough rest merged
  match written.stack with
  | top :: below =>
      if top.SameObject array then return { written with stack := merged :: below }
      else return written
  | [] => return written

/-- Return a value. -/
def giveBack (site : Site) (kind : Kind) (frame : Frame) : Traced Fault Step := do
  let taint ← frame.peek 0
  let (_, rest) ← frame.popMany kind.words
  site.context.notify (.return site.method.key site.offset taint)
  return ⟨rest, some taint⟩

/-! ### One step -/

/-- Let an instruction act on the frame right before it. -/
def act (site : Site) (frame : Frame) : Instruction → Traced Fault Step
  | .constant literal => return ⟨site.constant literal frame, none⟩
  | .getField field isStatic => return ⟨← site.getField field isStatic frame, none⟩
  | .putField field isStatic => return ⟨← site.putField field isStatic frame, none⟩
  | .load index kind => return ⟨← site.load index kind.words frame, none⟩
  | .store index kind => return ⟨← frame.storeWords index kind.words, none⟩
  | .new className => return ⟨site.new className frame, none⟩
  | .newArray dimensions => return ⟨← site.newArray dimensions frame, none⟩
  | .arrayStore kind => return ⟨← site.arrayStore kind frame, none⟩
  | .arrayLoad kind => return ⟨← frame.arrayLoad kind.words, none⟩
  | .checkCast className => return ⟨← site.checkCast className frame, none⟩
  | .return none => return ⟨frame, none⟩
  | .return (some kind) => site.giveBack kind frame
  | .invoke call => return ⟨← site.invoke call frame, none⟩
  | .concat operands => return ⟨← frame.concatTop operands, none⟩
  | .stack shuffle => return ⟨← frame.shuffle shuffle, none⟩
  | .other consumed produced => return ⟨← frame.replaceTop consumed produced, none⟩

end Site

end TaintFlow
