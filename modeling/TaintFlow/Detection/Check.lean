/-
Module: TaintFlow.Detection.Check
Purpose: Checks that look at the calls of a method once its facts are known, and what they report.
Main exports: CallPoint, Finding, Check, SinkRule, SinkRule.check
-/
import TaintFlow.Analysis

namespace TaintFlow

/-- A call with the facts right before it. -/
structure CallPoint where
  method : Method
  offset : Offset
  call : Call
  frame : Frame

/-- The argument the given number of words below the top of the stack. The largest index of all is not asked
for. -/
def CallPoint.argument? (point : CallPoint) (index : Nat) : Option Taint :=
  point.frame.stack[index]?

/-- Something that a check wants to have reported. The method is given by its key. -/
structure Finding where
  check : String
  method : String
  offset : Offset
  message : String
  /-- The value that gave offence, if it was a single one. -/
  taint : Option Taint
deriving DecidableEq

/-- A check of all the calls that control can reach. -/
structure Check where
  name : String
  /-- Are the methods of this class to be looked at? -/
  covers : String → Bool := fun _ => true
  inspect : CallPoint → List Finding

/-- The calls of a body that control can reach, in the order of their offsets. -/
def Analysis.callPoints (analysis : Analysis) (body : Body) : List CallPoint :=
  analysis.frames.toList.filterMap fun (offset, frame) =>
    ((body.instruction? offset).bind Instruction.call?).map fun call =>
      ⟨analysis.method, offset, call, frame⟩

/-- What a check finds in an analysed body. -/
def Check.findings (check : Check) (body : Body) (analysis : Analysis) : List Finding :=
  (analysis.callPoints body).flatMap check.inspect

/-! ### Arguments that reach a sink -/

/-- A check of one argument of the calls of some methods. -/
structure SinkRule where
  name : String
  /-- The signatures of the methods whose calls are looked at; all calls are if there are none. -/
  sinks : List String := []
  /-- The stack index of the argument. -/
  argument : Nat := 0
  /-- The states that give offence. -/
  states : List State := []
  /-- Does an argument give offence that is not there? -/
  absent : Bool := false
  /-- How the names of classes begin that are not looked at. -/
  skipped : List String := []

namespace SinkRule

/-- Is the call one of those that are looked at? -/
def watches (rule : SinkRule) (call : Call) : Bool :=
  rule.sinks.isEmpty || call.signature ∈ rule.sinks

/-- Does the argument give offence? -/
def offends (rule : SinkRule) : Option Taint → Bool
  | some taint => taint.state ∈ rule.states
  | none => rule.absent

def inspect (rule : SinkRule) (point : CallPoint) : List Finding :=
  let argument := point.argument? rule.argument
  if rule.watches point.call && rule.offends argument then
    let callee := point.call.signature
    let shown := point.frame.text
    let caller := point.method.name
    [{ check := rule.name
       method := point.method.key
       offset := point.offset
       message := s!"{caller} calls {callee} with {shown}"
       taint := argument }]
  else []

/-- The check that a rule describes. -/
def check (rule : SinkRule) : Check where
  name := rule.name
  covers className := !rule.skipped.any fun start => start.toList <+: className.toList
  inspect := rule.inspect

end SinkRule

end TaintFlow
