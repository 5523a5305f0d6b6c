/-
Module: TaintFlow.Failure
Purpose: Why the analysis of a method was given up, and where.
Main exports: Failure, Failure.message, Failure.fault, MissingType
-/
import TaintFlow.Fault
import TaintFlow.Instruction.Text

namespace TaintFlow

/-- A fault with the place where it was found. The method is given by its key. -/
inductive Failure where
  | atInstruction (method : String) (offset : Offset) (instruction : Instruction) (fault : Fault)
  | inMethod (method : String) (fault : Fault)
deriving Repr, Inhabited, DecidableEq

def Failure.fault : Failure → Fault
  | atInstruction _ _ _ fault | inMethod _ fault => fault

def Failure.message : Failure → String
  | atInstruction method offset instruction fault =>
      let shown := instruction.text
      let reason := fault.message
      s!"in method {method}, while processing instruction at {offset} ({shown}): {reason}"
  | inMethod method fault =>
      let reason := fault.message
      s!"in method {method}: {reason}"

/-- A question about the supertypes of a class of which nothing is known. -/
structure MissingType where
  className : String
deriving Repr, Inhabited, DecidableEq

def MissingType.message (missing : MissingType) : String :=
  "missing type information for class " ++ missing.className

end TaintFlow
