/-
Module: TaintFlow.Fault
Purpose: What can be wrong with the code under analysis, and how it is reported.
Main exports: Fault, Fault.message, Fault.isBreakdown, DescriptorFlaw
-/
import TaintFlow.Taint.Origin
import TaintFlow.Text.Quoted
import TaintFlow.Text.Term

namespace TaintFlow

/-- Why a text is no method descriptor. -/
inductive DescriptorFlaw where
  | noOpeningParenthesis
  | noClosingParenthesis
  | parameterType
  | returnType
deriving Repr, Inhabited, DecidableEq

def DescriptorFlaw.message : DescriptorFlaw → String
  | noOpeningParenthesis => "expected '('"
  | noClosingParenthesis => "expected ')'"
  | parameterType => "bad parameter type"
  | returnType => "bad return type"

/-- A reason why code cannot be analysed. -/
inductive Fault where
  /-- More words are needed than the operand stack holds. -/
  | stackUnderflow (needed depth : Nat)
  /-- A local is named that the frame does not have. -/
  | invalidSlot (slot count : Nat)
  /-- A local holds a value that is bound to some other local, or to none. -/
  | aliasMismatch (slot : Nat) (bound : Option Nat)
  /-- Two ways to one point leave operand stacks of different depth. -/
  | stackDepthMismatch (left right : Nat)
  /-- Two ways to one point leave frames with different numbers of locals. -/
  | localCountMismatch (left right : Nat)
  | invalidDescriptor (descriptor : String) (flaw : DescriptorFlaw)
  /-- Control reaches an offset without an instruction. -/
  | unknownLocation (offset : Offset)
  /-- A location was visited more often than allowed. -/
  | nonConvergent (offset : Offset) (visits : Nat)
  /-- The analysis itself breaks down over a stack index that no machine word follows. That is no report
  about the code: nothing comes back from the analysis at all. -/
  | breakdown (depth : Nat)
deriving Repr, Inhabited, DecidableEq

def Fault.message : Fault → String
  | stackUnderflow needed depth =>
      s!"stack underflow: needed {needed} value(s), stack depth is {depth}"
  | invalidSlot slot count => s!"local {slot} is out of range: frame has {count} local(s)"
  | aliasMismatch slot bound =>
      let shown := Text.optional toString bound
      s!"local {slot} holds a value bound to local {shown}"
  | stackDepthMismatch left right =>
      s!"frames disagree on stack depth at a join: {left} vs. {right}"
  | localCountMismatch left right =>
      s!"frames disagree on local count at a join: {left} vs. {right}"
  | invalidDescriptor descriptor flaw =>
      "malformed method descriptor " ++ Text.quoted descriptor ++ ": " ++ flaw.message
  | unknownLocation offset => s!"no instruction at offset {offset}"
  | nonConvergent offset visits => s!"location {offset} did not converge after {visits} visits"
  | breakdown depth => s!"index out of bounds: the len is {depth} but the index is {depth}"

/-- Is it the analysis itself that broke down? -/
def Fault.isBreakdown : Fault → Bool
  | breakdown _ => true
  | _ => false

end TaintFlow
