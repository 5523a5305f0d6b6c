/-
Module: TaintFlow.Analysis
Purpose: Analyse one method: from the facts that hold when it is called, through its body, to the
  summary that its callers can use.
Main exports: calledFrame, entryFrame, Analysis, Task.summarize, Task.conclude, Task.run
-/
import TaintFlow.Fixpoint.Solver

namespace TaintFlow

/-! ### The facts that hold on entry -/

/-- The fact about an argument that a method is called with, named by what it is called in the
method. It is as dangerous as what lies at its stack index at the call. -/
def argumentTaint (method : Method) (name : String) (index : Nat) : Taint :=
  (Taint.parametric [index]).addSource
    ⟨.parameter, .unknown, some (method.key ++ "#" ++ name)⟩

/-- The facts about the words of the parameters, from the given one on. What is known of an argument is
told from its name in the method and its stack index at the call. -/
def parameterTaints (policy : Policy) (argument : String → Nat → Taint) (number : Nat) :
    List (Nat × String) → List Taint
  | [] => []
  | (index, type) :: later =>
      List.replicate (Kind.ofDescriptor type).words
          (if policy.isSafe type then .safe else argument (toString number) index)
        ++ parameterTaints policy argument (number + 1) later

/-- The facts about the words that a method is called with, the receiver first. -/
def entryTaints (policy : Policy) (method : Method) (signature : Signature)
    (argument : String → Nat → Taint) : List Taint :=
  (if method.isStatic then [] else [argument "this" signature.parameterWords])
    ++ parameterTaints policy argument 0 signature.stackIndices

/-- Put facts into locals, one after the other, and bind each to its local. -/
def Frame.bindLocals (frame : Frame) (slot : Nat) : List Taint → Except Fault Frame
  | [] => .ok frame
  | taint :: later => do
      let bound ← frame.setLocal slot { taint with slot := some slot }
      bound.bindLocals (slot + 1) later

/-- The facts that hold when a method is called with arguments of which something is known: its first
locals hold what it is called with, and nothing is known about the others. -/
def calledFrame (policy : Policy) (method : Method) (signature : Signature)
    (argument : String → Nat → Taint) : Except Fault Frame :=
  (Frame.fresh method.maxLocals).bindLocals 0 (entryTaints policy method signature argument)

/-- The facts that hold when a method is called, whatever it is called with. -/
def entryFrame (policy : Policy) (method : Method) (signature : Signature) : Except Fault Frame :=
  calledFrame policy method signature (argumentTaint method)

/-! ### What callers can use -/

/-- The class that a type descriptor names. -/
def classOf? (type : String) : Option String :=
  match type.toList with
  | 'L' :: name => if name.getLast? = some ';' then some (String.ofList name.dropLast) else none
  | _ => none

/-- The summary of a method that returns the given fact. What identifies an object inside the method
means nothing outside of it, and a class that the signature promises anyway is not worth telling. -/
def derivedSummary (signature : Signature) (output : Taint) : Summary :=
  .derived
    { output with
      runtimeClass :=
        if output.runtimeClass = classOf? signature.returnType then none
        else output.runtimeClass
      slot := none
      allocation := none }

/-- Can callers learn anything from the fact about the result? They know of a safe type that it carries
no taint, but not that it is null. -/
def worthTelling (policy : Policy) (signature : Signature) (output : Taint) : Bool :=
  !signature.returnsVoid && (!policy.isSafe signature.returnType || output.state = .null)

/-- What came out of the analysis of a method. -/
structure Analysis where
  method : Method
  /-- The facts right before each location that control can reach. -/
  frames : Std.ExtTreeMap Offset Frame
  /-- The fact about everything that the method returns. -/
  output : Option Taint
  visits : Std.ExtTreeMap Offset Nat
  /-- What became of the summary, if there was one. -/
  commit : Option Commit

/-- How often a location was visited. -/
def Analysis.visitCount (analysis : Analysis) (offset : Offset) : Nat :=
  analysis.visits.getD offset 0

namespace Task

/-- Is there a summary of the same method in a supertype, which callers would otherwise fall back on? -/
def overrides {ε : Type} (task : Task) : Traced ε Bool := do
  let policy := task.context.policy
  match policy.inheritedCall? task.method.className task.method.id with
  | some _ => return true
  | none =>
      let inherited ← task.context.summaries.inherited? task.context.arrangement policy.hierarchy
        task.method.className task.method.id
      return inherited.isSome

/-- The summary that is offered to the table for a method that returns the given fact. One that says
nothing is only offered where it takes the place of an inherited one. -/
def summarize {ε : Type} (task : Task) (signature : Signature) (output : Option Taint) :
    Traced ε (Option Summary) :=
  match output.filter (worthTelling task.context.policy signature) with
  | none => pure none
  | some returned => do
      let summary := derivedSummary signature returned
      if summary.isInformative then return some summary
      else if ← task.overrides then return some summary
      else
        Traced.give (.uninformative task.method.key)
        return none

/-- Offer a summary to the table. -/
def offer {ε : Type} (task : Task) (summary : Option Summary) :
    Traced ε (SummaryTable × Option Commit) :=
  match summary with
  | none => pure (task.context.summaries, none)
  | some summary => do
      let (summaries, commit) ← task.context.summaries.offer task.method.key summary
      return (summaries, some commit)

/-- Read the signature of the method and check that its body can be entered. -/
def begin (task : Task) : Except Failure Signature := do
  let signature ← task.method.signature.mapError task.failure
  match task.body.instruction? task.body.entry with
  | some _ => return signature
  | none => throw (task.failure (.unknownLocation task.body.entry))

/-- Report what the solver ended with, and offer the summary of the method to the table. -/
def conclude {ε : Type} (task : Task) (signature : Signature) (solver : Solver) :
    Traced ε (Analysis × SummaryTable) := do
  task.context.notify (.complete task.method.key solver.output)
  let summary ← task.summarize signature solver.output
  let (summaries, commit) ← task.offer summary
  Traced.give (.analyzed task.method.key solver.frames.size)
  return (⟨task.method, solver.frames, solver.output, solver.visits, commit⟩, summaries)

/-- Analyse the method, and offer its summary to the table. -/
def run (task : Task) : Traced Failure (Analysis × SummaryTable) := do
  let signature ← task.begin
  let frame ← Traced.silently
    ((entryFrame task.context.policy task.method signature).mapError task.failure)
  Traced.give (.entryFrame task.method.key frame)
  let solver ← task.solve frame
  task.conclude signature solver

end Task

end TaintFlow
