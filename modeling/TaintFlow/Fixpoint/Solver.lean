/-
Module: TaintFlow.Fixpoint.Solver
Purpose: Carry facts along the edges of a body until nothing changes any more. One visit of a location
  is a function of its own, so that the order of visits is a choice made apart from it.
Main exports: Task, Solver, Task.explore, Task.visit, Task.drain, Task.solve
-/
import TaintFlow.Execution

namespace TaintFlow

/-- A method to analyse, with its code. -/
structure Task where
  context : Context
  method : Method
  body : Body

/-- How far an analysis has come. -/
structure Solver where
  /-- The facts right before each location reached so far. -/
  frames : Std.ExtTreeMap Offset Frame
  /-- How often each location was visited. -/
  visits : Std.ExtTreeMap Offset Nat := ∅
  /-- The locations whose facts have changed since they were last visited. -/
  pending : Std.ExtTreeSet Offset
  /-- The fact about everything returned so far. -/
  output : Option Taint := none

namespace Solver

/-- The beginning: control stands at the entry with the given facts. -/
def start (entry : Offset) (frame : Frame) : Solver where
  frames := Std.ExtTreeMap.ofList [(entry, frame)]
  pending := Std.ExtTreeSet.ofList [entry]

/-- How often a location was visited. -/
def visitCount (solver : Solver) (offset : Offset) : Nat :=
  solver.visits.getD offset 0

/-- The lowest pending location. -/
def lowest? (solver : Solver) : Option Offset :=
  solver.pending.toList.head?

/-- Take a location off the pending ones, for its next visit. -/
def take (solver : Solver) (offset : Offset) : Solver :=
  { solver with
    pending := solver.pending.erase offset
    visits := solver.visits.insert offset (solver.visitCount offset + 1) }

/-- New facts before a location, which therefore has to be visited. -/
def update (solver : Solver) (offset : Offset) (frame : Frame) : Solver :=
  { solver with
    frames := solver.frames.insert offset frame
    pending := solver.pending.insert offset }

/-- Add what a visit returned from the method. -/
def giveBack (solver : Solver) (returned : Option Taint) : Solver :=
  { solver with output := Taint.combine solver.output returned }

end Solver

namespace Task

/-- A fault that belongs to the method as a whole. -/
def failure (task : Task) (fault : Fault) : Failure :=
  .inMethod task.method.key fault

/-- A fault that belongs to an instruction. -/
def failureAt (task : Task) (offset : Offset) (instruction : Instruction) (fault : Fault) :
    Failure :=
  .atInstruction task.method.key offset instruction fault

/-- The place at which the instruction at an offset acts. -/
def site (task : Task) (offset : Offset) : Site :=
  ⟨task.context, task.method, offset⟩

/-- Put new facts before a location. -/
def enqueue (solver : Solver) (target : Offset) (frame : Frame) : Traced Failure Solver := do
  Traced.giveIf (target ∉ solver.pending) (.queued target)
  return solver.update target frame

/-- Let the facts after the instruction at an offset flow to one of its successors. -/
def flow (task : Task) (offset : Offset) (instruction : Instruction) (frame : Frame)
    (solver : Solver) (target : Offset) : Traced Failure Solver :=
  match task.body.instruction? target with
  | none => Traced.fail (task.failure (.unknownLocation target))
  | some _ =>
      match solver.frames[target]? with
      | none => enqueue solver target frame
      | some known => do
          let (joined, changed) ←
            Traced.silently ((known.join frame).mapError (task.failureAt offset instruction))
          if changed then enqueue solver target joined else return solver

/-- Let the instruction at a location act on the facts before it, and let the facts after it flow to all
successors. -/
def explore (task : Task) (offset : Offset) (solver : Solver) : Traced Failure Solver :=
  match task.body.instruction? offset, solver.frames[offset]? with
  | some instruction, some frame => do
      let step ← ((task.site offset).step instruction frame).mapError
        (task.failureAt offset instruction)
      (task.body.successors offset).foldlM (task.flow offset instruction step.frame)
        (solver.giveBack step.returned)
  | _, _ => Traced.fail (task.failure (.unknownLocation offset))

/-- Visit a location, unless that has been done too often. -/
def visit (task : Task) (offset : Offset) (solver : Solver) : Traced Failure Solver := do
  Traced.give (.taken offset)
  let taken := solver.take offset
  let count := taken.visitCount offset
  if task.context.options.maxVisits < count then
    Traced.fail (task.failure (.nonConvergent offset count))
  else
    task.explore offset taken

/-- Visit pending locations, the lowest first, until there are none. A run that is longer than the
budget of visits has left the bounds of every single location long before. -/
def drain (task : Task) : Nat → Solver → Traced Failure Solver
  | budget, solver =>
      match solver.lowest? with
      | none => pure solver
      | some offset =>
          match budget with
          | 0 => Traced.fail (task.failure (.nonConvergent offset (solver.visitCount offset)))
          | budget + 1 => do
              let after ← task.visit offset solver
              task.drain budget after

/-- All the visits that a task may take: so many for each instruction, and the one that breaks the
bound. -/
def budget (task : Task) : Nat :=
  task.body.size * task.context.options.maxVisits + 1

/-- Carry facts through the body, beginning with the given ones at its entry. -/
def solve (task : Task) (frame : Frame) : Traced Failure Solver :=
  task.drain task.budget (.start task.body.entry frame)

end Task

end TaintFlow
