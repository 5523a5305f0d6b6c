/-
Module: TaintFlow.Proofs.Occurrence
Purpose: The frames that occur while a solver runs, also in the middle of a visit and in runs that fail
  in the end, and what can be said of all of them: a property that frames keep when they meet, and that
  every instruction hands on, holds of each. The property may refer to the locations visited so far.
Main exports: Solver.Visited, Task.Acts, Task.Occurs, Task.Steady, Task.Maintains, Task.Maintains.reaches,
  Task.Maintains.occurs
-/
import TaintFlow.Proofs.Run

namespace TaintFlow

namespace Solver

variable {solver before after : Solver} {offset target : Offset} {frame : Frame}
  {targets : List Offset}

/-! ### Visited locations -/

/-- The location has been visited. -/
def Visited (solver : Solver) (offset : Offset) : Prop :=
  0 < solver.visitCount offset

theorem visitCount_take :
    (solver.take target).visitCount offset =
      if target = offset then solver.visitCount target + 1 else solver.visitCount offset := by
  simp [visitCount, take, Std.ExtTreeMap.getD_insert]

theorem visited_take : (solver.take target).Visited offset ↔ target = offset ∨ solver.Visited offset := by
  unfold Visited
  rw [visitCount_take]
  split
  next same => simp [same]
  next different => simp [different]

theorem Receives.visits (receives : Receives target frame before after) :
    after.visits = before.visits := by
  cases receives with
  | first unreached => rfl
  | changed reached met => rfl
  | unchanged reached met => rfl

/-- Facts that flow to locations do not count as visits. -/
theorem ReceivesAll.visits (receives : ReceivesAll frame targets before after) :
    after.visits = before.visits := by
  induction receives with
  | nil solver => rfl
  | cons head tail inductionHypothesis => rw [inductionHypothesis, head.visits]

theorem ReceivesAll.visited (receives : ReceivesAll frame targets before after) :
    after.Visited = before.Visited := by
  unfold Visited visitCount
  rw [receives.visits]

end Solver

namespace Task

variable {task : Task} {start solver after : Solver} {offset : Offset} {instruction : Instruction}
  {frame known : Frame} {step : Step} {targets : List Offset}

/-! ### Frames that occur -/

/-- The instruction at a pending location of the solver acts on the facts before it. -/
structure Acts (task : Task) (solver : Solver) (offset : Offset) (instruction : Instruction)
    (frame : Frame) (step : Step) : Prop where
  pending : offset ∈ solver.pending
  code : task.body.instruction? offset = some instruction
  reached : solver.frames[offset]? = some frame
  acted : ((task.site offset).step instruction frame).result = .ok step

/-- A frame occurs in a run, at a moment that the state of the solver tells: it is stored before some
location between two visits, or an instruction has handed it on, or it is stored while the facts after an
instruction have reached only some of its successors. The rest of the run may fail. -/
inductive Occurs (task : Task) (start : Solver) : Solver → Frame → Prop where
  | stored {solver : Solver} {offset : Offset} {frame : Frame} (reaches : task.Reaches start solver)
      (there : solver.frames[offset]? = some frame) : Occurs task start solver frame
  | handed {solver : Solver} {offset : Offset} {instruction : Instruction} {frame : Frame} {step : Step}
      (reaches : task.Reaches start solver) (acts : task.Acts solver offset instruction frame step) :
      Occurs task start (solver.take offset) step.frame
  | flowed {solver middle : Solver} {offset target : Offset} {instruction : Instruction}
      {frame known : Frame} {step : Step} {reachedSo stillToCome : List Offset}
      (reaches : task.Reaches start solver) (acts : task.Acts solver offset instruction frame step)
      (successors : task.body.successors offset = reachedSo ++ stillToCome)
      (received : Solver.ReceivesAll step.frame reachedSo
        ((solver.take offset).giveBack step.returned) middle)
      (there : middle.frames[target]? = some known) : Occurs task start middle known

/-! ### What holds of all of them -/

/-- What is good may depend on the locations visited so far, but does not end when there are more of
them, and good frames meet in a good one. -/
structure Steady (good : (Offset → Prop) → Frame → Prop) : Prop where
  widens : ∀ {visited visited' : Offset → Prop} {frame}, (∀ offset, visited offset → visited' offset) →
    good visited frame → good visited' frame
  meets : ∀ {visited frame other joined changed}, good visited frame → good visited other →
    frame.join other = .ok (joined, changed) → good visited joined

/-- Moreover, every instruction of the run hands on good frames. -/
structure Maintains (task : Task) (start : Solver) (good : (Offset → Prop) → Frame → Prop) : Prop
    extends Steady good where
  steps : ∀ {solver offset instruction frame step}, task.Reaches start solver →
    task.Acts solver offset instruction frame step → good (solver.take offset).Visited frame →
    good (solver.take offset).Visited step.frame

/-- Every frame that is stored is good. -/
abbrev Stores (good : (Offset → Prop) → Frame → Prop) (solver : Solver) : Prop :=
  Satisfied (fun _ frame => good solver.Visited frame) (fun _ => True) solver

variable {good : (Offset → Prop) → Frame → Prop}

/-- What an instruction of the run hands on is good, at the moment when its location has been taken. -/
theorem Maintains.hands (maintains : task.Maintains start good) (reaches : task.Reaches start solver)
    (stores : Stores good solver) (acts : task.Acts solver offset instruction frame step) :
    good (solver.take offset).Visited step.frame := by
  apply maintains.steps reaches acts
  apply maintains.widens _ (stores.frames offset frame acts.reached)
  exact fun other visited => Solver.visited_take.2 (Or.inr visited)

/-- While a good frame flows to the successors, whatever is stored is good. -/
theorem Steady.receives (steady : Steady good) (stores : Stores good solver)
    (handed : good (solver.take offset).Visited step.frame)
    (received : Solver.ReceivesAll step.frame targets
      ((solver.take offset).giveBack step.returned) after) : Stores good after := by
  have taken : Satisfied (fun _ frame => good (solver.take offset).Visited frame) (fun _ => True)
      ((solver.take offset).giveBack step.returned) := by
    refine ⟨?_, fun _ _ => trivial⟩
    intro other known there
    apply steady.widens _ (stores.frames other known there)
    exact fun other visited => Solver.visited_take.2 (Or.inr visited)
  have visited : after.Visited = (solver.take offset).Visited := received.visited
  rw [Stores, visited]
  exact taken.receivesAll steady.meets (fun _ _ => handed) received

theorem Maintains.flows (maintains : task.Maintains start good) (reaches : task.Reaches start solver)
    (stores : Stores good solver) (acts : task.Acts solver offset instruction frame step)
    (received : Solver.ReceivesAll step.frame targets
      ((solver.take offset).giveBack step.returned) after) : Stores good after :=
  maintains.toSteady.receives stores (maintains.hands reaches stores acts) received

theorem Maintains.reaches (maintains : task.Maintains start good) (begun : Stores good start)
    (reaches : task.Reaches start solver) : Stores good solver := by
  induction reaches with
  | refl => exact begun
  | tail before advances inductionHypothesis =>
      obtain ⟨offset, pending, code, reached, acted, -, received⟩ := advances
      exact maintains.flows before inductionHypothesis ⟨pending, code, reached, acted⟩ received

/-- Every frame that occurs is good. -/
theorem Maintains.occurs (maintains : task.Maintains start good) (begun : Stores good start)
    (occurs : task.Occurs start solver frame) : good solver.Visited frame := by
  cases occurs with
  | stored reaches there => exact (maintains.reaches begun reaches).frames _ _ there
  | handed reaches acts => exact maintains.hands reaches (maintains.reaches begun reaches) acts
  | flowed reaches acts successors received there =>
      exact (maintains.flows reaches (maintains.reaches begun reaches) acts received).frames _ _ there

end Task

end TaintFlow
