/-
Module: TaintFlow.Proofs.VisitOrder
Purpose: Runs that take the lowest pending location each time. No pending location lies below the one that
  is taken, and a location that is not pending was taken with the facts that it still has.
Main exports: Solver.lowest_le, Task.Proceeds, Task.Passes, Task.Passes.reaches, Task.Takes,
  Task.Passes.takes_settled
-/
import TaintFlow.Proofs.Run

namespace TaintFlow

theorem Solver.lowest_le {solver : Solver} {offset other : Offset} (lowest : solver.lowest? = some offset)
    (pending : other ∈ solver.pending) : offset ≤ other := by
  have ascending := solver.pending.ordered_toList
  rw [← Std.ExtTreeSet.mem_toList] at pending
  unfold Solver.lowest? at lowest
  cases listed : solver.pending.toList with
  | nil =>
      rw [listed] at pending
      cases pending
  | cons head later =>
      rw [listed] at ascending pending lowest
      cases lowest
      rcases List.mem_cons.1 pending with rfl | further
      · exact Nat.le_refl _
      · have below := List.rel_of_pairwise_cons ascending further
        exact Nat.le_of_lt (Nat.compare_eq_lt.1 below)

namespace Task

variable {task : Task} {start before after solver : Solver} {offset : Offset} {frame entry : Frame}

/-- The lowest pending location is visited. -/
def Proceeds (task : Task) (before after : Solver) : Prop :=
  ∃ offset, before.lowest? = some offset ∧ task.Visits offset before after

/-- Any number of visits in this order. -/
def Passes (task : Task) : Solver → Solver → Prop :=
  Relation.ReflTransGen task.Proceeds

theorem Passes.reaches (passes : task.Passes before after) : task.Reaches before after := by
  refine Relation.ReflTransGen.mono ?_ _ _ passes
  rintro earlier later ⟨offset, lowest, visits⟩
  exact ⟨offset, Solver.mem_pending_of_lowest lowest, visits⟩

/-- At some moment of the run, the location is taken with these facts before it. -/
def Takes (task : Task) (start : Solver) (offset : Offset) (frame : Frame) : Prop :=
  ∃ solver, task.Passes start solver ∧ solver.lowest? = some offset ∧ solver.frames[offset]? = some frame

/-- A location that is not pending has been taken, and its facts have not changed since then. -/
theorem Passes.takes_settled (passes : task.Passes (.start task.body.entry entry) solver)
    (reached : solver.frames[offset]? = some frame) (settled : offset ∉ solver.pending) :
    task.Takes (.start task.body.entry entry) offset frame := by
  induction passes with
  | refl =>
      by_cases same : task.body.entry = offset
      · simp [Solver.start, same] at settled
      · simp [Solver.start, same] at reached
  | @tail earlier later passes proceeds inductionHypothesis =>
      rcases proceeds with ⟨visited, lowest, code, there, acted, -, received⟩
      -- New facts would have made the location pending again.
      have reachedBefore : earlier.frames[offset]? = some frame :=
        (received.grows.unchanged offset settled).symm.trans reached
      by_cases same : visited = offset
      · subst same
        exact ⟨earlier, passes, lowest, reachedBefore⟩
      · apply inductionHypothesis reachedBefore
        intro pending
        exact settled (received.grows.pending offset (Solver.mem_pending_take.2 ⟨same, pending⟩))

end Task

end TaintFlow
