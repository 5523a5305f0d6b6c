/-
Module: TaintFlow.Proofs.Reachability
Purpose: Which locations a run comes to. Whatever the order of its visits, a run that has nothing left to
  visit has facts before exactly those locations that control can reach from the entry, and has visited
  exactly these.
Main exports: Body.Way.concat, Body.Way.exists_of_prefix, Body.Reachable, Task.Finishes,
  Task.Finishes.solved, Solver.Tended, Task.Finishes.reached_iff, Task.Finishes.visited_iff
-/
import TaintFlow.Proofs.Occurrence
import TaintFlow.Proofs.Paths

namespace TaintFlow

/-! ### Locations that control can reach -/

namespace Body

variable {body : Body} {start offset next : Offset} {way earlier : List Offset}

/-- A way goes on to every successor of the location that it has come to. -/
theorem Way.concat (goes : body.Way start way offset) (edge : next ∈ body.successors offset) :
    body.Way start (way ++ [offset]) next := by
  induction goes with
  | here offset => exact .step edge (.here next)
  | step first rest inductionHypothesis => exact .step first (inductionHypothesis edge)

/-- Control can come from the entry to the location. -/
def Reachable (body : Body) (offset : Offset) : Prop :=
  ∃ way, body.Way body.entry way offset

theorem reachable_entry (body : Body) : body.Reachable body.entry :=
  ⟨[], .here body.entry⟩

theorem Reachable.successor (reachable : body.Reachable offset) (edge : next ∈ body.successors offset) :
    body.Reachable next := by
  rcases reachable with ⟨way, goes⟩
  exact ⟨way ++ [offset], goes.concat edge⟩

end Body

/-! ### Locations that are pending or have been visited -/

namespace Solver

variable {solver before after : Solver} {target : Offset} {frame : Frame} {targets : List Offset}

/-- The locations with facts before them are those that are pending or have been visited. -/
def Tended (solver : Solver) : Prop :=
  ∀ offset : Offset, (∃ frame, solver.frames[offset]? = some frame) ↔
    offset ∈ solver.pending ∨ solver.Visited offset

theorem tended_start (entry : Offset) (frame : Frame) : (Solver.start entry frame).Tended := by
  intro offset
  by_cases same : entry = offset
  · simp [Solver.start, same]
  · simp [Solver.start, Visited, visitCount, same]

/-- A location with facts before it stays tended when it is taken for its next visit. -/
theorem Tended.take (tended : solver.Tended) (reached : solver.frames[target]? = some frame) :
    (solver.take target).Tended := by
  intro offset
  have sameFrames : (solver.take target).frames = solver.frames := rfl
  rw [visited_take, mem_pending_take, sameFrames]
  by_cases same : target = offset
  · subst same
    exact ⟨fun _ => Or.inr (Or.inl rfl), fun _ => ⟨frame, reached⟩⟩
  · simpa [same] using tended offset

theorem Tended.update (tended : solver.Tended) : (solver.update target frame).Tended := by
  intro offset
  have sameVisits : (solver.update target frame).Visited offset ↔ solver.Visited offset := Iff.rfl
  rw [frames_update, mem_pending_update, sameVisits]
  by_cases same : target = offset
  · simp [same]
  · simpa [same] using tended offset

theorem Receives.tended (received : Receives target frame before after) (tended : before.Tended) :
    after.Tended := by
  cases received with
  | first unreached => exact tended.update
  | changed reached met => exact tended.update
  | unchanged reached met => exact tended

theorem ReceivesAll.tended (received : ReceivesAll frame targets before after)
    (tended : before.Tended) : after.Tended := by
  induction received with
  | nil => exact tended
  | cons head tail inductionHypothesis => exact inductionHypothesis (head.tended tended)

end Solver

namespace Task

variable {task : Task} {entry frame : Frame} {before after solver : Solver} {offset : Offset}

theorem Reaches.tended (reaches : task.Reaches before after) (tended : before.Tended) :
    after.Tended := by
  induction reaches with
  | refl => exact tended
  | tail _ advances inductionHypothesis =>
      rcases advances with ⟨visited, -, -, reached, -, -, received⟩
      exact received.tended (inductionHypothesis.take reached)

/-- Facts only flow to locations that control can reach. -/
theorem keeps_reachable (task : Task) :
    task.Keeps (fun offset _ => task.body.Reachable offset) (fun _ => True) where
  meets reachable _ _ := reachable
  flows _ reachable _ _ edge := reachable.successor edge
  returns _ _ _ _ _ := trivial
  combines _ _ := trivial

/-! ### Runs that have come to an end -/

/-- A run that began with the given facts at the entry, took its pending locations in any order, and has
none left. -/
structure Finishes (task : Task) (entry : Frame) (solver : Solver) : Prop where
  reaches : task.Reaches (.start task.body.entry entry) solver
  nothingPending : solver.pending = ∅

/-- To take the lowest pending location each time is one such order. -/
theorem finishes_of_solve (solved : (task.solve entry).result = .ok solver) :
    task.Finishes entry solver := by
  rcases drain_eq_ok solved with ⟨reaches, nothingPending⟩
  exact ⟨reaches, nothingPending⟩

/-- In the end the equations hold wherever there are facts. -/
theorem Finishes.solved (finishes : task.Finishes entry solver)
    (reached : solver.frames[offset]? = some frame) :
    ∃ instruction step, task.SolvedAt solver offset instruction step frame := by
  apply finishes.reaches.consistent (consistent_start _ _) offset frame reached
  simp [finishes.nothingPending]

/-- There are facts before every location that a way leads to from one with facts. -/
theorem Finishes.reached_of_way {start : Offset} {way : List Offset}
    (finishes : task.Finishes entry solver) (goes : task.body.Way start way offset)
    (begun : ∃ frame, solver.frames[start]? = some frame) :
    ∃ frame, solver.frames[offset]? = some frame := by
  induction goes with
  | here => exact begun
  | step edge rest inductionHypothesis =>
      rcases begun with ⟨frame, reached⟩
      rcases finishes.solved reached with ⟨instruction, step, solvedAt⟩
      rcases solvedAt.covered _ edge with ⟨next, reachedNext, -⟩
      exact inductionHypothesis ⟨next, reachedNext⟩

/-- A finished run has facts before exactly the locations that control can reach. -/
theorem Finishes.reached_iff (finishes : task.Finishes entry solver) (offset : Offset) :
    (∃ frame, solver.frames[offset]? = some frame) ↔ task.body.Reachable offset := by
  constructor
  · rintro ⟨frame, reached⟩
    have satisfied := task.keeps_reachable.reaches (satisfied_start task.body.reachable_entry)
      finishes.reaches
    exact satisfied.frames offset frame reached
  · rintro ⟨way, goes⟩
    rcases finishes.reaches.entry_ascends with ⟨frame, reached, -⟩
    exact finishes.reached_of_way goes ⟨frame, reached⟩

/-- A finished run has visited exactly the locations that control can reach. -/
theorem Finishes.visited_iff (finishes : task.Finishes entry solver) (offset : Offset) :
    solver.Visited offset ↔ task.body.Reachable offset := by
  have tended : solver.Tended := finishes.reaches.tended (Solver.tended_start _ _)
  rw [← finishes.reached_iff, tended offset, finishes.nothingPending]
  simp

end Task

end TaintFlow
