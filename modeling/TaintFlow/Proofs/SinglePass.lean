/-
Module: TaintFlow.Proofs.SinglePass
Purpose: Code without loops that is laid out in order is analysed in one pass. The lowest pending location is
  always taken first, and control only goes on to higher ones, so that nothing flows to a location that has
  been visited: however the code branches and meets again, each location is visited once.
Main exports: Body.Ascending, Solver.Advancing, Task.Visits.advancing, Task.drain_structural_of_ascending,
  Task.run_needs_one_pass
-/
import TaintFlow.Proofs.Convergence
import TaintFlow.Proofs.Reachability
import TaintFlow.Proofs.VisitOrder

namespace TaintFlow

/-! ### Code that is laid out in order -/

/-- Control only goes on to higher offsets. -/
def Body.Ascending (body : Body) : Prop :=
  ∀ offset, ∀ target ∈ body.successors offset, offset < target

instance (body : Body) : Decidable body.Ascending :=
  decidable_of_iff (∀ offset ∈ body.offsets, ∀ target ∈ body.successors offset, offset < target) <| by
    refine ⟨fun ascending offset target edge => ?_, fun ascending offset _ => ascending offset⟩
    cases code : body.nodes[offset]? with
    | none => simp [Body.successors, code] at edge
    | some node =>
        have located : body.instruction? offset = some node.instruction := by
          simp [Body.instruction?, code]
        exact ascending offset (Body.mem_offsets_of_instruction located) target edge

/-! ### The visited locations lie below the pending ones -/

namespace Solver

variable {solver before after : Solver} {offset target : Offset} {frame : Frame} {targets : List Offset}

/-- No location has been visited twice, and those that have been visited lie below those that are
pending. -/
structure Advancing (solver : Solver) : Prop where
  once : ∀ offset, solver.visitCount offset ≤ 1
  below : ∀ visited pending, solver.Visited visited → pending ∈ solver.pending → visited < pending

theorem advancing_start (entry : Offset) (frame : Frame) : (Solver.start entry frame).Advancing where
  once offset := by simp [visitCount, start]
  below visited pending isVisited := by simp [Visited, visitCount, start] at isVisited

theorem Advancing.visitCount_eq_zero (advancing : solver.Advancing) (pending : offset ∈ solver.pending) :
    solver.visitCount offset = 0 := by
  refine Nat.eq_zero_of_not_pos fun visited => ?_
  exact Nat.lt_irrefl offset (advancing.below offset offset visited pending)

theorem Receives.mem_pending (received : Receives target frame before after)
    (pending : offset ∈ after.pending) : offset = target ∨ offset ∈ before.pending := by
  cases received with
  | first unreached => exact (mem_pending_update.1 pending).imp_left Eq.symm
  | changed reached met => exact (mem_pending_update.1 pending).imp_left Eq.symm
  | unchanged reached met => exact Or.inr pending

/-- Only locations that facts flow to become pending. -/
theorem ReceivesAll.mem_pending (received : ReceivesAll frame targets before after)
    (pending : offset ∈ after.pending) : offset ∈ before.pending ∨ offset ∈ targets := by
  induction received with
  | nil => exact Or.inl pending
  | cons head tail inductionHypothesis =>
      rcases inductionHypothesis pending with between | later
      · rcases head.mem_pending between with rfl | earlier
        · exact Or.inr List.mem_cons_self
        · exact Or.inl earlier
      · exact Or.inr (List.mem_cons_of_mem _ later)

end Solver

namespace Task

variable {task : Task} {before after solver : Solver} {offset other : Offset}

theorem Visits.visitCount (visits : task.Visits offset before after) :
    after.visitCount other = (before.take offset).visitCount other := by
  rcases visits with ⟨-, -, -, -, received⟩
  rw [Solver.visitCount, received.visits]
  rfl

/-- What becomes pending by a visit is a successor, and lies above all that have been visited. -/
theorem Visits.advancing (ascending : task.body.Ascending) (advancing : before.Advancing)
    (lowest : before.lowest? = some offset) (visits : task.Visits offset before after) :
    after.Advancing := by
  have pending := Solver.mem_pending_of_lowest lowest
  refine ⟨fun other => ?_, fun visited next isVisited isPending => ?_⟩
  · rw [visits.visitCount, Solver.visitCount_take, advancing.visitCount_eq_zero pending]
    split
    · exact Nat.le_refl 1
    · exact advancing.once other
  · have upTo : visited ≤ offset := by
      rw [Solver.Visited, visits.visitCount] at isVisited
      rcases Solver.visited_take.1 isVisited with rfl | earlier
      · exact Nat.le_refl _
      · exact Nat.le_of_lt (advancing.below visited offset earlier pending)
    have above : offset < next := by
      rcases visits with ⟨-, -, -, -, received⟩
      rcases received.mem_pending isPending with waiting | successor
      · rcases Solver.mem_pending_take.1 waiting with ⟨different, waitingBefore⟩
        exact Nat.lt_of_le_of_ne (Solver.lowest_le lowest waitingBefore) different
      · exact ascending offset next successor
    exact Nat.lt_of_le_of_lt upTo above

/-! ### The bounds on visits are not reached -/

/-- The locations that are still to be visited, if ever. -/
def unvisited (task : Task) (solver : Solver) : List Offset :=
  task.body.offsets.filter (solver.visitCount · = 0)

theorem Visits.length_unvisited_lt (fresh : before.visitCount offset = 0)
    (visits : task.Visits offset before after) :
    (task.unvisited after).length < (task.unvisited before).length := by
  have fewer : task.unvisited after = (task.unvisited before).filter (offset ≠ ·) := by
    rw [unvisited, unvisited, List.filter_filter]
    refine List.filter_congr fun other _ => ?_
    rw [visits.visitCount, Solver.visitCount_take]
    by_cases same : offset = other
    · simp [same]
    · simp [same]
  rcases visits with ⟨code, -, -, -, -⟩
  rw [fewer, List.length_filter_lt_length_iff_exists]
  refine ⟨offset, List.mem_filter.2 ⟨Body.mem_offsets_of_instruction code, ?_⟩, by simp⟩
  simpa using fresh

/-- Where one visit of each location is allowed and the budget is enough for all that have not been
visited, the solver is not stopped. -/
theorem drain_structural_of_ascending {budget : Nat} (ascending : task.body.Ascending)
    (allowed : 1 ≤ task.context.options.maxVisits) (advancing : solver.Advancing)
    (enough : (task.unvisited solver).length < budget) :
    Raises (fun failure => failure.fault.isStructural) (task.drain budget solver).result := by
  induction budget generalizing solver with
  | zero => cases enough
  | succ budget inductionHypothesis =>
      cases next : solver.lowest? with
      | none =>
          rw [result_drain_none next]
          exact raises_ok _
      | some offset =>
          have fresh := advancing.visitCount_eq_zero (Solver.mem_pending_of_lowest next)
          rw [result_drain_succ offset next]
          refine Raises.bind_of_eq_ok ?_ fun after visited => ?_
          · rw [result_visit, if_neg]
            · exact task.explore_structural offset _
            · rw [Solver.visitCount_take, if_pos rfl, fresh]
              exact Nat.not_lt.2 allowed
          · have visits := visit_eq_ok visited
            apply inductionHypothesis (visits.advancing ascending advancing next)
            exact Nat.lt_of_lt_of_le (visits.length_unvisited_lt fresh) (Nat.le_of_lt_succ enough)

theorem length_unvisited_lt_budget (allowed : 1 ≤ task.context.options.maxVisits) :
    (task.unvisited solver).length < task.budget := by
  have atMost : (task.unvisited solver).length ≤ task.body.size := by
    rw [Body.size, ← Std.ExtTreeMap.length_keys]
    exact List.length_filter_le _ _
  exact Nat.lt_succ_of_le (atMost.trans (Nat.le_mul_of_pos_right _ allowed))

/-- Control of the body only goes on to higher offsets. Then an analysis that succeeds has visited every
location that control can reach exactly once, and where each location may be visited at all, no analysis
is given up because it does not converge. -/
theorem run_needs_one_pass (ascending : task.body.Ascending) :
    (∀ analysis summaries, task.run.result = .ok (analysis, summaries) →
      ∀ offset, task.body.Reachable offset → analysis.visitCount offset = 1) ∧
    (1 ≤ task.context.options.maxVisits → ∀ failure, task.run.result = .error failure →
      ∀ offset visits, failure.fault ≠ .nonConvergent offset visits) := by
  refine ⟨?_, ?_⟩
  · intro analysis summaries finished offset reachable
    rcases run_eq_ok finished with ⟨signature, entry, solver, -, -, solved, -, -, visits⟩
    have advancing : solver.Advancing :=
      (drain_keeps Solver.Advancing (fun advancing lowest visits => visits.advancing ascending advancing lowest)
        (Solver.advancing_start _ _) solved).1
    have visited : solver.Visited offset := ((finishes_of_solve solved).visited_iff offset).2 reachable
    have reported : analysis.visitCount offset = solver.visitCount offset := by
      rw [Analysis.visitCount, visits]
      rfl
    rw [reported]
    exact Nat.le_antisymm (advancing.once offset) visited
  · intro allowed failure failed offset visits nonConvergent
    have structural : Raises (fun failure => failure.fault.isStructural) task.run.result := by
      refine raises_run (fun _ => rfl) (fun _ => Fault.isStructural_of_isOrdinary) ?_
      intro signature entry _
      exact drain_structural_of_ascending ascending allowed (Solver.advancing_start _ _)
        (length_unvisited_lt_budget allowed)
    have isStructural : failure.fault.isStructural := structural failure failed
    rw [nonConvergent] at isStructural
    cases isStructural

end Task

/-- A method that returns one of two texts. The two ways to its end are of different length, and one visit
of each location is all that is allowed. -/
def choosingText : Task where
  context := { policy := Declarations.policy {}, options := { maxVisits := 1 } }
  method := ⟨"Text", "choose", "(ILjava/lang/String;)Ljava/lang/String;", true, 2⟩
  body := Body.setSuccessors (Body.addEdge (.ofList [
    .load 0 .int,
    .other 1 0,
    .constant (.string "none"),
    .other 0 0,
    .load 1 .reference,
    .return (some .reference)]) 1 4) 3 [5]

/-- The facts of both ways have met before the end is visited. -/
theorem choosingText_needs_one_pass :
    choosingText.body.Ascending ∧ 1 ≤ choosingText.context.options.maxVisits ∧
      ∃ analysis summaries, choosingText.run.result = .ok (analysis, summaries) ∧
        (analysis.frames[5]?.map fun frame => frame.stack.map (·.state)) = some [.unknown] ∧
        choosingText.body.Reachable 5 ∧ analysis.visitCount 5 = 1 := by
  have ascending : choosingText.body.Ascending := by decide
  have meets : (choosingText.run.result.toOption.bind fun (analysis, _) =>
      analysis.frames[5]?.map fun frame => frame.stack.map (·.state)) = some [.unknown] := by
    decide +kernel
  rcases Option.bind_eq_some_iff.1 meets with ⟨⟨analysis, summaries⟩, ran, states⟩
  rw [toOption_eq_some_iff] at ran
  have branch : choosingText.body.Reachable 1 := choosingText.body.reachable_entry.successor (by decide)
  have other : choosingText.body.Reachable 4 := branch.successor (by decide)
  have returns : choosingText.body.Reachable 5 := other.successor (by decide)
  have visits := (Task.run_needs_one_pass ascending).1 analysis summaries ran 5 returns
  exact ⟨ascending, by decide, analysis, summaries, ran, states, returns, visits⟩

end TaintFlow
