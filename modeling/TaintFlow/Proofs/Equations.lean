/-
Module: TaintFlow.Proofs.Equations
Purpose: The frames that an analysis ends with solve the equations of the body: facts after a location
  add nothing to those before its successors, facts on entry add nothing to those at the entry, and
  returned facts add nothing to the output.
Main exports: Task.Consistent, Task.Consistent.visits, Task.Reaches.consistent, Analysis.Solves,
  Task.run_solves_equations
-/
import TaintFlow.Policy.Declarations
import TaintFlow.Proofs.Entry
import TaintFlow.Proofs.Run

namespace TaintFlow

/-! ### Facts that hold on entry -/

/-- Facts on entry carry no tags. -/
theorem entryFrame_durable {policy : Policy} {method : Method} {signature : Signature} {entry : Frame}
    (entered : entryFrame policy method signature = .ok entry) : entry.All Taint.Durable :=
  calledFrame_all (fun _ _ durable => durable) (Or.inr rfl)
    (forall_mem_entryTaints (Or.inl rfl) fun _ _ _ => Or.inr rfl) entered

namespace Task

variable {task : Task} {offset : Offset} {frame : Frame} {solver before after : Solver}

/-! ### The equations at one location -/

/-- The equations at a location hold of the frame before it: its instruction can act on that frame,
every successor covers the frame after it, and the output covers what it returned. -/
structure SolvedAt (task : Task) (solver : Solver) (offset : Offset) (instruction : Instruction)
    (step : Step) (frame : Frame) : Prop where
  code : task.body.instruction? offset = some instruction
  acted : ((task.site offset).step instruction frame).result = .ok step
  covered : ∀ target ∈ task.body.successors offset,
    ∃ next, solver.frames[target]? = some next ∧ next.Covers step.frame
  given : ∀ taint ∈ step.returned, ∃ output, solver.output = some output ∧ output.Covers taint

/-- The invariant of a run: the equations hold at every location that has been reached and is not
pending. -/
def Consistent (task : Task) (solver : Solver) : Prop :=
  ∀ offset frame, solver.frames[offset]? = some frame → offset ∉ solver.pending →
    ∃ instruction step, task.SolvedAt solver offset instruction step frame

/-- Nothing is claimed in the beginning, where the entry is pending. -/
theorem consistent_start (entry : Offset) (frame : Frame) :
    task.Consistent (.start entry frame) := by
  intro offset known reached settled
  by_cases same : entry = offset
  · simp [Solver.start, same] at settled
  · simp [Solver.start, same] at reached

/-- The visited location is solved afterwards, unless the visit changed the facts before it, in which
case it is pending again. Every other location that is solved stays so, because frames and the output
only grow. -/
theorem Consistent.visits (consistent : task.Consistent before)
    (visits : task.Visits offset before after) : task.Consistent after := by
  obtain @⟨instruction, frame, step, code, reached, acted, -, received⟩ := visits
  have grows := received.grows
  intro location known reachedNow settled
  have reachedBefore : before.frames[location]? = some known :=
    (grows.unchanged location settled).symm.trans reachedNow
  by_cases same : offset = location
  · subst same
    rw [reached, Option.some.injEq] at reachedBefore
    subst reachedBefore
    refine ⟨instruction, step, code, acted, received.covers, ?_⟩
    intro taint returned
    rw [Option.mem_def] at returned
    rw [grows.output]
    simp only [Solver.giveBack, returned]
    exact Taint.combine_covers_right _ taint
  · have settledBefore : location ∉ before.pending := fun pending =>
      settled (grows.pending location (Solver.mem_pending_take.2 ⟨same, pending⟩))
    obtain ⟨instruction', step', solved⟩ := consistent location known reachedBefore settledBefore
    refine ⟨instruction', step', solved.code, solved.acted, ?_, ?_⟩
    · intro target member
      obtain ⟨next, reachedNext, covers⟩ := solved.covered target member
      exact grows.covers reachedNext covers
    · intro taint returned
      obtain ⟨output, known, covers⟩ := solved.given taint returned
      rw [grows.output]
      obtain ⟨combined, combinedIs, coversOutput⟩ := Taint.combine_covers_left step.returned known
      exact ⟨combined, combinedIs, coversOutput.trans covers⟩

theorem Reaches.consistent (consistent : task.Consistent before) (reaches : task.Reaches before after) :
    task.Consistent after := by
  induction reaches with
  | refl => exact consistent
  | tail _ advances inductionHypothesis =>
      obtain ⟨offset, -, visits⟩ := advances
      exact inductionHypothesis.visits visits

/-! ### The facts at the entry -/

/-- Facts without tags that a run began with add nothing to those at the entry in the end. -/
theorem Reaches.entry_unchanged {entry : Frame} (durable : entry.All Taint.Durable)
    (reaches : task.Reaches (.start offset entry) after) :
    ∃ known, after.frames[offset]? = some known ∧ known.join entry = .ok (known, false) := by
  obtain ⟨known, reached, ascends⟩ := reaches.entry_ascends
  have covers := ascends.covers
  have kept := ascends.durable durable
  exact ⟨known, reached, Frame.join_unchanged_iff.2 (Frame.Covers.absorbs covers kept)⟩

/-! ### The equations as a whole -/

/-- A return hands out the topmost word. -/
theorem returned_of_step {site : Site} {kind : Kind} {step : Step}
    (acted : (site.step (.return (some kind)) frame).result = .ok step) :
    ∃ top, frame.peek 0 = .ok top ∧ step.returned = some top := by
  rw [Site.result_step] at acted
  obtain ⟨top, peeked, words, rest, -, rfl⟩ := Site.giveBack_eq_ok_iff.1 acted
  exact ⟨top, peeked, rfl⟩

end Task

/-- The frames and the output of an analysis solve the equations of the body that it is about. -/
structure Analysis.Solves (analysis : Analysis) (task : Task) : Prop where
  /-- The facts that hold when the method is called add nothing to those at the entry. -/
  entered : ∃ signature entry known, task.method.signature = .ok signature ∧
    entryFrame task.context.policy task.method signature = .ok entry ∧
    analysis.frames[task.body.entry]? = some known ∧ known.join entry = .ok (known, false)
  /-- Each instruction can act on the facts before it, and adds nothing to those before its
  successors, which are of the same shape. -/
  flowed : ∀ (offset : Offset) (frame : Frame), analysis.frames[offset]? = some frame →
    ∃ instruction step, task.body.instruction? offset = some instruction ∧
      ((task.site offset).step instruction frame).result = .ok step ∧
      ∀ target ∈ task.body.successors offset,
        ∃ next, analysis.frames[target]? = some next ∧ next.Covers step.frame
  /-- The word that a return hands out adds nothing to the output. -/
  returned : ∀ (offset : Offset) (frame : Frame) (kind : Kind),
    analysis.frames[offset]? = some frame →
    task.body.instruction? offset = some (.return (some kind)) →
    ∃ top output, frame.peek 0 = .ok top ∧ analysis.output = some output ∧ output.Covers top

/-- What an analysis ends with solves the equations of the body, in whatever order its locations were
visited and however often. -/
theorem Task.run_solves_equations {task : Task} {analysis : Analysis} {summaries : SummaryTable}
    (finished : task.run.result = .ok (analysis, summaries)) : analysis.Solves task := by
  obtain ⟨signature, entry, solver, read, entered, solved, frames, output, -⟩ := run_eq_ok finished
  obtain ⟨reaches, nothingPending⟩ := drain_eq_ok solved
  have consistent : task.Consistent solver := reaches.consistent (consistent_start _ _)
  have solvedAt (offset : Offset) (frame : Frame) (reached : analysis.frames[offset]? = some frame) :
      ∃ instruction step, task.SolvedAt solver offset instruction step frame := by
    rw [frames] at reached
    exact consistent offset frame reached (by simp [nothingPending])
  refine ⟨?_, ?_, ?_⟩
  · obtain ⟨known, reached, unchanged⟩ := reaches.entry_unchanged (entryFrame_durable entered)
    exact ⟨signature, entry, known, read, entered, frames ▸ reached, unchanged⟩
  · intro offset frame reached
    obtain ⟨instruction, step, solvedHere⟩ := solvedAt offset frame reached
    exact ⟨instruction, step, solvedHere.code, solvedHere.acted, frames ▸ solvedHere.covered⟩
  · intro offset frame kind reached code
    obtain ⟨instruction, step, solvedHere⟩ := solvedAt offset frame reached
    have same : instruction = .return (some kind) :=
      Option.some.inj (solvedHere.code.symm.trans code)
    subst same
    obtain ⟨top, peeked, given⟩ := returned_of_step solvedHere.acted
    obtain ⟨known, knownIs, covers⟩ := solvedHere.given top given
    exact ⟨top, known, peeked, output.trans knownIs, covers⟩

/-- A method that puts a field behind its argument again and again, and returns what came out. -/
def appendingLoop : Task where
  context := { policy := Declarations.policy { fieldStates := [("Log.line", .tainted)] } }
  method := ⟨"Log", "append", "(Ljava/lang/String;)Ljava/lang/String;", true, 1⟩
  body := Body.addEdge (.ofList [
    .load 0 .reference,
    .getField ⟨"Log", "line", "Ljava/lang/String;"⟩ true,
    .concat 2,
    .store 0 .reference,
    .load 0 .reference,
    .return (some .reference)]) 3 0

theorem appendingLoop_solves_equations :
    ∃ analysis summaries, appendingLoop.run.result = .ok (analysis, summaries) ∧
      analysis.Solves appendingLoop := by
  have succeeds : appendingLoop.run.result.isOk = true := by decide +kernel
  match finished : appendingLoop.run.result with
  | .ok (analysis, summaries) =>
      exact ⟨analysis, summaries, rfl, Task.run_solves_equations finished⟩
  | .error problem => simp [finished, Except.isOk, Except.toBool] at succeeds

end TaintFlow
