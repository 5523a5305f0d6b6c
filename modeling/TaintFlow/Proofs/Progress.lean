/-
Module: TaintFlow.Proofs.Progress
Purpose: Every visit of a location is progress. It reaches a new location, or it uses up slack of a
  frame that was there, or else there is one pending location less.
Main exports: Task.Bounded, Task.Bounded.keeps, Task.progress, Task.Visits.progress_lt
-/
import Mathlib.Algebra.Order.BigOperators.Group.List
import Mathlib.Algebra.Order.Group.Nat
import Mathlib.Data.Prod.Lex
import TaintFlow.Proofs.Provenance
import TaintFlow.Proofs.Run

namespace TaintFlow

theorem Body.mem_offsets_of_instruction {body : Body} {offset : Offset} {instruction : Instruction}
    (code : body.instruction? offset = some instruction) : offset ∈ body.offsets := by
  obtain ⟨node, found, -⟩ := Option.map_eq_some_iff.1 code
  have present : offset ∈ body.nodes := by
    rw [Std.ExtTreeMap.mem_iff_isSome_getElem?, found]
    rfl
  exact Std.ExtTreeMap.mem_keys.2 present

theorem Solver.size_pending_take_lt {solver : Solver} {offset : Offset}
    (pending : offset ∈ solver.pending) : (solver.take offset).pending.size < solver.pending.size := by
  have some : 0 < solver.pending.size := by
    rw [← Std.ExtTreeSet.length_toList]
    exact List.length_pos_of_mem (Std.ExtTreeSet.mem_toList.2 pending)
  have fewer : (solver.take offset).pending.size = solver.pending.size - 1 := by
    rw [Solver.take, Std.ExtTreeSet.size_erase, if_pos (Std.ExtTreeSet.mem_iff_contains.1 pending)]
  omega

namespace Task

variable {task : Task} {bound : Taint} {solver before after : Solver} {offset target : Offset}
  {frame : Frame} {targets : List Offset}

/-! ### Analyses of bounded provenance -/

/-- Everything that the code and the summaries mention is enclosed by a bound. -/
structure Bounded (task : Task) (bound : Taint) : Prop where
  mentions : ∀ offset instruction, task.body.instruction? offset = some instruction →
    bound.Encloses ((task.site offset).mentioned instruction)
  admits : task.context.Admits bound.Encloses

/-- All facts of a solver are enclosed by a bound. -/
abbrev Enclosed (bound : Taint) (solver : Solver) : Prop :=
  Satisfied (fun _ frame => frame.All bound.Encloses) bound.Encloses solver

theorem Bounded.keeps (bounded : task.Bounded bound) :
    task.Keeps (fun _ frame => frame.All bound.Encloses) bound.Encloses := by
  apply keeps_of_closed (Taint.closed_encloses bound)
  intro offset instruction frame step code all acted
  exact Site.step_enclosed (bounded.mentions offset instruction code) bounded.admits all acted

/-! ### How much there is left to do -/

/-- What there is to do at all locations together, told from the facts before each. -/
def total (task : Task) (cost : Option Frame → Nat) (solver : Solver) : Nat :=
  (task.body.offsets.map fun offset => cost solver.frames[offset]?).sum

/-- A location without facts counts one. -/
def unreachedCost : Option Frame → Nat
  | none => 1
  | some _ => 0

/-- A location with facts counts their slack. -/
def slackCost (ceiling : Nat) : Option Frame → Nat
  | none => 0
  | some frame => frame.slack ceiling

theorem total_update_lt {cost : Option Frame → Nat} (located : target ∈ task.body.offsets)
    (less : cost (some frame) < cost solver.frames[target]?) :
    task.total cost (solver.update target frame) < task.total cost solver := by
  refine List.sum_lt_sum _ _ ?_ ⟨target, located, ?_⟩
  · intro offset _
    rw [Solver.frames_update]
    split
    next same => exact same ▸ Nat.le_of_lt less
    next => exact Nat.le_refl _
  · rw [Solver.frames_update, if_pos rfl]
    exact less

theorem total_update_eq {cost : Option Frame → Nat}
    (unchanged : cost (some frame) = cost solver.frames[target]?) :
    task.total cost (solver.update target frame) = task.total cost solver := by
  unfold total
  congr 1
  refine List.map_congr_left ?_
  intro offset _
  rw [Solver.frames_update]
  split
  next same => exact same ▸ unchanged
  next => rfl

/-- How far the frames of a solver are from their end: first the locations that are not reached, then
the slack of those that are. A location that is reached may add any slack. -/
def frontier (task : Task) (ceiling : Nat) (solver : Solver) : Nat ×ₗ Nat :=
  toLex (task.total unreachedCost solver, task.total (slackCost ceiling) solver)

/-- What is left to do: the way of the frames, and then the pending locations. -/
def progress (task : Task) (ceiling : Nat) (solver : Solver) : (Nat ×ₗ Nat) ×ₗ Nat :=
  toLex (task.frontier ceiling solver, solver.pending.size)

/-! ### Every visit is progress -/

/-- Facts that flow to a location change nothing, or bring the frames closer to their end. -/
theorem frontier_receives (enclosed : Enclosed bound before)
    (all : frame.All bound.Encloses) (located : target ∈ task.body.offsets)
    (received : Solver.Receives target frame before after) :
    after = before ∨ task.frontier bound.ceiling after < task.frontier bound.ceiling before := by
  cases received with
  | first unreached =>
      refine Or.inr (Prod.Lex.toLex_lt_toLex.2 (Or.inl (total_update_lt located ?_)))
      rw [unreached]
      exact Nat.zero_lt_one
  | changed reached met =>
      have joinedAll := (Taint.closed_encloses bound).meets (enclosed.frames _ _ reached) all met
      refine Or.inr (Prod.Lex.toLex_lt_toLex.2 (Or.inr ⟨total_update_eq ?_, ?_⟩))
      · rw [reached]
        rfl
      · apply total_update_lt located
        rw [reached]
        exact Frame.slack_lt_of_join joinedAll met
  | unchanged reached met => exact Or.inl rfl

theorem frontier_receivesAll (enclosed : Enclosed bound before)
    (all : frame.All bound.Encloses) (located : ∀ target ∈ targets, target ∈ task.body.offsets)
    (received : Solver.ReceivesAll frame targets before after) :
    after = before ∨ task.frontier bound.ceiling after < task.frontier bound.ceiling before := by
  induction received with
  | nil solver => exact Or.inl rfl
  | cons head tail inductionHypothesis =>
      have enclosedMiddle := enclosed.receives (Taint.closed_encloses bound).meets all head
      have headProgress := frontier_receives enclosed all (located _ (by simp)) head
      have tailProgress := inductionHypothesis enclosedMiddle
        fun target member => located target (List.mem_cons_of_mem _ member)
      rcases headProgress with rfl | closer
      · exact tailProgress
      · rcases tailProgress with rfl | closerStill
        · exact Or.inr closer
        · exact Or.inr (closerStill.trans closer)

theorem Visits.progress_lt (bounded : task.Bounded bound) (enclosed : Enclosed bound before)
    (pending : offset ∈ before.pending) (visits : task.Visits offset before after) :
    task.progress bound.ceiling after < task.progress bound.ceiling before := by
  obtain @⟨instruction, frame, step, code, reached, acted, landings, received⟩ := visits
  have all := enclosed.frames _ _ reached
  have taken : Enclosed bound (before.take offset) := ⟨enclosed.frames, enclosed.output⟩
  have handed := taken.giveBack bounded.keeps (bounded.keeps.returns code all acted)
  have located : ∀ target ∈ task.body.successors offset, target ∈ task.body.offsets := by
    intro target member
    obtain ⟨landing, codeThere⟩ := landings target member
    exact Body.mem_offsets_of_instruction codeThere
  have stepped : step.frame.All bound.Encloses :=
    (Site.step_enclosed (bounded.mentions offset instruction code) bounded.admits all acted).1
  rcases frontier_receivesAll handed stepped located received with rfl | closer
  · -- No frame has changed, but the location itself is not pending any more.
    exact Prod.Lex.toLex_lt_toLex.2 (Or.inr ⟨rfl, Solver.size_pending_take_lt pending⟩)
  · exact Prod.Lex.toLex_lt_toLex.2 (Or.inl closer)

end Task

end TaintFlow
