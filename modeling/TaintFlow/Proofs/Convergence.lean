/-
Module: TaintFlow.Proofs.Convergence
Purpose: Every analysis comes to an end. However the code loops, from some number of allowed visits on
  no location is visited too often, and allowing more visits changes nothing.
Main exports: Task.withMaxVisits, Task.explore_withMaxVisits, Task.drain_settles,
  Declarations.run_converges
-/
import TaintFlow.Policy.Declarations
import TaintFlow.Proofs.Entry
import TaintFlow.Proofs.Faults
import TaintFlow.Proofs.Progress

namespace TaintFlow

/-! ### The bound on visits has no influence on a visit -/

namespace Site

variable (site : Site) (maxVisits : Nat) (frame : Frame)

/-- The same place in an analysis that allows so many visits. -/
def withMaxVisits : Site :=
  { site with context := { site.context with
      options := { site.context.options with maxVisits } } }

theorem exposeArgument_withMaxVisits :
    (site.withMaxVisits maxVisits).exposeArgument = site.exposeArgument := rfl

theorem writeArgument_withMaxVisits :
    (site.withMaxVisits maxVisits).writeArgument = site.writeArgument := rfl

theorem resolve_withMaxVisits :
    (site.withMaxVisits maxVisits).resolve = site.resolve := rfl

theorem resultTaint_withMaxVisits :
    (site.withMaxVisits maxVisits).resultTaint = site.resultTaint := rfl

theorem signed_withMaxVisits :
    (site.withMaxVisits maxVisits).signed = site.signed := rfl

theorem invoke_withMaxVisits (call : Call) :
    (site.withMaxVisits maxVisits).invoke call frame = site.invoke call frame := by
  simp only [invoke, applySummary, assumeWrites, writeMutated, exposeArgument_withMaxVisits,
    writeArgument_withMaxVisits, resolve_withMaxVisits, resultTaint_withMaxVisits, signed_withMaxVisits]
  rfl

theorem act_withMaxVisits (instruction : Instruction) :
    (site.withMaxVisits maxVisits).act frame instruction = site.act frame instruction := by
  cases instruction with
  | invoke call => simp only [act, invoke_withMaxVisits]
  | «return» kind => cases kind <;> rfl
  | _ => rfl

theorem step_withMaxVisits (instruction : Instruction) :
    (site.withMaxVisits maxVisits).step instruction frame = site.step instruction frame := by
  rw [step_eq, step_eq, act_withMaxVisits]
  rfl

end Site

namespace Task

variable (task : Task) (maxVisits : Nat) (offset : Offset) (solver : Solver)

/-- The same analysis, but with so many visits allowed. -/
def withMaxVisits : Task :=
  { task with context := { task.context with
      options := { task.context.options with maxVisits } } }

theorem explore_withMaxVisits :
    (task.withMaxVisits maxVisits).explore offset solver = task.explore offset solver := by
  have stepped (instruction : Instruction) (frame : Frame) :
      ((task.withMaxVisits maxVisits).site offset).step instruction frame =
        (task.site offset).step instruction frame :=
    (task.site offset).step_withMaxVisits maxVisits frame instruction
  simp only [explore, stepped]
  rfl

/-- A location that has not been visited too often is explored, whatever the bound is. -/
theorem visit_withMaxVisits (allowed : (solver.take offset).visitCount offset ≤ maxVisits) :
    ((task.withMaxVisits maxVisits).visit offset solver).result =
      (task.explore offset (solver.take offset)).result := by
  rw [result_visit, explore_withMaxVisits]
  exact if_neg (Nat.not_lt.2 allowed)

/-! ### Structural failures -/

/-- Exploring a location never fails because the analysis takes too long. -/
theorem explore_structural :
    Raises (fun failure => failure.fault.isStructural) (task.explore offset solver).result := by
  unfold explore
  split
  · refine raises_result_bind ?_ fun step => ?_
    · exact ((task.site offset).structural_step _ _).mapError fun _ structural => structural
    · refine raises_result_foldlM fun value target => ?_
      exact raises_flow (fun _ => rfl) offset _ fun known _ => known.structural_join step.frame
  · exact raises_error rfl

theorem begin_structural : Raises (fun failure => failure.fault.isStructural) task.begin :=
  raises_begin (fun _ => rfl) fun _ => Fault.isStructural_of_isOrdinary

/-! ### Draining comes to an end -/

variable {task} {solver} {bound : Taint}

theorem result_drain_none {budget : Nat} (nothing : solver.lowest? = none) :
    (task.drain budget solver).result = .ok solver := by
  unfold drain
  simp [nothing]

theorem result_drain_succ {budget : Nat} (lowest : solver.lowest? = some offset) :
    (task.drain (budget + 1) solver).result =
      (task.visit offset solver).result >>= fun after => (task.drain budget after).result := by
  rw [drain]
  simp [lowest]

/-- From some number of visits on, draining has one and the same outcome, which is not that it takes too
long. The induction is on what is left to do, which every visit makes less. -/
theorem drain_settles (bounded : task.Bounded bound) (enclosed : Enclosed bound solver) :
    ∃ least outcome, Raises (fun failure => failure.fault.isStructural) outcome ∧
      ∀ maxVisits budget, least ≤ maxVisits → least ≤ budget →
        ((task.withMaxVisits maxVisits).drain budget solver).result = outcome := by
  have wellFounded : WellFounded (InvImage (· < ·) (task.progress bound.ceiling)) :=
    InvImage.wf _ wellFounded_lt
  induction solver using wellFounded.induction with
  | _ solver inductionHypothesis =>
      cases next : solver.lowest? with
      | none =>
          exact ⟨0, .ok solver, raises_ok solver, fun _ _ _ _ => result_drain_none next⟩
      | some offset =>
          have pending := Solver.mem_pending_of_lowest next
          cases explored : (task.explore offset (solver.take offset)).result with
          | error failure =>
              refine ⟨(solver.take offset).visitCount offset + 1, .error failure, ?_, ?_⟩
              · exact explored ▸ task.explore_structural offset _
              · intro maxVisits budget enoughVisits enoughBudget
                obtain ⟨rest, rfl⟩ : ∃ rest, budget = rest + 1 := ⟨budget - 1, by omega⟩
                rw [result_drain_succ offset next,
                  task.visit_withMaxVisits maxVisits offset solver (by omega), explored]
                rfl
          | ok after =>
              have visits := explore_eq_ok explored
              obtain ⟨least, outcome, structural, settles⟩ :=
                inductionHypothesis after (visits.progress_lt bounded enclosed pending)
                  (bounded.keeps.visits enclosed visits)
              refine ⟨max least ((solver.take offset).visitCount offset) + 1, outcome, structural, ?_⟩
              intro maxVisits budget enoughVisits enoughBudget
              obtain ⟨rest, rfl⟩ : ∃ rest, budget = rest + 1 := ⟨budget - 1, by omega⟩
              rw [result_drain_succ offset next,
                task.visit_withMaxVisits maxVisits offset solver (by omega), explored]
              exact settles maxVisits rest (by omega) (by omega)

/-! ### A bound for all provenance -/

end Task

/-- A fact that names everything that some facts name. -/
def Taint.joinAll (facts : List Taint) : Taint :=
  facts.foldr Taint.join .unknown

theorem Taint.joinAll_encloses {facts : List Taint} {fact : Taint} (member : fact ∈ facts) :
    (joinAll facts).Encloses fact := by
  induction facts with
  | nil => cases member
  | cons head later inductionHypothesis =>
      rcases List.mem_cons.1 member with rfl | further
      · exact encloses_join_left _ _
      · exact (inductionHypothesis further).trans (encloses_join_right _ _)

namespace Task

variable {task : Task} {signature : Signature} {entry : Frame}

/-- Facts that together name all that an analysis can come across: what the method is called with, what
its instructions mention, and the templates of all summaries. -/
def stock (task : Task) (signature : Signature) : List Taint :=
  entryTaints task.context.policy task.method signature (argumentTaint task.method)
    ++ (task.body.nodes.toList.map fun (offset, node) =>
      (task.site offset).mentioned node.instruction)
    ++ task.context.summaries.entries.toList.filterMap fun (_, summary) => summary.output

theorem bounded_stock {declared : Declarations} (declares : task.context.policy = declared.policy) :
    task.Bounded (.joinAll (task.stock signature)) := by
  refine ⟨?_, ?_, ?_, ?_⟩
  · intro offset instruction code
    obtain ⟨node, found, rfl⟩ := Option.map_eq_some_iff.1 code
    apply Taint.joinAll_encloses
    have listed : (offset, node) ∈ task.body.nodes.toList :=
      Std.ExtTreeMap.mem_toList_iff_getElem?_eq_some.2 found
    refine List.mem_append_left _ (List.mem_append_right _ ?_)
    exact List.mem_map.2 ⟨(offset, node), listed, rfl⟩
  · intro frame caller className methodId summary special
    rw [declares] at special
    cases special
  · intro className methodId summary inherited
    rw [declares] at inherited
    cases inherited
  · intro key summary stored template output
    have listed : (key, summary) ∈ task.context.summaries.entries.toList :=
      Std.ExtTreeMap.mem_toList_iff_getElem?_eq_some.2 stored
    refine Or.inr (Taint.joinAll_encloses (List.mem_append_right _ ?_))
    exact List.mem_filterMap.2 ⟨(key, summary), listed, output⟩

theorem entryFrame_enclosed
    (entered : entryFrame task.context.policy task.method signature = .ok entry) :
    entry.All (Taint.joinAll (task.stock signature)).Encloses := by
  refine calledFrame_all ?_ (Taint.encloses_of_nothing rfl rfl rfl) ?_ entered
  · intro taint slot encloses
    exact (Taint.closed_encloses _).alike encloses Taint.alike_relabel
  · intro taint member
    exact Taint.joinAll_encloses (List.mem_append_left _ (List.mem_append_left _ member))

/-! ### The analysis of a method -/

/-- There is at least one instruction where a body can be entered, so that the budget of an analysis is
no less than the visits it allows. -/
theorem le_budget_of_begin {maxVisits : Nat} (begun : task.begin = .ok signature) :
    maxVisits ≤ (task.withMaxVisits maxVisits).budget := by
  obtain ⟨-, first, code⟩ := begin_eq_ok_iff.1 begun
  have some : 0 < task.body.size := by
    unfold Body.size
    rw [← Std.ExtTreeMap.length_keys]
    exact List.length_pos_of_mem (Body.mem_offsets_of_instruction code)
  have enough : maxVisits ≤ task.body.size * maxVisits := Nat.le_mul_of_pos_left maxVisits some
  exact Nat.le_succ_of_le enough

/-- The bound on visits matters only while the solver is drained, not for how an analysis begins, is
entered and ends. -/
theorem result_run_withMaxVisits (maxVisits : Nat) :
    (task.withMaxVisits maxVisits).run.result = (do
      let signature ← task.begin
      let entry ← (entryFrame task.context.policy task.method signature).mapError task.failure
      let solver ← ((task.withMaxVisits maxVisits).solve entry).result
      (task.conclude signature solver : Traced Failure (Analysis × SummaryTable)).result) :=
  result_run

/-- The analysis of a method settles, since only finitely many things are mentioned. -/
theorem run_settles {declared : Declarations} (declares : task.context.policy = declared.policy) :
    ∃ least outcome, Raises (fun failure => failure.fault.isStructural) outcome ∧
      ∀ maxVisits ≥ least, (task.withMaxVisits maxVisits).run.result = outcome := by
  cases begun : task.begin with
  | error failure =>
      refine ⟨0, .error failure, raises_error (task.begin_structural failure begun), ?_⟩
      intro maxVisits _
      rw [result_run_withMaxVisits, begun]
      rfl
  | ok signature =>
      cases entered : entryFrame task.context.policy task.method signature with
      | error fault =>
          have structural := Fault.isStructural_of_isOrdinary
            (ordinary_calledFrame _ _ _ _ fault entered)
          refine ⟨0, .error (task.failure fault), raises_error structural, ?_⟩
          intro maxVisits _
          rw [result_run_withMaxVisits, begun]
          simp only [bind, Except.bind, entered, mapError_error]
      | ok entry =>
          have bounded : task.Bounded (.joinAll (task.stock signature)) := bounded_stock declares
          have enclosed : Enclosed (.joinAll (task.stock signature)) (.start task.body.entry entry) :=
            satisfied_start (entryFrame_enclosed entered)
          obtain ⟨least, outcome, structural, settles⟩ := drain_settles bounded enclosed
          have solves (maxVisits : Nat) (enough : least ≤ maxVisits) :
              ((task.withMaxVisits maxVisits).solve entry).result = outcome :=
            settles maxVisits _ enough (enough.trans (le_budget_of_begin begun))
          cases outcome with
          | error failure =>
              refine ⟨least, .error failure, raises_error (structural failure rfl), ?_⟩
              intro maxVisits enough
              rw [result_run_withMaxVisits, begun]
              simp only [bind, Except.bind, entered, mapError_ok, solves maxVisits enough]
          | ok solver =>
              obtain ⟨analysis, summaries, concluded, -⟩ :=
                @conclude_eq_ok Failure task signature solver
              refine ⟨least, .ok (analysis, summaries), raises_ok _, ?_⟩
              intro maxVisits enough
              rw [result_run_withMaxVisits, begun]
              simp only [bind, Except.bind, entered, mapError_ok, solves maxVisits enough]
              exact concluded

end Task

/-- Under any declarations, with any summaries that are gone through in any order, the analysis of any code
converges: from some number of allowed visits on, it does not give up because of them, and what it finds, or
what is wrong with the code, does not depend on how many more are allowed. -/
theorem Declarations.run_converges (declared : Declarations) (summaries : SummaryTable)
    (arrangement : Arrangement) (options : Options) (observers : List Observer) (method : Method)
    (body : Body) :
    ∃ least outcome,
      (∀ failure, outcome = .error failure →
        ∀ offset visits, failure.fault ≠ .nonConvergent offset visits) ∧
      ∀ maxVisits ≥ least,
        (Task.run ⟨⟨declared.policy, summaries, arrangement, { options with maxVisits }, observers⟩,
          method, body⟩).result = outcome := by
  let task : Task := ⟨⟨declared.policy, summaries, arrangement, options, observers⟩, method, body⟩
  have declares : task.context.policy = declared.policy := rfl
  obtain ⟨least, outcome, structural, settles⟩ := Task.run_settles declares
  refine ⟨least, outcome, ?_, settles⟩
  intro failure failed offset visits nonConvergent
  have isStructural : failure.fault.isStructural := structural failure failed
  rw [nonConvergent] at isStructural
  cases isStructural

end TaintFlow
