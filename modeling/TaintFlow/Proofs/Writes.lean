/-
Module: TaintFlow.Proofs.Writes
Purpose: What an analysis does to the table of summaries. Whatever is put into the table is said in the
  notices, also by an analysis that fails later on. Here every part of an analysis is gone through: up to the
  last one, none of them says anything of the kind, wherever it fails, and after the last one has put a
  summary into the table nothing can fail any more.
Main exports: Traced.Quiet, SummaryTable.Tells, Site.quiet_step, Task.quiet_solve, Task.run_tells,
  Session.summaries_analyze_of_error
-/
import TaintFlow.Proofs.InPlaceSteps
import TaintFlow.Session

namespace TaintFlow

/-! ### Computations that leave the table alone -/

namespace Traced

variable {ε ε' α β : Type} {first : Traced ε α} {next : α → Traced ε β}

/-- Nothing is put into the table, whether the computation succeeds or not. -/
def Quiet (computation : Traced ε α) : Prop :=
  ∀ notice ∈ computation.notices, notice.write? = none

theorem quiet_giveAll {notices : List Notice} (quiet : ∀ notice ∈ notices, notice.write? = none) :
    (giveAll notices : Traced ε Unit).Quiet :=
  quiet

theorem quiet_give {notice : Notice} (quiet : notice.write? = none) : (give notice : Traced ε Unit).Quiet := by
  intro said member
  rw [List.mem_singleton.1 member]
  exact quiet

theorem quiet_giveIf {notice : Notice} (wanted : Bool) (quiet : notice.write? = none) :
    (giveIf wanted notice : Traced ε Unit).Quiet := by
  cases wanted with
  | true => exact quiet_give quiet
  | false => exact quiet_giveAll (by simp)

theorem quiet_silently (result : Except ε α) : (silently result).Quiet := by
  intro said member
  cases member

theorem quiet_pure (value : α) : (pure value : Traced ε α).Quiet :=
  quiet_silently (.ok value)

theorem quiet_fail (problem : ε) : (fail problem : Traced ε α).Quiet :=
  quiet_silently (.error problem)

theorem Quiet.mapError (quiet : first.Quiet) (widen : ε → ε') : (first.mapError widen).Quiet :=
  quiet

theorem Quiet.bind (head : first.Quiet) (tail : ∀ value, (next value).Quiet) : (first >>= next).Quiet := by
  rcases first with ⟨notices, problem | value⟩
  · exact head
  · exact List.forall_mem_append.2 ⟨head, tail value⟩

theorem quiet_foldlM {step : β → α → Traced ε β} (each : ∀ value item, (step value item).Quiet)
    (start : β) (items : List α) : (items.foldlM step start).Quiet := by
  induction items generalizing start with
  | nil => exact quiet_pure start
  | cons item later inductionHypothesis =>
      rw [List.foldlM_cons]
      exact (each start item).bind inductionHypothesis

end Traced

open Traced

/-! ### Questions about classes and summaries -/

variable {ε : Type}

theorem Hierarchy.quiet_isSubtypeOfAny (hierarchy : Hierarchy) (className : String)
    (supertypes : List String) : (hierarchy.isSubtypeOfAny className supertypes : Traced ε Bool).Quiet := by
  induction supertypes with
  | nil => exact quiet_pure false
  | cons supertype others inductionHypothesis =>
      unfold isSubtypeOfAny
      split
      · exact quiet_pure true
      · exact inductionHypothesis
      · exact (quiet_give rfl).bind fun _ => inductionHypothesis

theorem SummaryTable.quiet_inherited? (table : SummaryTable) (arrangement : Arrangement)
    (hierarchy : Hierarchy) (className methodId : String) :
    (table.inherited? arrangement hierarchy className methodId : Traced ε (Option Summary)).Quiet := by
  unfold inherited?
  induction table.candidates arrangement className methodId with
  | nil => exact quiet_pure none
  | cons candidate others inductionHypothesis =>
      refine (hierarchy.quiet_isSubtypeOfAny className [candidate.1]).bind fun below => ?_
      cases below with
      | true => exact quiet_pure _
      | false => exact inductionHypothesis

theorem Context.quiet_notify (context : Context) (event : Event) :
    (context.notify event : Traced ε Unit).Quiet := by
  refine quiet_giveAll fun notice said => ?_
  rcases List.mem_flatMap.1 said with ⟨observer, -, told⟩
  cases answered : observer.respond event <;> simp only [answered] at told <;> grind [Notice.write?]

/-! ### Instructions -/

namespace Site

variable (site : Site) (call : Call) (signature : Signature) (summary : Option Summary) (frame : Frame)

theorem quiet_writeThrough (taint : Taint) : (site.writeThrough frame taint : Traced ε Frame).Quiet := by
  unfold writeThrough
  dsimp only
  split
  · exact (quiet_giveIf _ rfl).bind fun _ => quiet_pure _
  · exact quiet_pure _

theorem quiet_overwrite (index : Nat) (taint : Taint) : (site.overwrite frame index taint).Quiet :=
  (site.quiet_writeThrough frame taint).bind fun _ => quiet_silently _

theorem quiet_exposeArgument (index : Nat) : (site.exposeArgument frame index).Quiet :=
  (quiet_silently _).bind fun _ => site.quiet_overwrite frame index _

theorem quiet_assumeWrites : (site.assumeWrites summary signature frame).Quiet := by
  unfold assumeWrites
  split
  · exact quiet_pure frame
  · exact quiet_foldlM site.quiet_exposeArgument frame _

theorem quiet_writeArgument (result : Taint) (index : Nat) :
    (site.writeArgument result frame index).Quiet := by
  unfold writeArgument
  split
  · exact (quiet_silently _).bind fun _ => site.quiet_overwrite frame index _
  · exact (quiet_give rfl).bind fun _ => quiet_pure frame

theorem quiet_writeMutated (result : Taint) : (site.writeMutated summary result frame).Quiet := by
  unfold writeMutated
  split
  · exact quiet_foldlM (fun value => site.quiet_writeArgument value result) frame _
  · exact quiet_pure frame

theorem quiet_recorded (className : String) :
    (site.recorded frame call className : Traced ε (Option Summary)).Quiet := by
  unfold recorded
  dsimp only
  split
  · exact quiet_pure _
  · split
    · exact quiet_pure _
    · split
      · exact quiet_pure _
      · split
        · exact quiet_pure _
        · exact SummaryTable.quiet_inherited? _ _ _ _ _

theorem quiet_resolve : (site.resolve frame call signature).Quiet := by
  refine Quiet.bind (quiet_silently _) fun className => ?_
  refine (site.quiet_recorded call frame className).bind fun found => ?_
  refine (quiet_silently _).bind fun credited => ?_
  exact (quiet_giveIf _ rfl).bind fun _ => quiet_pure _

theorem quiet_applySummary (receiver : Option Taint) :
    (site.applySummary call signature receiver summary frame).Quiet := by
  refine Quiet.bind (quiet_silently _) fun unsigned => ?_
  refine (site.quiet_assumeWrites signature summary frame).bind fun assumed => ?_
  refine (site.quiet_writeMutated summary assumed _).bind fun written => ?_
  refine Quiet.bind (quiet_silently _) fun object => ?_
  refine Quiet.bind (quiet_silently _) fun refreshed => ?_
  refine Quiet.bind (quiet_silently _) fun rest => ?_
  exact (site.context.quiet_notify _).bind fun _ => quiet_pure _

theorem quiet_invoke : (site.invoke call frame).Quiet := by
  refine (quiet_giveIf _ rfl).bind fun _ => ?_
  refine Quiet.bind (quiet_silently _) fun signature => ?_
  refine Quiet.bind (quiet_silently _) fun receiver => ?_
  refine (site.quiet_resolve call signature frame).bind fun summary => ?_
  exact site.quiet_applySummary call signature summary frame receiver

theorem quiet_arrayStore (kind : Kind) : (site.arrayStore kind frame).Quiet := by
  refine Quiet.bind (quiet_silently _) fun (_, withoutValue) => ?_
  refine Quiet.bind (quiet_silently _) fun (_, withoutIndex) => ?_
  refine Quiet.bind (quiet_silently _) fun (array, rest) => ?_
  refine (site.quiet_writeThrough rest _).bind fun written => ?_
  split
  · split
    · exact quiet_pure _
    · exact quiet_pure _
  · exact quiet_pure _

/-- No instruction puts anything into the table. -/
theorem quiet_act (instruction : Instruction) : (site.act frame instruction).Quiet := by
  have alone {moved : Except Fault Frame} :
      (do return ⟨← moved, none⟩ : Traced Fault Step).Quiet :=
    Quiet.bind (quiet_silently _) fun _ => quiet_pure _
  cases instruction with
  | constant literal => exact quiet_pure _
  | getField field isStatic =>
      refine Quiet.bind ?_ fun _ => quiet_pure _
      refine Quiet.bind (quiet_silently _) fun _ => ?_
      exact (site.context.quiet_notify _).bind fun _ => quiet_pure _
  | putField field isStatic =>
      refine Quiet.bind ?_ fun _ => quiet_pure _
      refine Quiet.bind (quiet_silently _) fun _ => ?_
      refine Quiet.bind (quiet_silently _) fun _ => ?_
      exact (site.context.quiet_notify _).bind fun _ => quiet_pure _
  | load index kind =>
      refine Quiet.bind ?_ fun _ => quiet_pure _
      refine Quiet.bind (quiet_silently _) fun _ => ?_
      exact (site.context.quiet_notify _).bind fun _ => quiet_pure _
  | new className => exact quiet_pure _
  | arrayStore kind => exact (site.quiet_arrayStore frame kind).bind fun _ => quiet_pure _
  | «return» kind =>
      cases kind with
      | none => exact quiet_pure _
      | some kind =>
          refine Quiet.bind (quiet_silently _) fun _ => ?_
          refine Quiet.bind (quiet_silently _) fun _ => ?_
          exact (site.context.quiet_notify _).bind fun _ => quiet_pure _
  | invoke call => exact (site.quiet_invoke call frame).bind fun _ => quiet_pure _
  | _ => exact alone

theorem quiet_step (instruction : Instruction) : (site.step instruction frame).Quiet := by
  rw [step_eq]
  exact (quiet_giveIf _ rfl).bind fun _ => site.quiet_act frame instruction

end Site

/-! ### The solver -/

namespace Task

variable (task : Task)

theorem quiet_enqueue (solver : Solver) (target : Offset) (frame : Frame) :
    (enqueue solver target frame).Quiet :=
  (quiet_giveIf _ rfl).bind fun _ => quiet_pure _

theorem quiet_flow (offset : Offset) (instruction : Instruction) (frame : Frame) (solver : Solver)
    (target : Offset) : (task.flow offset instruction frame solver target).Quiet := by
  unfold flow
  split
  · exact quiet_fail _
  · split
    · exact quiet_enqueue solver target frame
    · refine (quiet_silently _).bind fun (joined, changed) => ?_
      cases changed with
      | true => exact quiet_enqueue solver target joined
      | false => exact quiet_pure solver

theorem quiet_visit (offset : Offset) (solver : Solver) : (task.visit offset solver).Quiet := by
  refine (quiet_give rfl).bind fun _ => ?_
  dsimp only
  split
  · exact quiet_fail _
  · unfold explore
    split
    · refine (Quiet.mapError (Site.quiet_step _ _ _) _).bind fun step => ?_
      exact quiet_foldlM (task.quiet_flow offset _ step.frame) _ _
    · exact quiet_fail _

theorem quiet_drain (budget : Nat) (solver : Solver) : (task.drain budget solver).Quiet := by
  induction budget generalizing solver with
  | zero =>
      unfold drain
      split
      · exact quiet_pure solver
      · exact quiet_fail _
  | succ budget inductionHypothesis =>
      unfold drain
      split
      · exact quiet_pure solver
      · exact (task.quiet_visit _ solver).bind inductionHypothesis

/-- However long the solver works, and wherever it stops, it puts nothing into the table. -/
theorem quiet_solve (frame : Frame) : (task.solve frame).Quiet :=
  task.quiet_drain _ _

theorem quiet_overrides : (task.overrides : Traced ε Bool).Quiet := by
  unfold overrides
  dsimp only
  split
  · exact quiet_pure true
  · exact (SummaryTable.quiet_inherited? _ _ _ _ _).bind fun _ => quiet_pure _

theorem quiet_summarize (signature : Signature) (output : Option Taint) :
    (task.summarize signature output : Traced ε (Option Summary)).Quiet := by
  unfold summarize
  split
  · exact quiet_pure none
  · dsimp only
    split
    · exact quiet_pure _
    · refine task.quiet_overrides.bind fun overrides => ?_
      cases overrides with
      | true => exact quiet_pure _
      | false => exact (quiet_give rfl).bind fun _ => quiet_pure none

end Task

/-! ### What becomes of the table -/

namespace SummaryTable

variable {α β : Type} {table : SummaryTable} {left : α → SummaryTable} {left' : β → SummaryTable}
  {first : Traced ε α} {next : α → Traced ε β}

theorem replay_append (table : SummaryTable) (earlier later : List Notice) :
    table.replay (earlier ++ later) = (table.replay earlier).replay later := by
  simp [replay]

theorem replay_of_quiet (table : SummaryTable) (quiet : first.Quiet) :
    table.replay first.notices = table := by
  rw [replay, List.filterMap_eq_nil_iff.2 quiet, List.foldl_nil]

/-- What the computation has put into the table leaves there what its result says, and nothing new where it
fails. -/
def Tells (table : SummaryTable) (left : α → SummaryTable) (computation : Traced ε α) : Prop :=
  table.replay computation.notices =
    match computation.result with
    | .ok value => left value
    | .error _ => table

theorem Tells.after_quiet (quiet : first.Quiet) (tells : ∀ value, table.Tells left' (next value)) :
    table.Tells left' (first >>= next) := by
  have before := table.replay_of_quiet quiet
  rcases first with ⟨notices, problem | value⟩
  · exact before
  · have after : table.replay (notices ++ (next value).notices) = table.replay (next value).notices := by
      rw [replay_append, before]
    exact after.trans (tells value)

/-- What cannot fail any more need not be undone. -/
theorem Tells.then_quiet (tells : table.Tells left first) (quiet : ∀ value, (next value).Quiet)
    (ends : ∀ value, ∃ last, (next value).result = .ok last ∧ left' last = left value) :
    table.Tells left' (first >>= next) := by
  rcases first with ⟨notices, problem | value⟩
  · exact tells
  · rcases ends value with ⟨last, ended, same⟩
    have before : table.replay notices = left value := tells
    have after : table.replay (notices ++ (next value).notices) = left' last := by
      rw [replay_append, before, replay_of_quiet _ (quiet value), same]
    simpa [Tells, bind, ended] using after

end SummaryTable

theorem Task.offer_tells (task : Task) (summary : Option Summary) :
    task.context.summaries.Tells Prod.fst
      (task.offer summary : Traced ε (SummaryTable × Option Commit)) := by
  cases summary with
  | none => rfl
  | some summary =>
      have offered : task.context.summaries.Tells Prod.fst
          (task.context.summaries.offer task.method.key summary : Traced ε (SummaryTable × Commit)) := by
        unfold SummaryTable.Tells
        simpa [SummaryTable.offer, giveAll, bind, pure] using
          task.context.summaries.replay_commit task.method.key summary
      exact offered.then_quiet (fun _ => quiet_pure _) fun (summaries, commit) => ⟨_, rfl, rfl⟩

/-- The table that an analysis succeeds with is what it has made of the table, and an analysis that fails has
made nothing of it. -/
theorem Task.run_tells (task : Task) : task.context.summaries.Tells Prod.snd task.run := by
  refine SummaryTable.Tells.after_quiet (quiet_silently _) fun signature => ?_
  refine SummaryTable.Tells.after_quiet (quiet_silently _) fun frame => ?_
  refine SummaryTable.Tells.after_quiet (quiet_give rfl) fun _ => ?_
  refine SummaryTable.Tells.after_quiet (task.quiet_solve frame) fun solver => ?_
  refine SummaryTable.Tells.after_quiet (task.context.quiet_notify _) fun _ => ?_
  refine SummaryTable.Tells.after_quiet (task.quiet_summarize signature solver.output) fun summary => ?_
  refine (task.offer_tells summary).then_quiet ?_ ?_
  · intro offered
    exact (quiet_give rfl).bind fun _ => quiet_pure _
  · intro offered
    exact ⟨_, rfl, rfl⟩

/-! ### Sessions -/

namespace Session

variable {session : Session} {code : MethodCode}

theorem summaries_analyze_of_ok {analysis : Analysis} {summaries : SummaryTable}
    (finished : (session.task code).run.result = .ok (analysis, summaries)) :
    (session.analyze code).1.summaries = summaries := by
  have tells := (session.task code).run_tells
  rw [SummaryTable.Tells, finished] at tells
  exact tells

/-- An analysis that fails leaves the table of the session as it was. -/
theorem summaries_analyze_of_error {failure : Failure}
    (failed : (session.task code).run.result = .error failure) :
    (session.analyze code).1.summaries = session.summaries := by
  have tells := (session.task code).run_tells
  rw [SummaryTable.Tells, failed] at tells
  exact tells

end Session

end TaintFlow
