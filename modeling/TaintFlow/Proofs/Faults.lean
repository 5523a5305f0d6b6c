/-
Module: TaintFlow.Proofs.Faults
Purpose: Which faults instructions end in. All of them can find too few words, a local that is not there
  or a descriptor that cannot be read; a load can also find a local that is not bound to itself; and
  no instruction by itself reports that the analysis does not converge. What a run adds to that is
  an unknown location and frames that do not fit.
Main exports: Fault.isStructural, Fault.isOrdinary, Ordinary, Site.raises_step, Site.structural_step,
  Task.raises_begin, Task.raises_flow, Task.raises_run
-/
import TaintFlow.Proofs.Descriptors
import TaintFlow.Proofs.Run

namespace TaintFlow

/-- The fault is one of the code, or a breakdown over it, and not that the analysis takes too long. -/
def Fault.isStructural : Fault → Bool
  | nonConvergent _ _ => false
  | _ => true

/-- The fault is one that any instruction may find: words or locals that are missing, or a descriptor
that cannot be read. -/
def Fault.isOrdinary : Fault → Bool
  | stackUnderflow _ _ | invalidSlot _ _ | invalidDescriptor _ _ | breakdown _ => true
  | _ => false

theorem Fault.isStructural_of_isOrdinary {fault : Fault} (ordinary : fault.isOrdinary) :
    fault.isStructural := by
  cases fault with
  | nonConvergent offset visits => cases ordinary
  | _ => rfl

/-- If the computation fails, then with an ordinary fault. -/
abbrev Ordinary {α : Type} (computation : Except Fault α) : Prop :=
  Raises (fun fault => fault.isOrdinary) computation

/-! ### Frames -/

namespace Frame

variable (frame : Frame)

theorem ordinary_getLocal (slot : Nat) : Ordinary (frame.getLocal slot) := by
  unfold getLocal
  split
  · exact raises_ok _
  · exact raises_error rfl

theorem ordinary_setLocal (slot : Nat) (taint : Taint) : Ordinary (frame.setLocal slot taint) := by
  unfold setLocal
  split
  · exact raises_ok _
  · exact raises_error rfl

theorem isOrdinary_outOfStack (index : Nat) : (frame.outOfStack index).isOrdinary := by
  unfold outOfStack
  split <;> rfl

theorem ordinary_peek (index : Nat) : Ordinary (frame.peek index) := by
  unfold peek
  split
  · exact raises_ok _
  · exact raises_error (frame.isOrdinary_outOfStack index)

theorem ordinary_poke (index : Nat) (taint : Taint) : Ordinary (frame.poke index taint) := by
  unfold poke
  split
  · exact raises_ok _
  · exact raises_error (frame.isOrdinary_outOfStack index)

theorem ordinary_popMany (count : Nat) : Ordinary (frame.popMany count) := by
  unfold popMany
  split
  · exact raises_ok _
  · exact raises_error rfl

theorem ordinary_pop : Ordinary frame.pop := by
  unfold pop
  split
  · exact raises_ok _
  · exact raises_error rfl

theorem structural_join (other : Frame) :
    Raises (fun fault => fault.isStructural) (frame.join other) := by
  rw [join_eq]
  split
  · exact raises_error rfl
  · split
    · exact raises_error rfl
    · exact raises_ok _

theorem ordinary_storeWords (index words : Nat) : Ordinary (frame.storeWords index words) := by
  induction words generalizing frame index with
  | zero => exact raises_ok frame
  | succ words inductionHypothesis =>
      exact frame.ordinary_pop.bind fun (_, rest) =>
        (rest.ordinary_setLocal _ _).bind fun stored => inductionHypothesis stored (index + 1)

theorem ordinary_shuffle (shuffle : Shuffle) : Ordinary (frame.shuffle shuffle) := by
  cases shuffle with
  | pop => exact frame.ordinary_pop.bind fun _ => raises_ok _
  | pop2 => exact (frame.ordinary_popMany 2).bind fun _ => raises_ok _
  | dup => exact (frame.ordinary_peek 0).bind fun _ => raises_ok _
  | dupX1 =>
      exact frame.ordinary_pop.bind fun (_, rest) => rest.ordinary_pop.bind fun _ => raises_ok _
  | dup2 =>
      exact (frame.ordinary_peek 0).bind fun _ =>
        (frame.ordinary_peek 1).bind fun _ => raises_ok _
  | swap =>
      exact frame.ordinary_pop.bind fun (_, rest) => rest.ordinary_pop.bind fun _ => raises_ok _

theorem ordinary_arrayLoad (words : Nat) : Ordinary (frame.arrayLoad words) :=
  frame.ordinary_pop.bind fun (_, rest) => rest.ordinary_pop.bind fun _ => raises_ok _

theorem ordinary_concatTop (operands : Nat) : Ordinary (frame.concatTop operands) :=
  (frame.ordinary_popMany operands).bind fun _ => raises_ok _

theorem ordinary_replaceTop (consumed produced : Nat) :
    Ordinary (frame.replaceTop consumed produced) :=
  (frame.ordinary_popMany consumed).bind fun _ => raises_ok _

theorem ordinary_bindLocals (slot : Nat) (taints : List Taint) :
    Ordinary (frame.bindLocals slot taints) := by
  induction taints generalizing frame slot with
  | nil => exact raises_ok frame
  | cons taint later inductionHypothesis =>
      exact (frame.ordinary_setLocal _ _).bind fun bound => inductionHypothesis bound (slot + 1)

theorem ordinary_gather (indices : List Nat) : Ordinary (frame.gather indices) :=
  Raises.foldlM fun _ index => (frame.ordinary_peek index).bind fun _ => raises_ok _

theorem ordinary_refreshDuplicate (consumed : Nat) (receiver : Option Taint) :
    Ordinary (frame.refreshDuplicate consumed receiver) := by
  unfold refreshDuplicate
  split
  · split
    · exact (frame.ordinary_peek _).bind fun _ => frame.ordinary_poke _ _
    · exact raises_ok _
  · exact raises_ok _

/-! Loading a local is the one move that looks at what a local is bound to. -/

section Loads

variable {frame} {allowed : Fault → Prop} (ordinary : ∀ fault, fault.isOrdinary → allowed fault)
  (mismatched : ∀ slot taint, frame.locals[slot]? = some taint → taint.slot ≠ some slot →
    allowed (.aliasMismatch slot taint.slot))

include ordinary mismatched

theorem raises_getBound (slot : Nat) : Raises allowed (frame.getBound slot) := by
  intro fault failed
  unfold getBound at failed
  cases got : frame.getLocal slot with
  | error problem =>
      rw [got] at failed
      cases failed
      exact ordinary _ (frame.ordinary_getLocal slot _ got)
  | ok taint =>
      simp only [got, bind, Except.bind] at failed
      split at failed
      next => cases failed
      next differs =>
        cases failed
        exact mismatched slot taint (getLocal_eq_ok_iff.1 got) differs

theorem raises_loadWords (index words : Nat) : Raises allowed (frame.loadWords index words) := by
  induction words generalizing frame with
  | zero => exact raises_ok frame
  | succ words inductionHypothesis =>
      refine (raises_getBound ordinary mismatched _).bind fun taint => ?_
      exact inductionHypothesis mismatched

end Loads

end Frame

/-! ### Calls -/

theorem Signature.ordinary_parse (descriptor : String) :
    Ordinary (Signature.parse descriptor) := by
  refine (raises_parse descriptor).imp ?_
  rintro _ ⟨flaw, rfl⟩
  rfl

theorem ordinary_calledFrame (policy : Policy) (method : Method) (signature : Signature)
    (argument : String → Nat → Taint) : Ordinary (calledFrame policy method signature argument) :=
  Frame.ordinary_bindLocals _ _ _

theorem Taint.ordinary_resolved (template : Taint) (frame : Frame) :
    Ordinary (template.resolved frame) := by
  unfold Taint.resolved
  split
  · refine (frame.ordinary_gather _).bind fun arguments => ?_
    split
    · exact raises_ok _
    · exact raises_ok _
  · exact raises_ok _

theorem Taint.ordinary_instantiate (template : Taint) (location : Location) (frame : Frame) :
    Ordinary (template.instantiate location frame) :=
  (template.ordinary_resolved frame).bind fun _ => raises_ok _

theorem Summary.ordinary_creditReplacement (summary : Summary) (frame : Frame)
    (className methodName : String) :
    Ordinary (summary.creditReplacement frame className methodName) := by
  unfold Summary.creditReplacement
  split
  · refine (frame.ordinary_peek 1).bind fun replaced => ?_
    split
    · exact raises_ok _
    · exact raises_ok _
  · exact raises_ok _

namespace Call

variable (call : Call) (signature : Signature) (frame : Frame)

theorem ordinary_calleeClass : Ordinary (call.calleeClass signature frame) := by
  unfold calleeClass
  split
  · exact raises_ok _
  · exact (frame.ordinary_peek _).bind fun _ => raises_ok _

theorem ordinary_constructed : Ordinary (call.constructed signature frame) := by
  unfold constructed
  split
  · rw [map_eq_pure_bind]
    exact (frame.ordinary_peek _).bind fun _ => raises_ok _
  · exact raises_ok _

theorem ordinary_returnedObject (summary : Option Summary) (result : Taint) :
    Ordinary (call.returnedObject signature summary frame result) := by
  unfold returnedObject
  dsimp only
  split
  · exact (frame.ordinary_peek _).bind fun _ => raises_ok _
  · exact raises_ok _

end Call

namespace Site

variable (site : Site) (call : Call) (signature : Signature) (summary : Option Summary) (frame : Frame)

theorem ordinary_resultTaint : Ordinary (site.resultTaint frame summary) := by
  unfold resultTaint
  split
  · exact Taint.ordinary_instantiate _ _ _
  · exact raises_ok _

theorem ordinary_overwrite (index : Nat) (taint : Taint) :
    Ordinary (site.overwrite frame index taint).result := by
  refine raises_result_bind ?_ fun written => written.ordinary_poke _ _
  rw [result_writeThrough]
  exact raises_ok _

theorem ordinary_exposeArgument (index : Nat) :
    Ordinary (site.exposeArgument frame index).result :=
  raises_result_bind (frame.ordinary_peek index) fun _ => site.ordinary_overwrite frame _ _

theorem ordinary_assumeWrites :
    Ordinary (site.assumeWrites summary signature frame).result := by
  unfold assumeWrites
  split
  · exact raises_ok _
  · exact raises_result_foldlM fun value index => site.ordinary_exposeArgument value index

theorem ordinary_writeArgument (result : Taint) (index : Nat) :
    Ordinary (site.writeArgument result frame index).result := by
  unfold writeArgument
  split
  · exact raises_result_bind (frame.ordinary_peek index) fun _ =>
      site.ordinary_overwrite frame _ _
  · exact raises_ok _

theorem ordinary_writeMutated (result : Taint) :
    Ordinary (site.writeMutated summary result frame).result := by
  unfold writeMutated
  split
  · exact raises_result_foldlM fun value index => site.ordinary_writeArgument value result index
  · exact raises_ok _

theorem ordinary_applySummary (receiver : Option Taint) :
    Ordinary (site.applySummary call signature receiver summary frame).result := by
  refine raises_result_bind (site.ordinary_resultTaint summary frame) fun unsigned => ?_
  refine raises_result_bind (site.ordinary_assumeWrites signature summary frame) fun assumed => ?_
  refine raises_result_bind (site.ordinary_writeMutated summary assumed _) fun written => ?_
  refine raises_result_bind (call.ordinary_returnedObject signature written summary _)
    fun object => ?_
  refine raises_result_bind (written.ordinary_refreshDuplicate _ receiver) fun refreshed => ?_
  exact raises_result_bind (refreshed.ordinary_popMany _) fun _ => raises_ok _

theorem ordinary_resolve : Ordinary (site.resolve frame call signature).result := by
  refine raises_result_bind (call.ordinary_calleeClass signature frame) fun className => ?_
  refine raises_result_bind ?_ fun found => ?_
  · rw [result_recorded]
    exact raises_ok _
  · refine raises_result_bind ?_ fun credited => raises_ok _
    cases found with
    | none => exact raises_ok _
    | some summary =>
        rw [Traced.result_silently, Option.mapM_some, map_eq_pure_bind]
        exact (summary.ordinary_creditReplacement frame className call.name).bind
          fun _ => raises_ok _

theorem ordinary_invoke : Ordinary (site.invoke call frame).result := by
  refine raises_result_bind (raises_ok _) fun _ => ?_
  refine raises_result_bind (Signature.ordinary_parse _) fun signature => ?_
  refine raises_result_bind (call.ordinary_constructed signature frame) fun receiver => ?_
  refine raises_result_bind (site.ordinary_resolve call signature frame) fun summary => ?_
  exact site.ordinary_applySummary call signature summary frame receiver

theorem ordinary_arrayStore (kind : Kind) : Ordinary (site.arrayStore kind frame).result := by
  refine raises_result_bind (frame.ordinary_popMany _) fun (_, withoutValue) => ?_
  refine raises_result_bind withoutValue.ordinary_pop fun (_, withoutIndex) => ?_
  refine raises_result_bind withoutIndex.ordinary_pop fun (array, rest) => ?_
  refine raises_result_bind ?_ fun written => ?_
  · rw [result_writeThrough]
    exact raises_ok _
  · split
    · split
      · exact raises_ok _
      · exact raises_ok _
    · exact raises_ok _

/-! ### One step -/

section Steps

variable {site} {frame} {allowed : Fault → Prop} (ordinary : ∀ fault, fault.isOrdinary → allowed fault)
  (mismatched : ∀ slot taint, frame.locals[slot]? = some taint → taint.slot ≠ some slot →
    allowed (.aliasMismatch slot taint.slot))

include ordinary mismatched

/-- Apart from ordinary faults, an instruction ends at most in the one that a local is not bound to
itself. -/
theorem raises_step (instruction : Instruction) :
    Raises allowed (site.step instruction frame).result := by
  have only {α : Type} {computation : Except Fault α} (raises : Ordinary computation) :
      Raises allowed computation :=
    raises.imp ordinary
  rw [step_eq]
  refine raises_result_bind (raises_ok _) fun _ => ?_
  cases instruction with
  | constant literal => exact raises_ok _
  | getField field isStatic =>
      refine raises_result_bind ?_ fun _ => raises_ok _
      exact raises_result_bind (only (frame.ordinary_popMany _)) fun _ => raises_ok _
  | putField field isStatic =>
      refine raises_result_bind ?_ fun _ => raises_ok _
      refine raises_result_bind (only (frame.ordinary_peek 0)) fun _ => ?_
      exact raises_result_bind (only (frame.ordinary_popMany _)) fun _ => raises_ok _
  | load index kind =>
      refine raises_result_bind ?_ fun _ => raises_ok _
      exact raises_result_bind (Frame.raises_loadWords ordinary mismatched _ _) fun _ => raises_ok _
  | store index kind =>
      exact raises_result_bind (only (frame.ordinary_storeWords _ _)) fun _ => raises_ok _
  | new className => exact raises_ok _
  | newArray dimensions =>
      refine raises_result_bind ?_ fun _ => raises_ok _
      exact (only (frame.ordinary_popMany _)).bind fun _ => raises_ok _
  | arrayStore kind =>
      exact raises_result_bind (only (site.ordinary_arrayStore frame kind)) fun _ => raises_ok _
  | arrayLoad kind =>
      exact raises_result_bind (only (frame.ordinary_arrayLoad _)) fun _ => raises_ok _
  | checkCast className =>
      refine raises_result_bind ?_ fun _ => raises_ok _
      unfold checkCast
      split
      · exact (only frame.ordinary_pop).bind fun _ => raises_ok _
      · exact raises_ok _
  | «return» kind =>
      cases kind with
      | none => exact raises_ok _
      | some kind =>
          refine raises_result_bind (only (frame.ordinary_peek 0)) fun _ => ?_
          exact raises_result_bind (only (frame.ordinary_popMany _)) fun _ => raises_ok _
  | invoke call =>
      exact raises_result_bind (only (site.ordinary_invoke call frame)) fun _ => raises_ok _
  | concat operands =>
      exact raises_result_bind (only (frame.ordinary_concatTop _)) fun _ => raises_ok _
  | stack shuffle =>
      exact raises_result_bind (only (frame.ordinary_shuffle _)) fun _ => raises_ok _
  | other consumed produced =>
      exact raises_result_bind (only (frame.ordinary_replaceTop _ _)) fun _ => raises_ok _

end Steps

/-- No instruction ends in a fault that is not structural. -/
theorem structural_step (instruction : Instruction) :
    Raises (fun fault => fault.isStructural) (site.step instruction frame).result :=
  raises_step (fun _ => Fault.isStructural_of_isOrdinary) (fun _ _ _ _ => rfl) instruction

end Site

/-! ### Failures -/

namespace Task

variable {task : Task} {allowed : Fault → Prop}
  (unknown : ∀ offset, allowed (.unknownLocation offset))

include unknown

theorem raises_begin (ordinary : ∀ fault, fault.isOrdinary → allowed fault) :
    Raises (fun failure => allowed failure.fault) task.begin := by
  unfold begin
  refine ((Signature.ordinary_parse _).mapError fun _ => ?_).bind fun _ => ?_
  · exact ordinary _
  split
  · exact raises_ok _
  · exact raises_error (unknown _)

/-- Facts that flow to a location fail only to meet those that are there. -/
theorem raises_flow {solver : Solver} {frame : Frame} {target : Offset} (offset : Offset)
    (instruction : Instruction)
    (meets : ∀ known, solver.frames[target]? = some known → Raises allowed (known.join frame)) :
    Raises (fun failure => allowed failure.fault)
      (task.flow offset instruction frame solver target).result := by
  unfold flow
  split
  next => exact raises_error (unknown target)
  next =>
    split
    next => exact raises_ok _
    next known reached =>
      refine raises_result_bind ?_ fun (joined, changed) => ?_
      · exact (meets known reached).mapError fun _ => id
      · cases changed
        · exact raises_ok _
        · exact raises_ok _

/-- An analysis that begins and is entered fails only while the solver is at work. -/
theorem raises_run (ordinary : ∀ fault, fault.isOrdinary → allowed fault)
    (solves : ∀ signature entry, entryFrame task.context.policy task.method signature = .ok entry →
      Raises (fun failure => allowed failure.fault) (task.solve entry).result) :
    Raises (fun failure => allowed failure.fault) task.run.result := by
  rw [result_run]
  refine (raises_begin unknown ordinary).bind fun signature => ?_
  refine Raises.bind_of_eq_ok ?_ ?_
  · exact (ordinary_calledFrame _ _ _ _).mapError fun _ => ordinary _
  · intro entry entered
    refine (solves signature entry (mapError_eq_ok_iff.1 entered)).bind fun solver => ?_
    rw [result_conclude]
    exact raises_ok _

end Task

end TaintFlow
