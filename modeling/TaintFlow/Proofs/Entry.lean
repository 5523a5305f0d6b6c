/-
Module: TaintFlow.Proofs.Entry
Purpose: The facts that hold when a method is called, compared for two ways of calling it: if what is
  known of each argument is related, so are the frames on entry.
Main exports: argumentIndices, forall_mem_entryTaints, Frame.stack_bindLocals, calledFrame_related,
  calledFrame_all
-/
import TaintFlow.Analysis
import TaintFlow.Proofs.Cells
import TaintFlow.Proofs.Results

namespace TaintFlow

/-- The stack indices of the arguments through which taint can come into a method: that of its
receiver, and those of the parameters whose type is not safe. -/
def argumentIndices (policy : Policy) (method : Method) (signature : Signature) : List Nat :=
  (if method.isStatic then [] else [signature.parameterWords])
    ++ (signature.stackIndices.filter fun (_, type) => !policy.isSafe type).map (·.1)

variable {policy : Policy} {method : Method} {signature : Signature}
variable {argument argument' : String → Nat → Taint} {relation : Taint → Taint → Prop}

/-! ### The words that a method is called with -/

theorem forall₂_parameterTaints {number : Nat} {indices : List (Nat × String)}
    (safe : relation .safe .safe)
    (arguments : ∀ name, ∀ index ∈ (indices.filter fun (_, type) => !policy.isSafe type).map (·.1),
      relation (argument name index) (argument' name index)) :
    List.Forall₂ relation (parameterTaints policy argument number indices)
      (parameterTaints policy argument' number indices) := by
  induction indices generalizing number with
  | nil => exact .nil
  | cons head later inductionHypothesis =>
      obtain ⟨index, type⟩ := head
      refine List.rel_append ?_ (inductionHypothesis ?_)
      · refine forall₂_replicate ?_ _
        cases isSafe : policy.isSafe type with
        | true => exact safe
        | false => exact arguments _ index (by simp [isSafe])
      · intro name other member
        refine arguments name other ?_
        cases isSafe : policy.isSafe type <;> simp_all

theorem forall₂_entryTaints (safe : relation .safe .safe)
    (arguments : ∀ name, ∀ index ∈ argumentIndices policy method signature,
      relation (argument name index) (argument' name index)) :
    List.Forall₂ relation (entryTaints policy method signature argument)
      (entryTaints policy method signature argument') := by
  unfold argumentIndices at arguments
  refine List.rel_append ?_ (forall₂_parameterTaints safe ?_)
  · cases isStatic : method.isStatic with
    | true => exact .nil
    | false => exact .cons (arguments _ _ (by simp [isStatic])) .nil
  · intro name index member
    exact arguments name index (List.mem_append_right _ member)

/-- The same for a property of single facts. -/
theorem forall_mem_entryTaints {holds : Taint → Prop} (safe : holds .safe)
    (arguments : ∀ name, ∀ index ∈ argumentIndices policy method signature,
      holds (argument name index)) :
    ∀ taint ∈ entryTaints policy method signature argument, holds taint := by
  have same : List.Forall₂ (fun taint _ => holds taint)
      (entryTaints policy method signature argument) (entryTaints policy method signature argument) :=
    forall₂_entryTaints safe arguments
  have each := List.forall₂_same.1 same
  exact each

/-! ### The words in their locals -/

theorem Frame.stack_bindLocals {frame after : Frame} {slot : Nat} {taints : List Taint}
    (bound : frame.bindLocals slot taints = .ok after) : after.stack = frame.stack := by
  induction taints generalizing frame slot with
  | nil =>
      cases bound
      rfl
  | cons taint later inductionHypothesis =>
      rw [Frame.bindLocals, bind_eq_ok_iff] at bound
      obtain ⟨next, set, rest⟩ := bound
      obtain ⟨-, rfl⟩ := Frame.setLocal_eq_ok_iff.1 set
      exact (inductionHypothesis rest).trans rfl

theorem Frame.Related.bindLocals {frame frame' after after' : Frame} {slot : Nat}
    {taints taints' : List Taint} (related : Frame.Related relation frame frame')
    (bound : List.Forall₂ (fun taint taint' =>
      ∀ slot, relation { taint with slot := some slot } { taint' with slot := some slot })
      taints taints')
    (succeeds : frame.bindLocals slot taints = .ok after)
    (succeeds' : frame'.bindLocals slot taints' = .ok after') :
    Frame.Related relation after after' := by
  induction bound generalizing frame frame' slot with
  | nil =>
      cases succeeds
      cases succeeds'
      exact related
  | cons head tail inductionHypothesis =>
      rw [Frame.bindLocals, bind_eq_ok_iff] at succeeds succeeds'
      obtain ⟨next, set, rest⟩ := succeeds
      obtain ⟨next', set', rest'⟩ := succeeds'
      exact inductionHypothesis (related.setLocal (head slot) set set') rest rest'

/-- Related words give related frames on entry. What is related has to stay so in whichever local it
ends up. -/
theorem calledFrame_related {entry entry' : Frame}
    (bound : ∀ one two slot, relation one two →
      relation { one with slot := some slot } { two with slot := some slot })
    (unknown : relation .unknown .unknown)
    (words : List.Forall₂ relation (entryTaints policy method signature argument)
      (entryTaints policy method signature argument'))
    (entered : calledFrame policy method signature argument = .ok entry)
    (entered' : calledFrame policy method signature argument' = .ok entry') :
    Frame.Related relation entry entry' := by
  have fresh : Frame.Related relation (.fresh method.maxLocals) (.fresh method.maxLocals) := by
    refine ⟨List.forall₂_same.2 ?_, .nil⟩
    intro cell member
    obtain ⟨slot, -, rfl⟩ := List.mem_map.1 member
    exact bound _ _ slot unknown
  exact fresh.bindLocals (words.imp fun one two related slot => bound one two slot related)
    entered entered'

/-- The same for a property of single facts. -/
theorem calledFrame_all {holds : Taint → Prop} {entry : Frame}
    (bound : ∀ taint slot, holds taint → holds { taint with slot := some slot })
    (unknown : holds .unknown)
    (words : ∀ taint ∈ entryTaints policy method signature argument, holds taint)
    (entered : calledFrame policy method signature argument = .ok entry) : entry.All holds := by
  refine Frame.related_self_iff.1 (calledFrame_related ?_ unknown ?_ entered entered)
  · exact fun one two slot => bound one slot
  · exact List.forall₂_same.2 words

end TaintFlow
