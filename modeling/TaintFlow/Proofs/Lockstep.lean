/-
Module: TaintFlow.Proofs.Lockstep
Purpose: Instructions that act on two frames in lockstep. Whether an instruction fails, and how, depends on
  the shape of the frame and on what its locals are bound to. So where related facts are bound to the same
  local, a plain instruction fails on both of two related frames with the same fault, or leaves related ones.
Main exports: Step.Related, Frame.Related.lockstep_peek, Frame.Related.lockstep_popMany,
  Frame.Related.lockstep_loadWords, Site.lockstep_plain
-/
import TaintFlow.Proofs.Steps

namespace TaintFlow

variable {relation : Taint → Taint → Prop}

/-! ### Moves within a frame -/

namespace Frame

/-- Two times something that was taken from a frame and what is left of the frame. -/
def LeftRelated {α : Type} (taken : α → α → Prop) (relation : Taint → Taint → Prop)
    (one two : α × Frame) : Prop :=
  taken one.1 two.1 ∧ Related relation one.2 two.2

namespace Related

variable {frame frame' : Frame} {one two : Taint}

theorem lockstep_getLocal (related : Related relation frame frame') (slot : Nat) :
    Lockstep relation (frame.getLocal slot) (frame'.getLocal slot) := by
  have cells := forall₂_rel_getElem? related.locals slot
  unfold Frame.getLocal
  rw [related.locals.length_eq]
  generalize frame.locals[slot]? = held at cells ⊢
  generalize frame'.locals[slot]? = held' at cells ⊢
  cases cells with
  | none => exact .error _
  | some value => exact .ok value

theorem lockstep_setLocal (related : Related relation frame frame') (value : relation one two)
    (slot : Nat) : Lockstep (Related relation) (frame.setLocal slot one) (frame'.setLocal slot two) := by
  unfold Frame.setLocal
  rw [related.locals.length_eq]
  split
  · exact .ok ⟨forall₂_set related.locals value slot, related.stack⟩
  · exact .error _

theorem depth_eq (related : Related relation frame frame') : frame.depth = frame'.depth :=
  related.stack.length_eq

theorem lockstep_peek (related : Related relation frame frame') (index : Nat) :
    Lockstep relation (frame.peek index) (frame'.peek index) := by
  have words := forall₂_rel_getElem? related.stack index
  unfold Frame.peek Frame.outOfStack
  rw [related.depth_eq]
  generalize frame.stack[index]? = lies at words ⊢
  generalize frame'.stack[index]? = lies' at words ⊢
  cases words with
  | none => exact .error _
  | some value => exact .ok value

theorem lockstep_poke (related : Related relation frame frame') (value : relation one two)
    (index : Nat) : Lockstep (Related relation) (frame.poke index one) (frame'.poke index two) := by
  unfold Frame.poke Frame.outOfStack
  rw [related.depth_eq]
  split
  · exact .ok ⟨related.locals, forall₂_set related.stack value index⟩
  · exact .error _

theorem lockstep_popMany (related : Related relation frame frame') (count : Nat) :
    Lockstep (LeftRelated (List.Forall₂ relation) relation) (frame.popMany count)
      (frame'.popMany count) := by
  unfold Frame.popMany
  rw [related.depth_eq]
  split
  · exact .ok ⟨List.forall₂_take count related.stack, related.locals,
      List.forall₂_drop count related.stack⟩
  · exact .error _

theorem lockstep_pop (related : Related relation frame frame') :
    Lockstep (LeftRelated relation relation) frame.pop frame'.pop := by
  rcases frame with ⟨locals, stack⟩
  rcases frame' with ⟨locals', stack'⟩
  rcases related with ⟨cells, words⟩
  cases words with
  | nil => exact .error _
  | cons top below => exact .ok ⟨top, cells, below⟩

theorem lockstep_storeWords (respected : Respected relation) (related : Related relation frame frame')
    (index words : Nat) :
    Lockstep (Related relation) (frame.storeWords index words) (frame'.storeWords index words) := by
  induction words generalizing frame frame' index with
  | zero => exact .ok related
  | succ words inductionHypothesis =>
      refine related.lockstep_pop.bind ?_
      rintro ⟨taint, rest⟩ ⟨taint', rest'⟩ ⟨value, below⟩
      refine (below.lockstep_setLocal (respected.binds value index) index).bind ?_
      intro stored stored' locals
      exact inductionHypothesis locals (index + 1)

/-- A local that is not bound to itself is bound to the same wrong local on both sides. -/
theorem lockstep_getBound (slots : ∀ {one two : Taint}, relation one two → one.slot = two.slot)
    (related : Related relation frame frame') (slot : Nat) :
    Lockstep relation (frame.getBound slot) (frame'.getBound slot) := by
  refine (related.lockstep_getLocal slot).bind ?_
  intro taint taint' value
  rw [slots value]
  split
  · exact .ok value
  · exact .error _

theorem lockstep_loadWords (slots : ∀ {one two : Taint}, relation one two → one.slot = two.slot)
    (related : Related relation frame frame') (index words : Nat) :
    Lockstep (Related relation) (frame.loadWords index words) (frame'.loadWords index words) := by
  induction words generalizing frame frame' with
  | zero => exact .ok related
  | succ words inductionHypothesis =>
      refine (related.lockstep_getBound slots _).bind ?_
      intro taint taint' value
      exact inductionHypothesis (related.push value)

theorem lockstep_arrayLoad (respected : Respected relation) (related : Related relation frame frame')
    (words : Nat) : Lockstep (Related relation) (frame.arrayLoad words) (frame'.arrayLoad words) := by
  refine related.lockstep_pop.bind ?_
  rintro ⟨index, withoutIndex⟩ ⟨index', withoutIndex'⟩ ⟨-, without⟩
  refine without.lockstep_pop.bind ?_
  rintro ⟨array, rest⟩ ⟨array', rest'⟩ ⟨value, below⟩
  exact .ok (below.pushWords (respected.elements value))

theorem lockstep_concatTop (respected : Respected relation)
    (empty : relation (.constant "") (.constant "")) (related : Related relation frame frame')
    (count : Nat) : Lockstep (Related relation) (frame.concatTop count) (frame'.concatTop count) := by
  refine (related.lockstep_popMany count).bind ?_
  rintro ⟨operands, rest⟩ ⟨operands', rest'⟩ ⟨values, below⟩
  have text := respected.concatAll empty (List.forall₂_reverse_iff.2 values)
  exact .ok (below.push (respected.texts text))

theorem lockstep_replaceTop (unknown : relation .unknown .unknown)
    (related : Related relation frame frame') (consumed produced : Nat) :
    Lockstep (Related relation) (frame.replaceTop consumed produced)
      (frame'.replaceTop consumed produced) := by
  refine (related.lockstep_popMany consumed).bind ?_
  rintro ⟨values, rest⟩ ⟨values', rest'⟩ ⟨-, below⟩
  exact .ok (below.pushWords unknown)

theorem lockstep_shuffle (related : Related relation frame frame') (shuffle : Shuffle) :
    Lockstep (Related relation) (frame.shuffle shuffle) (frame'.shuffle shuffle) := by
  cases shuffle with
  | pop => exact related.lockstep_pop.bind fun _ _ left => .ok left.2
  | pop2 => exact (related.lockstep_popMany 2).bind fun _ _ left => .ok left.2
  | dup => exact (related.lockstep_peek 0).bind fun _ _ top => .ok (related.push top)
  | dupX1 =>
      refine related.lockstep_pop.bind ?_
      rintro ⟨top, withoutTop⟩ ⟨top', withoutTop'⟩ ⟨topValue, without⟩
      refine without.lockstep_pop.bind ?_
      rintro ⟨below, rest⟩ ⟨below', rest'⟩ ⟨belowValue, left⟩
      exact .ok (((left.push topValue).push belowValue).push topValue)
  | dup2 =>
      refine (related.lockstep_peek 0).bind fun _ _ top => ?_
      exact (related.lockstep_peek 1).bind fun _ _ below => .ok ((related.push below).push top)
  | swap =>
      refine related.lockstep_pop.bind ?_
      rintro ⟨top, withoutTop⟩ ⟨top', withoutTop'⟩ ⟨topValue, without⟩
      refine without.lockstep_pop.bind ?_
      rintro ⟨below, rest⟩ ⟨below', rest'⟩ ⟨belowValue, left⟩
      exact .ok ((left.push topValue).push belowValue)

end Related

end Frame

/-! ### Plain instructions -/

/-- Two steps leave related frames, and what they return is related. -/
structure Step.Related (relation : Taint → Taint → Prop) (step step' : Step) : Prop where
  frame : Frame.Related relation step.frame step'.frame
  returned : Option.Rel relation step.returned step'.returned

namespace Site

variable {site other : Site} {frame frame' : Frame} {instruction : Instruction}

/-- Most instructions return nothing from the method. -/
theorem lockstep_act {moved moved' : Traced Fault Frame}
    (lockstep : Lockstep (Frame.Related relation) moved.result moved'.result) :
    Lockstep (Step.Related relation) (moved >>= fun after => pure ⟨after, none⟩).result
      (moved' >>= fun after => pure ⟨after, none⟩).result :=
  lockstep_result_bind lockstep fun _ _ frames => .ok ⟨frames, .none⟩

theorem lockstep_checkCast {className : String}
    (samePolicy : site.context.policy = other.context.policy)
    (cast : relation (site.castTaint className) (other.castTaint className))
    (related : Frame.Related relation frame frame') :
    Lockstep (Frame.Related relation) (site.checkCast className frame)
      (other.checkCast className frame') := by
  unfold checkCast
  rw [samePolicy]
  split
  · exact related.lockstep_pop.bind fun _ _ left => .ok (left.2.push cast)
  · exact .ok related

theorem lockstep_giveBack {kind : Kind} (related : Frame.Related relation frame frame') :
    Lockstep (Step.Related relation) (site.giveBack kind frame).result
      (other.giveBack kind frame').result := by
  refine lockstep_result_bind (related.lockstep_peek 0) ?_
  intro top top' value
  refine lockstep_result_bind (related.lockstep_popMany kind.words) ?_
  rintro ⟨words, rest⟩ ⟨words', rest'⟩ ⟨-, below⟩
  exact .ok ⟨below, .some value⟩

/-- A plain instruction acts on related frames in lockstep, also in different analyses, if what it makes
there is related. -/
theorem lockstep_plain (respected : Respected relation)
    (slots : ∀ {one two : Taint}, relation one two → one.slot = two.slot) (plain : instruction.isPlain)
    (samePolicy : site.context.policy = other.context.policy)
    (makes : ∀ one ∈ site.made instruction, ∀ two ∈ other.made instruction, relation one two)
    (related : Frame.Related relation frame frame') :
    Lockstep (Step.Related relation) (site.step instruction frame).result
      (other.step instruction frame').result := by
  rw [result_step, result_step]
  cases instruction with
  | constant literal => exact .ok ⟨related.pushWords (makes _ rfl _ rfl), .none⟩
  | getField field isStatic =>
      refine lockstep_act (lockstep_result_bind (related.lockstep_popMany _) ?_)
      rintro ⟨owner, rest⟩ ⟨owner', rest'⟩ ⟨-, below⟩
      exact .ok (below.pushWords (makes _ rfl _ rfl))
  | putField field isStatic =>
      refine lockstep_act (lockstep_result_bind (related.lockstep_peek 0) fun _ _ _ => ?_)
      exact lockstep_result_bind (related.lockstep_popMany _) fun _ _ left => .ok left.2
  | load index kind =>
      refine lockstep_act ?_
      exact lockstep_result_bind (related.lockstep_loadWords slots _ _) fun _ _ frames => .ok frames
  | store index kind => exact lockstep_act (related.lockstep_storeWords respected _ _)
  | new className => exact .ok ⟨related.push (makes _ rfl _ rfl), .none⟩
  | newArray dimensions =>
      refine lockstep_act ((related.lockstep_popMany dimensions).bind ?_)
      rintro ⟨sizes, rest⟩ ⟨sizes', rest'⟩ ⟨-, below⟩
      exact .ok (below.push (makes _ rfl _ rfl))
  | arrayStore kind => simp [Instruction.isPlain] at plain
  | arrayLoad kind => exact lockstep_act (related.lockstep_arrayLoad respected _)
  | checkCast className =>
      exact lockstep_act (lockstep_checkCast samePolicy (makes _ rfl _ rfl) related)
  | «return» kind =>
      cases kind with
      | none => exact .ok ⟨related, .none⟩
      | some kind => exact lockstep_giveBack related
  | invoke call => simp [Instruction.isPlain] at plain
  | concat operands =>
      exact lockstep_act (related.lockstep_concatTop respected (makes _ rfl _ rfl) operands)
  | stack shuffle => exact lockstep_act (related.lockstep_shuffle shuffle)
  | other consumed produced =>
      exact lockstep_act (related.lockstep_replaceTop (makes _ rfl _ rfl) consumed produced)

end Site

end TaintFlow
