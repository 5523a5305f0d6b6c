/-
Module: TaintFlow.Proofs.InPlaceSteps
Purpose: Instructions that work on a frame in place do what they do as functions on frames. Where they succeed,
  nothing is left of the difference, and statements about instructions are made about the functions.
Main exports: InPlace.outcome_shuffle, InPlace.outcome_invoke, InPlace.outcome_act, Site.step_eq
-/
import TaintFlow.Execution

namespace TaintFlow

namespace InPlace

variable (site : Site) (frame : Frame)

/-! ### Operations -/

@[simp] theorem outcome_pop : pop.outcome frame = Traced.silently frame.pop :=
  outcome_operate _ _

@[simp] theorem outcome_popMany (count : Nat) :
    (popMany count).outcome frame = Traced.silently (frame.popMany count) :=
  outcome_operate _ _

@[simp] theorem outcome_peek (index : Nat) :
    (peek index).outcome frame = (·, frame) <$> Traced.silently (frame.peek index) :=
  outcome_look _ _

@[simp] theorem outcome_poke (index : Nat) (taint : Taint) :
    (poke index taint).outcome frame = ((), ·) <$> Traced.silently (frame.poke index taint) :=
  outcome_change _ _

@[simp] theorem outcome_setLocal (slot : Nat) (taint : Taint) :
    (setLocal slot taint).outcome frame = ((), ·) <$> Traced.silently (frame.setLocal slot taint) :=
  outcome_change _ _

@[simp] theorem outcome_push (taint : Taint) :
    (push taint).outcome frame = pure ((), frame.push taint) :=
  outcome_change _ _

@[simp] theorem outcome_pushWords (taint : Taint) (words : Nat) :
    (pushWords taint words).outcome frame = pure ((), frame.pushWords taint words) :=
  outcome_change _ _

/-! ### Moves -/

theorem outcome_shuffle (moves : Shuffle) :
    (shuffle moves).outcome frame = ((), ·) <$> Traced.silently (frame.shuffle moves) := by
  cases moves with
  | pop => simp [shuffle, Frame.shuffle, Traced.silently_map]
  | pop2 => simp [shuffle, Frame.shuffle, Traced.silently_map]
  | dup => simp [shuffle, Frame.shuffle, Traced.silently_map]
  | dupX1 => simp [shuffle, Frame.shuffle, Traced.silently_map, Traced.silently_bind]
  | dup2 => simp [shuffle, Frame.shuffle, Traced.silently_map, Traced.silently_bind]
  | swap => simp [shuffle, Frame.shuffle, Traced.silently_map, Traced.silently_bind]

/-- Where it fails, a swap has taken the one word that was there. -/
example (taint : Taint) :
    (shuffle .swap).effect ⟨[], [taint]⟩ = (⟨[], []⟩, .error (.stackUnderflow 1 0)) := rfl

theorem outcome_storeWords (index words : Nat) :
    (storeWords index words).outcome frame =
      ((), ·) <$> Traced.silently (frame.storeWords index words) := by
  induction words generalizing frame index with
  | zero => rfl
  | succ words inductionHypothesis =>
      simp [storeWords, Frame.storeWords, Traced.silently_bind, inductionHypothesis]

theorem outcome_loadWords (index words : Nat) :
    (loadWords index words).outcome frame =
      ((), ·) <$> Traced.silently (frame.loadWords index words) := by
  induction words generalizing frame with
  | zero => rfl
  | succ words inductionHypothesis =>
      simp [loadWords, Frame.loadWords, Traced.silently_bind, inductionHypothesis]

theorem outcome_arrayLoad (words : Nat) :
    (arrayLoad words).outcome frame = ((), ·) <$> Traced.silently (frame.arrayLoad words) := by
  simp [arrayLoad, Frame.arrayLoad, Traced.silently_bind, Traced.silently_map]

theorem outcome_concatTop (operands : Nat) :
    (concatTop operands).outcome frame = ((), ·) <$> Traced.silently (frame.concatTop operands) := by
  simp [concatTop, Frame.concatTop, Traced.silently_map]

theorem outcome_replaceTop (consumed produced : Nat) :
    (replaceTop consumed produced).outcome frame =
      ((), ·) <$> Traced.silently (frame.replaceTop consumed produced) := by
  simp [replaceTop, Frame.replaceTop, Traced.silently_map]

/-! ### Calls -/

theorem outcome_overwrite (index : Nat) (taint : Taint) :
    (overwrite site index taint).outcome frame = ((), ·) <$> site.overwrite frame index taint := by
  simp [overwrite, Site.overwrite, Traced.liftM_eq_silently]

theorem outcome_exposeArgument (index : Nat) :
    (exposeArgument site index).outcome frame = ((), ·) <$> site.exposeArgument frame index := by
  simp [exposeArgument, Site.exposeArgument, Traced.liftM_eq_silently, outcome_overwrite]

theorem outcome_assumeWrites (summary : Option Summary) (signature : Signature) :
    (assumeWrites site summary signature).outcome frame =
      ((), ·) <$> site.assumeWrites summary signature frame := by
  unfold assumeWrites Site.assumeWrites
  split
  · rfl
  · simp [outcome_forM, outcome_exposeArgument]

theorem outcome_writeArgument (result : Taint) (index : Nat) :
    (writeArgument site result index).outcome frame =
      ((), ·) <$> site.writeArgument result frame index := by
  unfold writeArgument Site.writeArgument
  simp only [outcome_bind, outcome_look]
  split
  · simp [*, Traced.liftM_eq_silently, outcome_overwrite]
  · simp [*]

theorem outcome_writeMutated (summary : Option Summary) (result : Taint) :
    (writeMutated site summary result).outcome frame =
      ((), ·) <$> site.writeMutated summary result frame := by
  unfold writeMutated Site.writeMutated
  split
  · simp [outcome_forM, outcome_writeArgument]
  · rfl

theorem outcome_refreshDuplicate (consumed : Nat) (receiver : Option Taint) :
    (refreshDuplicate consumed receiver).outcome frame =
      ((), ·) <$> Traced.silently (frame.refreshDuplicate consumed receiver) := by
  simp only [refreshDuplicate, Frame.refreshDuplicate, outcome_bind, outcome_look, map_pure, pure_bind]
  cases receiver with
  | none => rfl
  | some receiver =>
      cases frame.stack[consumed]? with
      | none => rfl
      | some duplicate =>
          dsimp only
          split
          · simp [Traced.silently_bind]
          · rfl

theorem outcome_applySummary (call : Call) (signature : Signature) (receiver : Option Taint)
    (summary : Option Summary) :
    (applySummary site call signature receiver summary).outcome frame =
      ((), ·) <$> site.applySummary call signature receiver summary frame := by
  simp [applySummary, Site.applySummary, notify, Traced.liftM_eq_silently, outcome_assumeWrites,
    outcome_writeMutated, outcome_refreshDuplicate]

theorem outcome_invoke (call : Call) :
    (invoke site call).outcome frame = ((), ·) <$> site.invoke call frame := by
  simp [invoke, Site.invoke, Traced.liftM_eq_silently, outcome_applySummary]

/-! ### Other instructions -/

theorem outcome_getField (field : FieldName) (isStatic : Bool) :
    (getField site field isStatic).outcome frame = ((), ·) <$> site.getField field isStatic frame := by
  simp [getField, Site.getField, notify, Traced.liftM_eq_silently]

theorem outcome_putField (field : FieldName) (isStatic : Bool) :
    (putField site field isStatic).outcome frame = ((), ·) <$> site.putField field isStatic frame := by
  simp [putField, Site.putField, notify, Traced.liftM_eq_silently]

theorem outcome_load (index words : Nat) :
    (load site index words).outcome frame = ((), ·) <$> site.load index words frame := by
  simp [load, Site.load, notify, Traced.liftM_eq_silently, outcome_loadWords]

theorem outcome_newArray (dimensions : Nat) :
    (newArray site dimensions).outcome frame =
      ((), ·) <$> Traced.silently (site.newArray dimensions frame) := by
  simp [newArray, Site.newArray, Traced.silently_map]

theorem outcome_arrayStore (kind : Kind) :
    (arrayStore site kind).outcome frame = ((), ·) <$> site.arrayStore kind frame := by
  simp only [arrayStore, Site.arrayStore, Traced.liftM_eq_silently, outcome_bind, outcome_popMany,
    outcome_pop, outcome_change, outcome_look, map_bind, bind_map_left, map_pure, pure_bind]
  refine bind_congr fun (words, withoutValue) => ?_
  refine bind_congr fun (_, withoutIndex) => ?_
  refine bind_congr fun (array, rest) => ?_
  refine bind_congr fun written => ?_
  match stack : written.stack with
  | [] => rfl
  | top :: below =>
      have poked : written.poke 0 (array.holding words) =
          .ok { written with stack := array.holding words :: below } := by
        simp [Frame.poke, Frame.depth, stack]
      dsimp only [List.head?_cons]
      split
      · rw [outcome_poke, poked]
        rfl
      · rfl

theorem outcome_checkCast (className : String) :
    (checkCast site className).outcome frame =
      ((), ·) <$> Traced.silently (site.checkCast className frame) := by
  unfold checkCast Site.checkCast
  split
  · simp [Traced.silently_map]
  · rfl

/-- An instruction in place leaves what it makes of the frame as a function. -/
theorem outcome_act (instruction : Instruction) :
    (act site instruction).outcome frame =
      (fun step => (step.returned, step.frame)) <$> site.act frame instruction := by
  cases instruction with
  | constant literal => rfl
  | getField field isStatic => simp [act, silent, Site.act, outcome_getField]
  | putField field isStatic => simp [act, silent, Site.act, outcome_putField]
  | load index kind => simp [act, silent, Site.act, outcome_load]
  | store index kind => simp [act, silent, Site.act, outcome_storeWords, Traced.liftM_eq_silently]
  | new className => rfl
  | newArray dimensions => simp [act, silent, Site.act, outcome_newArray, Traced.liftM_eq_silently]
  | arrayStore kind => simp [act, silent, Site.act, outcome_arrayStore]
  | arrayLoad kind => simp [act, silent, Site.act, outcome_arrayLoad, Traced.liftM_eq_silently]
  | checkCast className => simp [act, silent, Site.act, outcome_checkCast, Traced.liftM_eq_silently]
  | «return» kind =>
      cases kind with
      | none => rfl
      | some kind => simp [act, giveBack, Site.act, Site.giveBack, notify, Traced.liftM_eq_silently]
  | invoke call => simp [act, silent, Site.act, outcome_invoke]
  | concat operands => simp [act, silent, Site.act, outcome_concatTop, Traced.liftM_eq_silently]
  | stack moves => simp [act, silent, Site.act, outcome_shuffle, Traced.liftM_eq_silently]
  | other consumed produced => simp [act, silent, Site.act, outcome_replaceTop, Traced.liftM_eq_silently]

end InPlace

/-- An instruction is announced if that is wanted, and then acts. -/
theorem Site.step_eq (site : Site) (instruction : Instruction) (frame : Frame) :
    site.step instruction frame = (do
      Traced.giveIf site.context.options.printInstructions
        (.processing site.method.key site.offset instruction)
      site.act frame instruction) := by
  simp [step, perform, InPlace.outcome_act]

end TaintFlow
