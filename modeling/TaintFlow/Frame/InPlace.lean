/-
Module: TaintFlow.Frame.InPlace
Purpose: Work on a frame in place. What fails halfway has changed the frame by then, and the frame that is
  left behind is as much a part of the outcome as the fault. Single operations check before they change
  anything; the instructions that are made of them need not.
Main exports: InPlace, InPlace.operate, InPlace.outcome, InPlace.outcome_bind, InPlace.effect,
  InPlace.effect_bind, InPlace.shuffle, InPlace.storeWords, InPlace.loadWords
-/
import TaintFlow.Frame.Moves
import TaintFlow.Trace.Traced

namespace TaintFlow

/-- Work on a frame: the frame that is left behind, whether the work succeeds or not, with what is said on
the way and what comes out of it. -/
def InPlace (α : Type) : Type :=
  Frame → Frame × Traced Fault α

namespace InPlace

variable {α β : Type}

instance : Monad InPlace where
  pure value frame := (frame, pure value)
  bind first next frame :=
    match first frame with
    | (after, ⟨notices, .ok value⟩) =>
        let (last, told) := next value after
        (last, ⟨notices ++ told.notices, told.result⟩)
    | (after, ⟨notices, .error fault⟩) => (after, ⟨notices, .error fault⟩)

/-- A single operation, which changes nothing where it fails. -/
def operate (operation : Frame → Traced Fault (α × Frame)) : InPlace α := fun frame =>
  match operation frame with
  | ⟨notices, .ok (value, after)⟩ => (after, ⟨notices, .ok value⟩)
  | ⟨notices, .error fault⟩ => (frame, ⟨notices, .error fault⟩)

/-- Look at the frame. -/
def look (view : Frame → Traced Fault α) : InPlace α :=
  operate fun frame => (·, frame) <$> view frame

/-- Put another frame in place of this one. -/
def change (next : Frame → Traced Fault Frame) : InPlace Unit :=
  operate fun frame => ((), ·) <$> next frame

/-- What comes out of the work together with the frame that it leaves behind, where it succeeds. -/
def outcome (work : InPlace α) (frame : Frame) : Traced Fault (α × Frame) :=
  match work frame with
  | (after, ⟨notices, result⟩) => ⟨notices, result.map (·, after)⟩

@[simp] theorem outcome_pure (value : α) (frame : Frame) :
    (pure value : InPlace α).outcome frame = pure (value, frame) := rfl

@[simp] theorem outcome_bind (first : InPlace α) (next : α → InPlace β) (frame : Frame) :
    (first >>= next).outcome frame = (do
      let (value, after) ← first.outcome frame
      (next value).outcome after) := by
  simp only [outcome, bind]
  rcases first frame with ⟨after, notices, fault | value⟩
  · rfl
  · rfl

@[simp] theorem outcome_operate (operation : Frame → Traced Fault (α × Frame)) (frame : Frame) :
    (operate operation).outcome frame = operation frame := by
  unfold outcome operate
  rcases operation frame with ⟨notices, fault | ⟨value, after⟩⟩
  · rfl
  · rfl

@[simp] theorem outcome_look (view : Frame → Traced Fault α) (frame : Frame) :
    (look view).outcome frame = (·, frame) <$> view frame :=
  outcome_operate _ _

@[simp] theorem outcome_change (next : Frame → Traced Fault Frame) (frame : Frame) :
    (change next).outcome frame = ((), ·) <$> next frame :=
  outcome_operate _ _

/-- A loop in place is a loop over the frames that its rounds leave behind. -/
theorem outcome_forM {ι : Type} (items : List ι) (work : ι → InPlace Unit) (frame : Frame) :
    (forM items work).outcome frame =
      ((), ·) <$> items.foldlM (fun frame item => Prod.snd <$> (work item).outcome frame) frame := by
  induction items generalizing frame with
  | nil => rfl
  | cons item later inductionHypothesis =>
      rw [List.forM_cons, outcome_bind, List.foldlM_cons]
      simp [inductionHypothesis]

/-- The frame that the work leaves behind and what comes out of it, the notices apart. -/
def effect (work : InPlace α) (frame : Frame) : Frame × Except Fault α :=
  match work frame with
  | (after, told) => (after, told.result)

theorem effect_bind (first : InPlace α) (next : α → InPlace β) (frame : Frame) :
    (first >>= next).effect frame =
      match first.effect frame with
      | (after, .ok value) => (next value).effect after
      | (after, .error fault) => (after, .error fault) := by
  simp only [effect, bind]
  rcases first frame with ⟨after, notices, fault | value⟩
  · rfl
  · rfl

theorem effect_operate (operation : Frame → Traced Fault (α × Frame)) (frame : Frame) :
    (operate operation).effect frame =
      match (operation frame).result with
      | .ok (value, after) => (after, .ok value)
      | .error fault => (frame, .error fault) := by
  unfold effect operate
  rcases operation frame with ⟨notices, fault | ⟨value, after⟩⟩
  · rfl
  · rfl

/-! ### Operations -/

def pop : InPlace Taint :=
  operate fun frame => Traced.silently frame.pop

def popMany (count : Nat) : InPlace (List Taint) :=
  operate fun frame => Traced.silently (frame.popMany count)

def peek (index : Nat) : InPlace Taint :=
  look fun frame => Traced.silently (frame.peek index)

def poke (index : Nat) (taint : Taint) : InPlace Unit :=
  change fun frame => Traced.silently (frame.poke index taint)

def setLocal (slot : Nat) (taint : Taint) : InPlace Unit :=
  change fun frame => Traced.silently (frame.setLocal slot taint)

def push (taint : Taint) : InPlace Unit :=
  change fun frame => pure (frame.push taint)

def pushWords (taint : Taint) (words : Nat) : InPlace Unit :=
  change fun frame => pure (frame.pushWords taint words)

/-! ### Moves -/

/-- Rearrange the top of the stack. -/
def shuffle : Shuffle → InPlace Unit
  | .pop => do
      let _ ← pop
  | .pop2 => do
      let _ ← popMany 2
  | .dup => do
      let top ← peek 0
      push top
  | .dupX1 => do
      let top ← pop
      let below ← pop
      push top
      push below
      push top
  | .dup2 => do
      let top ← peek 0
      let below ← peek 1
      push below
      push top
  | .swap => do
      let top ← pop
      let below ← pop
      push top
      push below

/-- Pop the words of a value into locals, beginning with the one at `index`. -/
def storeWords (index : Nat) : Nat → InPlace Unit
  | 0 => pure ()
  | words + 1 => do
      let taint ← pop
      setLocal index { taint with slot := some index }
      storeWords (index + 1) words

/-- Push the words of a value from locals, the local at `index` last. -/
def loadWords (index : Nat) : Nat → InPlace Unit
  | 0 => pure ()
  | words + 1 => do
      let taint ← look fun frame => Traced.silently (frame.getBound (index + words))
      push taint
      loadWords index words

/-- Take an element out of an array. -/
def arrayLoad (words : Nat) : InPlace Unit := do
  let _ ← pop
  let array ← pop
  pushWords { array with runtimeClass := none, allocation := none } words

/-- Replace the given number of words by the text that they make. -/
def concatTop (operands : Nat) : InPlace Unit := do
  let words ← popMany operands
  push { Frame.concatAll words.reverse with slot := none, runtimeClass := none, allocation := none }

/-- Replace the topmost words by words of which nothing is known. -/
def replaceTop (consumed produced : Nat) : InPlace Unit := do
  let _ ← popMany consumed
  pushWords .unknown produced

end InPlace

end TaintFlow
