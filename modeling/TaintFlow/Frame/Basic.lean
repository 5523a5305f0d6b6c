/-
Module: TaintFlow.Frame.Basic
Purpose: The facts at one point of a method: its locals and its operand stack.
Main exports: Frame, Frame.peek, Frame.popMany, Frame.joinFrom, Frame.join, Frame.Equiv
-/
import TaintFlow.Fault
import TaintFlow.Taint.Join

namespace TaintFlow

/-- The largest index there is, which is the largest machine word. -/
def maxIndex : Nat := UInt64.size - 1

/-- The facts about the locals and the operand stack. The stack is listed from its top, so that stack
index `i` is position `i` of the list. -/
structure Frame where
  locals : List Taint
  stack : List Taint
deriving Inhabited, DecidableEq

namespace Frame

/-- A frame with the given number of locals, of which nothing is known but that each is bound to its
own slot, and with an empty stack. -/
def fresh (count : Nat) : Frame :=
  ⟨(List.range count).map fun slot => { Taint.unknown with slot := some slot }, []⟩

def depth (frame : Frame) : Nat :=
  frame.stack.length

/-! ### Locals -/

/-- The fact about a local. -/
def getLocal (frame : Frame) (slot : Nat) : Except Fault Taint :=
  match frame.locals[slot]? with
  | some taint => .ok taint
  | none => .error (.invalidSlot slot frame.locals.length)

/-- Replace the fact about a local. -/
def setLocal (frame : Frame) (slot : Nat) (taint : Taint) : Except Fault Frame :=
  if slot < frame.locals.length then .ok { frame with locals := frame.locals.set slot taint }
  else .error (.invalidSlot slot frame.locals.length)

/-! ### The operand stack

Indices are machine words, and sums of them wrap around. For the largest index the number of words that it
needs comes out as none, so that the stack seems to be deep enough. -/

/-- What an access to a stack index that is not there ends in. -/
def outOfStack (frame : Frame) (index : Nat) : Fault :=
  if index = maxIndex then .breakdown frame.depth else .stackUnderflow (index + 1) frame.depth

/-- The fact about the word `index` words below the top. -/
def peek (frame : Frame) (index : Nat) : Except Fault Taint :=
  match frame.stack[index]? with
  | some taint => .ok taint
  | none => .error (frame.outOfStack index)

/-- Replace the fact about the word `index` words below the top. -/
def poke (frame : Frame) (index : Nat) (taint : Taint) : Except Fault Frame :=
  if index < frame.depth then .ok { frame with stack := frame.stack.set index taint }
  else .error (frame.outOfStack index)

/-- The place, counted from the bottom, of the word `index` words below the top. The largest index is
placed above the top. -/
def height (frame : Frame) (index : Nat) : Except Fault Nat :=
  if index < frame.depth then .ok (frame.depth - 1 - index)
  else if index = maxIndex then .ok frame.depth
  else .error (.stackUnderflow (index + 1) frame.depth)

def push (frame : Frame) (taint : Taint) : Frame :=
  { frame with stack := taint :: frame.stack }

/-- Push the words of one value, which all carry the same fact. -/
def pushWords (frame : Frame) (taint : Taint) (words : Nat) : Frame :=
  { frame with stack := List.replicate words taint ++ frame.stack }

/-- Take the given number of words from the stack; they are returned from the top down. -/
def popMany (frame : Frame) (count : Nat) : Except Fault (List Taint × Frame) :=
  if count ≤ frame.depth then
    .ok (frame.stack.take count, { frame with stack := frame.stack.drop count })
  else .error (.stackUnderflow count frame.depth)

/-- Take one word from the stack. -/
def pop (frame : Frame) : Except Fault (Taint × Frame) :=
  match frame.stack with
  | taint :: rest => .ok (taint, { frame with stack := rest })
  | [] => .error (.stackUnderflow 1 0)

/-! ### When the operations succeed -/

variable {frame after : Frame} {taint : Taint} {index slot count : Nat}

theorem getLocal_eq_ok_iff : frame.getLocal slot = .ok taint ↔ frame.locals[slot]? = some taint := by
  unfold getLocal
  split <;> simp_all

theorem setLocal_eq_ok_iff :
    frame.setLocal slot taint = .ok after ↔
      slot < frame.locals.length ∧ { frame with locals := frame.locals.set slot taint } = after := by
  unfold setLocal
  split <;> simp [*]

theorem peek_eq_ok_iff : frame.peek index = .ok taint ↔ frame.stack[index]? = some taint := by
  unfold peek
  split <;> simp_all

theorem poke_eq_ok_iff :
    frame.poke index taint = .ok after ↔
      index < frame.depth ∧ { frame with stack := frame.stack.set index taint } = after := by
  unfold poke
  split <;> simp [*]

theorem popMany_eq_ok_iff {words : List Taint} :
    frame.popMany count = .ok (words, after) ↔
      count ≤ frame.depth ∧ frame.stack.take count = words ∧
        { frame with stack := frame.stack.drop count } = after := by
  unfold popMany
  split <;> simp [*]

theorem pop_eq_ok_iff :
    frame.pop = .ok (taint, after) ↔
      frame.stack = taint :: after.stack ∧ frame.locals = after.locals := by
  obtain ⟨locals, stack⟩ := frame
  obtain ⟨localsAfter, stackAfter⟩ := after
  cases stack with
  | nil => simp [pop]
  | cons top below =>
      simp only [pop, Except.ok.injEq, Prod.mk.injEq, Frame.mk.injEq, List.cons.injEq]
      exact ⟨fun ⟨top, locals, below⟩ => ⟨⟨top, below⟩, locals⟩,
        fun ⟨⟨top, below⟩, locals⟩ => ⟨top, locals, below⟩⟩

@[simp] theorem depth_push : (frame.push taint).depth = frame.depth + 1 := rfl

@[simp] theorem depth_pushWords : (frame.pushWords taint count).depth = count + frame.depth := by
  simp [pushWords, depth]

/-! ### Frames that meet -/

/-- Facts about the same cells say the same, one by one. -/
def CellsEquiv : List Taint → List Taint → Prop
  | [], [] => True
  | one :: ones, two :: twos => one ≈ two ∧ CellsEquiv ones twos
  | _, _ => False

instance decidableCellsEquiv : (ones twos : List Taint) → Decidable (CellsEquiv ones twos)
  | [], [] => isTrue trivial
  | one :: ones, two :: twos =>
      have := decidableCellsEquiv ones twos
      inferInstanceAs (Decidable (one ≈ two ∧ CellsEquiv ones twos))
  | [], _ :: _ => isFalse id
  | _ :: _, [] => isFalse id

/-- Two frames say the same. -/
structure Equiv (one two : Frame) : Prop where
  locals : CellsEquiv one.locals two.locals
  stack : CellsEquiv one.stack two.stack

instance : HasEquiv Frame := ⟨Equiv⟩

instance (one two : Frame) : Decidable (one ≈ two) :=
  decidable_of_iff (CellsEquiv one.locals two.locals ∧ CellsEquiv one.stack two.stack)
    ⟨fun ⟨locals, stack⟩ => ⟨locals, stack⟩, fun same => ⟨same.locals, same.stack⟩⟩

/-- Is there a cell to which the facts in the other list add something? -/
def gains (mine theirs : List Taint) : Bool :=
  (mine.zip theirs).any fun (one, two) => ¬ one.Absorbs two

/-- Join another frame into this one in place, cell by cell: what this frame is afterwards, and whether
that changed anything or what kept the frames from being joined. -/
def joinFrom (frame other : Frame) : Frame × Except Fault Bool :=
  if frame.locals.length ≠ other.locals.length then
    (frame, .error (.localCountMismatch frame.locals.length other.locals.length))
  else if frame.depth ≠ other.depth then
    (frame, .error (.stackDepthMismatch frame.depth other.depth))
  else
    (⟨List.zipWith Taint.absorb frame.locals other.locals,
        List.zipWith Taint.absorb frame.stack other.stack⟩,
      .ok (gains frame.locals other.locals || gains frame.stack other.stack))

/-- The frame that two frames make when they are joined, and whether it is another one than the first. -/
def join (frame other : Frame) : Except Fault (Frame × Bool) :=
  match frame.joinFrom other with
  | (joined, .ok changed) => .ok (joined, changed)
  | (_, .error fault) => .error fault

theorem join_eq (frame other : Frame) :
    frame.join other =
      if frame.locals.length ≠ other.locals.length then
        .error (.localCountMismatch frame.locals.length other.locals.length)
      else if frame.depth ≠ other.depth then
        .error (.stackDepthMismatch frame.depth other.depth)
      else
        .ok (⟨List.zipWith Taint.absorb frame.locals other.locals,
            List.zipWith Taint.absorb frame.stack other.stack⟩,
          gains frame.locals other.locals || gains frame.stack other.stack) := by
  unfold join joinFrom
  by_cases differ : frame.locals.length ≠ other.locals.length
  · simp only [if_pos differ]
  · by_cases differ' : frame.depth ≠ other.depth
    · simp only [if_neg differ, if_pos differ']
    · simp only [if_neg differ, if_neg differ']

/-! ### Showing frames -/

/-- A frame on one line, with the stack from its bottom. -/
def text (frame : Frame) : String :=
  let cells (taints : List Taint) := "[" ++ ", ".intercalate (taints.map Taint.text) ++ "]"
  "locals: " ++ cells frame.locals ++ " stack: " ++ cells frame.stack.reverse

end Frame

end TaintFlow
