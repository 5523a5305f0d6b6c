/-
Module: TaintFlow.Proofs.Effects
Purpose: What an instruction leaves behind: where the words on the stack come from once it has acted,
  which locals it has written, and of which parts a store to an array and a call consist.
Main exports: Site.Leaves, Instruction.writesLocals, Site.keeps_of_step, Frame.storeWords_eq_ok,
  Frame.Offers, Site.arrayStore_eq_ok_iff, Site.exposed, Site.assumeWrites_keeps_of_mem,
  Site.writeMutated_keeps_of_mem, Site.Applies, Site.invoke_eq_ok
-/
import TaintFlow.Proofs.Steps

namespace TaintFlow

/-! ### Moves within a frame -/

namespace Frame

variable {frame after : Frame} {taint word : Taint} {words : List Taint} {index count : Nat}

theorem mem_stack_pushWords (member : word ∈ (frame.pushWords taint count).stack) :
    word = taint ∨ word ∈ frame.stack := by
  rcases List.mem_append.1 member with pushed | below
  · exact Or.inl (List.eq_of_mem_replicate pushed)
  · exact Or.inr below

theorem popMany_eq_ok (popped : frame.popMany count = .ok (words, after)) :
    after.locals = frame.locals ∧ ∀ word ∈ after.stack, word ∈ frame.stack := by
  obtain ⟨-, -, rfl⟩ := popMany_eq_ok_iff.1 popped
  exact ⟨rfl, fun word => List.mem_of_mem_drop⟩

theorem pop_eq_ok (popped : frame.pop = .ok (taint, after)) :
    after.locals = frame.locals ∧ taint ∈ frame.stack ∧ ∀ word ∈ after.stack, word ∈ frame.stack := by
  obtain ⟨stack, locals⟩ := pop_eq_ok_iff.1 popped
  rw [stack]
  exact ⟨locals.symm, List.mem_cons_self, fun word => List.mem_cons_of_mem taint⟩

theorem peek_mem (peeked : frame.peek index = .ok taint) : taint ∈ frame.stack :=
  List.mem_of_getElem? (peek_eq_ok_iff.1 peeked)

/-- A load takes what it pushes from the locals. -/
theorem loadWords_eq_ok (loaded : frame.loadWords index count = .ok after) :
    after.locals = frame.locals ∧
      ∀ word ∈ after.stack, word ∈ frame.stack ∨ ∃ slot : Nat, frame.locals[slot]? = some word := by
  induction count generalizing frame with
  | zero =>
      cases loaded
      exact ⟨rfl, fun word => Or.inl⟩
  | succ count inductionHypothesis =>
      simp only [loadWords, bind_eq_ok_iff] at loaded
      obtain ⟨value, got, loaded⟩ := loaded
      have held : frame.locals[index + count]? = some value :=
        getLocal_eq_ok_iff.1 (getBound_eq_ok got)
      obtain ⟨locals, origin⟩ := inductionHypothesis loaded
      refine ⟨locals, ?_⟩
      intro word member
      rcases origin word member with there | fromLocal
      · rcases List.mem_cons.1 there with rfl | below
        · exact Or.inr ⟨_, held⟩
        · exact Or.inl below
      · exact Or.inr fromLocal

/-- A store puts words from the stack into locals, and binds each to its local. -/
theorem storeWords_eq_ok (stored : frame.storeWords index count = .ok after) :
    after.locals.length = frame.locals.length ∧
      (∀ slot cell, after.locals[slot]? = some cell →
        frame.locals[slot]? = some cell ∨ ∃ word ∈ frame.stack, { word with slot := some slot } = cell) ∧
      ∀ word ∈ after.stack, word ∈ frame.stack := by
  induction count generalizing frame index with
  | zero =>
      cases stored
      exact ⟨rfl, fun slot cell => Or.inl, fun word => id⟩
  | succ count inductionHypothesis =>
      simp only [storeWords, bind_eq_ok_iff] at stored
      obtain ⟨⟨value, rest⟩, popped, next, set, stored⟩ := stored
      obtain ⟨locals, valueIn, restIn⟩ := pop_eq_ok popped
      obtain ⟨-, rfl⟩ := setLocal_eq_ok_iff.1 set
      obtain ⟨sameLength, origins, stackIn⟩ := inductionHypothesis stored
      refine ⟨?_, ?_, fun word member => restIn word (stackIn word member)⟩
      · rw [sameLength, List.length_set, locals]
      · intro slot cell held
        rcases origins slot cell held with before | ⟨word, member, bound⟩
        · rw [List.getElem?_set] at before
          split at before
          next same =>
            split at before
            next =>
              cases before
              exact Or.inr ⟨value, valueIn, by rw [same]⟩
            next => cases before
          next =>
            rw [locals] at before
            exact Or.inl before
        · exact Or.inr ⟨word, restIn word member, bound⟩

/-- Rearranging the stack adds nothing to it but copies. -/
theorem shuffle_eq_ok {shuffle : Shuffle} (shuffled : frame.shuffle shuffle = .ok after) :
    after.locals = frame.locals ∧ ∀ word ∈ after.stack, word ∈ frame.stack := by
  cases shuffle with
  | pop =>
      simp only [Frame.shuffle, bind_eq_ok_iff] at shuffled
      obtain ⟨⟨top, rest⟩, popped, told⟩ := shuffled
      cases told
      obtain ⟨locals, -, restIn⟩ := pop_eq_ok popped
      exact ⟨locals, restIn⟩
  | pop2 =>
      simp only [Frame.shuffle, bind_eq_ok_iff] at shuffled
      obtain ⟨⟨words, rest⟩, popped, told⟩ := shuffled
      cases told
      exact popMany_eq_ok popped
  | dup =>
      simp only [Frame.shuffle, bind_eq_ok_iff] at shuffled
      obtain ⟨top, peeked, told⟩ := shuffled
      cases told
      exact ⟨rfl, List.forall_mem_cons.2 ⟨peek_mem peeked, fun word => id⟩⟩
  | dupX1 =>
      simp only [Frame.shuffle, bind_eq_ok_iff] at shuffled
      obtain ⟨⟨top, withoutTop⟩, popped, ⟨below, rest⟩, poppedBelow, told⟩ := shuffled
      cases told
      obtain ⟨locals, topIn, withoutIn⟩ := pop_eq_ok popped
      obtain ⟨localsBelow, belowIn, restIn⟩ := pop_eq_ok poppedBelow
      refine ⟨localsBelow.trans locals, ?_⟩
      simp only [push, List.forall_mem_cons]
      exact ⟨topIn, withoutIn below belowIn, topIn, fun word member => withoutIn word (restIn word member)⟩
  | dup2 =>
      simp only [Frame.shuffle, bind_eq_ok_iff] at shuffled
      obtain ⟨top, peeked, below, peekedBelow, told⟩ := shuffled
      cases told
      refine ⟨rfl, ?_⟩
      simp only [push, List.forall_mem_cons]
      exact ⟨peek_mem peeked, peek_mem peekedBelow, fun word => id⟩
  | swap =>
      simp only [Frame.shuffle, bind_eq_ok_iff] at shuffled
      obtain ⟨⟨top, withoutTop⟩, popped, ⟨below, rest⟩, poppedBelow, told⟩ := shuffled
      cases told
      obtain ⟨locals, topIn, withoutIn⟩ := pop_eq_ok popped
      obtain ⟨localsBelow, belowIn, restIn⟩ := pop_eq_ok poppedBelow
      refine ⟨localsBelow.trans locals, ?_⟩
      simp only [push, List.forall_mem_cons]
      exact ⟨withoutIn below belowIn, topIn, fun word member => withoutIn word (restIn word member)⟩

@[simp] theorem stack_writeThrough (frame : Frame) (taint : Taint) :
    (frame.writeThrough taint).stack = frame.stack := by
  unfold writeThrough
  split
  · rfl
  · rfl

@[simp] theorem length_locals_writeThrough (frame : Frame) (taint : Taint) :
    (frame.writeThrough taint).locals.length = frame.locals.length := by
  unfold writeThrough
  split
  · exact List.length_set
  · rfl

/-- A write through a fact reaches only the local that the fact is bound to. -/
theorem getElem?_locals_writeThrough (frame : Frame) (taint : Taint) (slot : Nat) :
    (frame.writeThrough taint).locals[slot]? =
      if taint.slot = some slot then frame.locals[slot]?.map fun _ => taint else frame.locals[slot]? := by
  unfold writeThrough
  cases taint.slot with
  | none => rfl
  | some bound =>
      simp only [List.getElem?_set, Option.some.injEq]
      split
      next same =>
        subst same
        split
        next inside => simp [inside]
        next outside => simp [outside]
      next => rfl

/-- On the stack lie the words of a value, below them an index and an array, as a store to an array needs
them. -/
structure Offers (frame : Frame) (kind : Kind) (words : List Taint) (array : Taint)
    (below : List Taint) : Prop where
  wide : words.length = kind.words
  stack : ∃ index, frame.stack = words ++ index :: array :: below

theorem offers_of_pops {kind : Kind} {index array : Taint} {withoutValue withoutIndex rest : Frame}
    (poppedWords : frame.popMany kind.words = .ok (words, withoutValue))
    (poppedIndex : withoutValue.pop = .ok (index, withoutIndex))
    (poppedArray : withoutIndex.pop = .ok (array, rest)) :
    frame.Offers kind words array rest.stack ∧ frame.locals = rest.locals := by
  obtain ⟨enough, taken, rfl⟩ := popMany_eq_ok_iff.1 poppedWords
  obtain ⟨stackIndex, localsIndex⟩ := pop_eq_ok_iff.1 poppedIndex
  obtain ⟨stackArray, localsArray⟩ := pop_eq_ok_iff.1 poppedArray
  refine ⟨⟨?_, index, ?_⟩, localsIndex.trans localsArray⟩
  · rw [← taken, List.length_take]
    exact Nat.min_eq_left enough
  · rw [← stackArray, ← stackIndex, ← taken, List.take_append_drop]

/-- The top of the stack is replaced if it refers to the same object as an old fact. -/
def refreshTop (frame : Frame) (old new : Taint) : Frame :=
  match frame.stack with
  | top :: below => if top.SameObject old then { frame with stack := new :: below } else frame
  | [] => frame

theorem getElem?_stack_refreshTop (frame : Frame) (old new : Taint) (index : Nat) :
    (frame.refreshTop old new).stack[index]? =
      if index = 0 ∧ ∃ top ∈ frame.stack[0]?, top.SameObject old then some new
      else frame.stack[index]? := by
  unfold refreshTop
  split
  next top below shape =>
    by_cases same : top.SameObject old
    · cases index with
      | zero => simp [shape, same]
      | succ index => simp [shape, same]
    · simp [shape, same]
  next shape => simp [shape]

@[simp] theorem length_stack_refreshTop (frame : Frame) (old new : Taint) :
    (frame.refreshTop old new).stack.length = frame.stack.length := by
  unfold refreshTop
  split
  next top below shape =>
    split
    · simp [shape]
    · rfl
  next => rfl

@[simp] theorem locals_refreshTop (frame : Frame) (old new : Taint) :
    (frame.refreshTop old new).locals = frame.locals := by
  unfold refreshTop
  split
  · split
    · rfl
    · rfl
  · rfl

/-- The frame after the words of a value have been stored in an array. -/
def storing (frame : Frame) (words : List Taint) (array : Taint) (below : List Taint) : Frame :=
  (writeThrough ⟨frame.locals, below⟩ (array.holding words)).refreshTop array (array.holding words)

@[simp] theorem length_locals_storing (frame : Frame) (words : List Taint) (array : Taint)
    (below : List Taint) : (frame.storing words array below).locals.length = frame.locals.length := by
  simp [storing]

@[simp] theorem length_stack_storing (frame : Frame) (words : List Taint) (array : Taint)
    (below : List Taint) : (frame.storing words array below).stack.length = below.length := by
  simp [storing]

theorem getElem?_locals_storing (frame : Frame) (words : List Taint) (array : Taint)
    (below : List Taint) (slot : Nat) :
    (frame.storing words array below).locals[slot]? =
      if array.slot = some slot then frame.locals[slot]?.map fun _ => array.holding words
      else frame.locals[slot]? := by
  rw [storing, locals_refreshTop, getElem?_locals_writeThrough]
  rfl

theorem getElem?_stack_storing (frame : Frame) (words : List Taint) (array : Taint)
    (below : List Taint) (index : Nat) :
    (frame.storing words array below).stack[index]? =
      if index = 0 ∧ ∃ top ∈ below[0]?, top.SameObject array then some (array.holding words)
      else below[index]? := by
  rw [storing, getElem?_stack_refreshTop, stack_writeThrough]

end Frame

/-! ### Plain instructions -/

/-- The instruction may write locals. -/
def Instruction.writesLocals : Instruction → Bool
  | store _ _ | arrayStore _ | invoke _ => true
  | _ => false

namespace Site

variable {site : Site} {instruction : Instruction} {frame after : Frame} {step : Step} {word : Taint}

/-- Where a word that lies on the stack after an instruction comes from: it was there before, it is a
local, the instruction made it out of nothing, it is an element of an array that was there, or it is a
text that words were put together to. -/
inductive Leaves (site : Site) (instruction : Instruction) (frame : Frame) (word : Taint) : Prop where
  | kept (member : word ∈ frame.stack)
  | loaded {slot : Nat} (held : frame.locals[slot]? = some word)
  | made (isMade : word ∈ site.made instruction)
  | element {array : Taint} (member : array ∈ frame.stack)
      (isElement : { array with runtimeClass := none, allocation := none } = word)
  | text (unbound : word.slot = none) (untraced : word.allocation = none)

theorem leaves_pushWords {rest : Frame} {taint : Taint} {count : Nat}
    (below : ∀ word ∈ rest.stack, word ∈ frame.stack) (top : site.Leaves instruction frame taint) :
    ∀ word ∈ (rest.pushWords taint count).stack, site.Leaves instruction frame word := by
  intro word member
  rcases Frame.mem_stack_pushWords member with rfl | old
  · exact top
  · exact .kept (below word old)

theorem leaves_push {rest : Frame} {taint : Taint} (below : ∀ word ∈ rest.stack, word ∈ frame.stack)
    (top : site.Leaves instruction frame taint) :
    ∀ word ∈ (rest.push taint).stack, site.Leaves instruction frame word := by
  rintro word (_ | ⟨_, old⟩)
  · exact top
  · exact .kept (below word old)

/-- An instruction that writes no locals leaves them as they are, and one can tell where all words
come from. -/
theorem keeps_of_step (keeps : instruction.writesLocals = false)
    (acted : (site.step instruction frame).result = .ok step) :
    step.frame.locals = frame.locals ∧
      ∀ word ∈ step.frame.stack, site.Leaves instruction frame word := by
  have same : ∀ word ∈ frame.stack, word ∈ frame.stack := fun word => id
  rw [result_step] at acted
  cases instruction with
  | constant literal =>
      cases acted
      exact ⟨rfl, leaves_pushWords same (.made rfl)⟩
  | getField field isStatic =>
      obtain ⟨after, got, rfl⟩ := act_eq_ok acted
      obtain ⟨owner, rest, popped, rfl⟩ := getField_eq_ok_iff.1 got
      obtain ⟨locals, below⟩ := Frame.popMany_eq_ok popped
      exact ⟨locals, leaves_pushWords below (.made rfl)⟩
  | putField field isStatic =>
      obtain ⟨after, put, rfl⟩ := act_eq_ok acted
      obtain ⟨-, -, words, popped⟩ := putField_eq_ok_iff.1 put
      obtain ⟨locals, below⟩ := Frame.popMany_eq_ok popped
      exact ⟨locals, fun word member => .kept (below word member)⟩
  | load index kind =>
      obtain ⟨after, loaded, rfl⟩ := act_eq_ok acted
      obtain ⟨locals, origin⟩ := Frame.loadWords_eq_ok (load_eq_ok_iff.1 loaded)
      refine ⟨locals, ?_⟩
      intro word member
      rcases origin word member with there | ⟨slot, held⟩
      · exact .kept there
      · exact .loaded held
  | store index kind => cases keeps
  | new className =>
      cases acted
      exact ⟨rfl, leaves_push same (.made rfl)⟩
  | newArray dimensions =>
      obtain ⟨after, sized, rfl⟩ := act_eq_ok acted
      obtain ⟨sizes, rest, popped, rfl⟩ := newArray_eq_ok_iff.1 sized
      obtain ⟨locals, below⟩ := Frame.popMany_eq_ok popped
      exact ⟨locals, leaves_push below (.made rfl)⟩
  | arrayStore kind => cases keeps
  | arrayLoad kind =>
      obtain ⟨after, loaded, rfl⟩ := act_eq_ok acted
      obtain ⟨index, withoutIndex, popped, array, rest, poppedArray, rfl⟩ :=
        Frame.arrayLoad_eq_ok_iff.1 loaded
      obtain ⟨locals, -, withoutIn⟩ := Frame.pop_eq_ok popped
      obtain ⟨localsBelow, arrayIn, restIn⟩ := Frame.pop_eq_ok poppedArray
      refine ⟨localsBelow.trans locals, leaves_pushWords ?_ (.element (withoutIn array arrayIn) rfl)⟩
      exact fun word member => withoutIn word (restIn word member)
  | checkCast className =>
      obtain ⟨after, checked, rfl⟩ := act_eq_ok acted
      rw [Traced.result_liftM, checkCast_eq_ok_iff] at checked
      split at checked
      next =>
        obtain ⟨value, rest, popped, rfl⟩ := checked
        obtain ⟨locals, -, below⟩ := Frame.pop_eq_ok popped
        exact ⟨locals, leaves_push below (.made rfl)⟩
      next =>
        cases checked
        exact ⟨rfl, fun word => .kept⟩
  | «return» kind =>
      cases kind with
      | none =>
          cases acted
          exact ⟨rfl, fun word => .kept⟩
      | some kind =>
          obtain ⟨top, -, words, rest, popped, rfl⟩ := giveBack_eq_ok_iff.1 acted
          obtain ⟨locals, below⟩ := Frame.popMany_eq_ok popped
          exact ⟨locals, fun word member => .kept (below word member)⟩
  | invoke call => cases keeps
  | concat operands =>
      obtain ⟨after, put, rfl⟩ := act_eq_ok acted
      obtain ⟨texts, rest, popped, rfl⟩ := Frame.concatTop_eq_ok_iff.1 put
      obtain ⟨locals, below⟩ := Frame.popMany_eq_ok popped
      exact ⟨locals, leaves_push below (.text rfl rfl)⟩
  | stack shuffle =>
      obtain ⟨after, shuffled, rfl⟩ := act_eq_ok acted
      obtain ⟨locals, below⟩ := Frame.shuffle_eq_ok shuffled
      exact ⟨locals, fun word member => .kept (below word member)⟩
  | other consumed produced =>
      obtain ⟨after, replaced, rfl⟩ := act_eq_ok acted
      obtain ⟨values, rest, popped, rfl⟩ := Frame.replaceTop_eq_ok_iff.1 replaced
      obtain ⟨locals, below⟩ := Frame.popMany_eq_ok popped
      exact ⟨locals, leaves_pushWords below (.made rfl)⟩

/-! ### Stores to arrays -/

theorem result_arrayStore (kind : Kind) :
    (site.arrayStore kind frame).result = (do
      let (words, withoutValue) ← frame.popMany kind.words
      let (_, withoutIndex) ← withoutValue.pop
      let (array, rest) ← withoutIndex.pop
      .ok ((rest.writeThrough (array.holding words)).refreshTop array (array.holding words))) := by
  simp only [arrayStore, Traced.result_bind, Traced.result_liftM, result_writeThrough]
  refine bind_congr fun taken => ?_
  obtain ⟨words, withoutValue⟩ := taken
  refine bind_congr fun taken => ?_
  obtain ⟨index, withoutIndex⟩ := taken
  refine bind_congr fun taken => ?_
  obtain ⟨array, rest⟩ := taken
  generalize rest.writeThrough (array.holding words) = written
  obtain ⟨locals, stack⟩ := written
  cases stack with
  | nil => rfl
  | cons top below =>
      by_cases same : top.SameObject array
      · simp [Frame.refreshTop, same, bind, Except.bind]
      · simp [Frame.refreshTop, same, bind, Except.bind]

/-- What is known of an array after a store goes to the local that it is bound to, and to a second
reference on top of what is left. -/
theorem arrayStore_eq_ok_iff {kind : Kind} :
    (site.arrayStore kind frame).result = .ok after ↔
      ∃ words array below, frame.Offers kind words array below ∧
        frame.storing words array below = after := by
  rw [result_arrayStore]
  constructor
  · intro succeeds
    simp only [bind_eq_ok_iff] at succeeds
    obtain ⟨⟨words, withoutValue⟩, poppedWords, ⟨index, withoutIndex⟩, poppedIndex, ⟨array, rest⟩,
      poppedArray, told⟩ := succeeds
    obtain ⟨offers, locals⟩ := Frame.offers_of_pops poppedWords poppedIndex poppedArray
    refine ⟨words, array, rest.stack, offers, ?_⟩
    rw [Frame.storing, locals]
    exact Except.ok.inj told
  · rintro ⟨words, array, below, ⟨wide, index, stack⟩, rfl⟩
    have popped : frame.popMany kind.words =
        .ok (words, ⟨frame.locals, index :: array :: below⟩) := by
      refine Frame.popMany_eq_ok_iff.2 ⟨?_, ?_, ?_⟩
      · simp [Frame.depth, stack, wide]
      · rw [stack, ← wide, List.take_left]
      · rw [stack, ← wide, List.drop_left]
    rw [popped]
    rfl

/-! ### Calls -/

section Calls

variable {call : Call} {signature : Signature} {receiver : Option Taint} {summary : Option Summary}
  {good : Frame → Prop}

/-- The fact about an argument that a callee may have written anything to. -/
def exposed (site : Site) (argument : Taint) : Taint :=
  ((argument.join .unknown).identifiedAs argument).addLocation site.location

@[simp] theorem result_overwrite (index : Nat) (taint : Taint) :
    (site.overwrite frame index taint).result = (frame.writeThrough taint).poke index taint := by
  rw [overwrite, Traced.result_bind, result_writeThrough]
  rfl

theorem exposeArgument_eq_ok {index : Nat}
    (exposes : (site.exposeArgument frame index).result = .ok after) :
    ∃ argument, frame.peek index = .ok argument ∧
      (frame.writeThrough (site.exposed argument)).poke index (site.exposed argument) = .ok after := by
  rw [exposeArgument, Traced.result_bind, bind_eq_ok_iff] at exposes
  obtain ⟨argument, peeked, overwritten⟩ := exposes
  rw [result_overwrite] at overwritten
  exact ⟨argument, peeked, overwritten⟩

/-- What is kept when an argument is exposed is kept by all the writes that are assumed. These are made only
if no human has described the callee. -/
theorem assumeWrites_keeps_of_mem
    (exposes : ∀ {frame after : Frame} {index : Nat} {argument : Taint},
      (∀ known ∈ summary, known.configured = false) → index ∈ site.context.policy.exposed signature →
      good frame → frame.peek index = .ok argument →
      (frame.writeThrough (site.exposed argument)).poke index (site.exposed argument) = .ok after →
      good after)
    (begun : good frame) (assumes : (site.assumeWrites summary signature frame).result = .ok after) :
    good after := by
  unfold assumeWrites at assumes
  split at assumes
  next =>
    cases assumes
    exact begun
  next unconfigured =>
    have undescribed : ∀ known ∈ summary, known.configured = false := by
      rintro known rfl
      simpa using unconfigured
    rw [Traced.result_foldlM] at assumes
    refine foldlM_keeps_of_mem good ?_ begun assumes
    intro before index next member kept exposed
    obtain ⟨argument, peeked, overwritten⟩ := exposeArgument_eq_ok exposed
    exact exposes undescribed member kept peeked overwritten

theorem assumeWrites_keeps
    (exposes : ∀ {frame after : Frame} {index : Nat} {argument : Taint}, good frame →
      frame.peek index = .ok argument →
      (frame.writeThrough (site.exposed argument)).poke index (site.exposed argument) = .ok after →
      good after)
    (begun : good frame) (assumes : (site.assumeWrites summary signature frame).result = .ok after) :
    good after :=
  assumeWrites_keeps_of_mem (fun _ _ => exposes) begun assumes

/-- What is kept when an argument takes on the fact about the result is kept by all the writes that a
summary lists. -/
theorem writeMutated_keeps_of_mem {result : Taint}
    (writes : ∀ {frame after : Frame} {known : Summary} {index : Nat} {argument : Taint},
      known ∈ summary → index ∈ known.mutated → good frame → frame.peek index = .ok argument →
      (frame.writeThrough (result.identifiedAs argument)).poke index (result.identifiedAs argument) =
        .ok after →
      good after)
    (begun : good frame) (written : (site.writeMutated summary result frame).result = .ok after) :
    good after := by
  unfold writeMutated at written
  split at written
  next known =>
    rw [Traced.result_foldlM] at written
    refine foldlM_keeps_of_mem good ?_ begun written
    intro before index next member kept wrote
    unfold writeArgument at wrote
    split at wrote
    next =>
      rw [Traced.result_bind, bind_eq_ok_iff] at wrote
      obtain ⟨argument, peeked, overwritten⟩ := wrote
      rw [result_overwrite] at overwritten
      exact writes rfl (Std.ExtTreeSet.mem_toList.1 member) kept peeked overwritten
    next =>
      cases wrote
      exact kept
  next =>
    cases written
    exact begun

theorem writeMutated_keeps {result : Taint}
    (writes : ∀ {frame after : Frame} {index : Nat} {argument : Taint}, good frame →
      frame.peek index = .ok argument →
      (frame.writeThrough (result.identifiedAs argument)).poke index (result.identifiedAs argument) =
        .ok after →
      good after)
    (begun : good frame) (written : (site.writeMutated summary result frame).result = .ok after) :
    good after :=
  writeMutated_keeps_of_mem (fun _ _ => writes) begun written

/-- A second reference to a constructed object is given the fact about the first one, or nothing
happens. -/
theorem refreshDuplicate_eq_ok {consumed : Nat}
    (refreshes : frame.refreshDuplicate consumed receiver = .ok after) :
    frame = after ∨
      ∃ initialized, frame.peek (consumed - 1) = .ok initialized ∧
        frame.poke consumed initialized = .ok after := by
  unfold Frame.refreshDuplicate at refreshes
  split at refreshes
  next =>
    split at refreshes
    next => exact Or.inr (bind_eq_ok_iff.1 refreshes)
    next => exact Or.inl (Except.ok.inj refreshes)
  next => exact Or.inl (Except.ok.inj refreshes)

/-- At the end of a call only the stack changes. -/
theorem locals_of_refreshDuplicate {refreshed rest : Frame} {words : List Taint} {consumed : Nat}
    (refreshes : frame.refreshDuplicate consumed receiver = .ok refreshed)
    (popped : refreshed.popMany consumed = .ok (words, rest)) : rest.locals = frame.locals := by
  rw [(Frame.popMany_eq_ok popped).1]
  rcases refreshDuplicate_eq_ok refreshes with rfl | ⟨initialized, -, poked⟩
  · rfl
  · rcases Frame.poke_eq_ok_iff.1 poked with ⟨-, rfl⟩
    rfl

/-- The object that a call returns is not identified, or it is the receiver. -/
theorem returnedObject_eq_ok {result object : Taint}
    (returns : call.returnedObject signature summary frame result = .ok object) :
    object.Alike result ∧
      (object.slot = none ∧ object.allocation = none ∨
        ∃ receiver ∈ frame.stack, object.slot = receiver.slot ∧
          object.allocation = receiver.allocation) := by
  unfold Call.returnedObject at returns
  dsimp only at returns
  split at returns
  next =>
    rw [bind_eq_ok_iff] at returns
    obtain ⟨receiver, peeked, told⟩ := returns
    cases told
    exact ⟨Taint.alike_relabel, Or.inr ⟨receiver, Frame.peek_mem peeked, rfl, rfl⟩⟩
  next =>
    cases returns
    exact ⟨Taint.alike_relabel, Or.inl ⟨rfl, rfl⟩⟩

/-- The parts of a call that a summary describes: the fact about its result, the writes that are assumed
and those that the summary lists, the object that is returned, and the new stack. -/
inductive Applies (site : Site) (call : Call) (signature : Signature) (receiver : Option Taint)
    (summary : Option Summary) (frame after : Frame) : Prop where
  | intro {unsigned object : Taint} {assumed written refreshed rest : Frame} {words : List Taint}
      (resulted : site.resultTaint frame summary = .ok unsigned)
      (assumes : (site.assumeWrites summary signature frame).result = .ok assumed)
      (writes : (site.writeMutated summary (site.signed call unsigned) assumed).result = .ok written)
      (returns : call.returnedObject signature summary written (site.signed call unsigned) = .ok object)
      (refreshes : written.refreshDuplicate (signature.parameterWords + call.receiverWords) receiver =
        .ok refreshed)
      (popped : refreshed.popMany (signature.parameterWords + call.receiverWords) = .ok (words, rest))
      (pushed : rest.pushWords object signature.returnWords = after) :
      Applies site call signature receiver summary frame after

theorem applySummary_eq_ok
    (applied : (site.applySummary call signature receiver summary frame).result = .ok after) :
    site.Applies call signature receiver summary frame after := by
  simp only [applySummary, Traced.result_bind, Traced.result_liftM, bind_eq_ok_iff] at applied
  obtain ⟨unsigned, resulted, assumed, assumes, written, writes, object, returns, refreshed, refreshes,
    ⟨words, rest⟩, popped, -, -, told⟩ := applied
  cases told
  exact .intro resulted assumes writes returns refreshes popped rfl

/-- A call reads its descriptor, finds its summary and acts as that says. -/
theorem invoke_eq_ok (invoked : (site.invoke call frame).result = .ok after) :
    ∃ signature receiver summary, Signature.parse call.descriptor = .ok signature ∧
      call.constructed signature frame = .ok receiver ∧
      (site.resolve frame call signature).result = .ok summary ∧
      site.Applies call signature receiver summary frame after := by
  simp only [invoke, Traced.result_bind, Traced.result_liftM, bind_eq_ok_iff] at invoked
  obtain ⟨-, -, signature, parsed, receiver, constructed, summary, resolved, applied⟩ := invoked
  exact ⟨signature, receiver, summary, parsed, constructed, resolved, applySummary_eq_ok applied⟩

end Calls

end Site

end TaintFlow
