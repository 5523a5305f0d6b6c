/-
Module: TaintFlow.Proofs.Aliases
Purpose: What identifies the object of a fact keeps its meaning during a run: every local is bound to
  itself, a word is bound only to a local that there is, and an object is traced only to an instruction
  that creates objects and has been visited.
Main exports: Taint.Identified, Frame.OwnBound, Frame.WellBound, Site.step_wellBound, Task.maintains_wellBound,
  Task.run_keeps_aliases
-/
import TaintFlow.Policy.Declarations
import TaintFlow.Proofs.Effects
import TaintFlow.Proofs.Entry
import TaintFlow.Proofs.Faults
import TaintFlow.Proofs.Occurrence

namespace TaintFlow

variable {count : Nat} {created created' : Offset → Prop}

/-! ### Facts -/

/-- What identifies the object of a fact makes sense: it is bound to one of the locals, and objects are
created where it is traced to. -/
structure Taint.Identified (count : Nat) (created : Offset → Prop) (taint : Taint) : Prop where
  slot : ∀ slot ∈ taint.slot, slot < count
  allocation : ∀ offset ∈ taint.allocation, created offset

namespace Taint

variable {taint other : Taint}

theorem identified_of_none (unbound : taint.slot = none) (untraced : taint.allocation = none) :
    taint.Identified count created := by
  constructor
  · simp [unbound]
  · simp [untraced]

/-- Nothing but the local and the allocation matters. -/
theorem Identified.relabel (identified : taint.Identified count created)
    (sameSlot : other.slot = taint.slot) (sameAllocation : other.allocation = taint.allocation) :
    other.Identified count created := by
  constructor
  · rw [sameSlot]
    exact identified.slot
  · rw [sameAllocation]
    exact identified.allocation

theorem Identified.bind {slot : Nat} (identified : taint.Identified count created)
    (inside : slot < count) : ({ taint with slot := some slot } : Taint).Identified count created := by
  constructor
  · simpa using inside
  · exact identified.allocation

theorem Identified.mono (widens : ∀ offset, created offset → created' offset)
    (identified : taint.Identified count created) : taint.Identified count created' :=
  ⟨identified.slot, fun offset traced => widens offset (identified.allocation offset traced)⟩

/-- What facts agree on makes sense where it does for one of them. -/
theorem Identified.absorb (identified : taint.Identified count created) (other : Taint) :
    (taint.absorb other).Identified count created := by
  constructor
  · intro slot bound
    rw [slot_absorb, Option.mem_def, agreed_eq_some_iff] at bound
    exact identified.slot slot bound.1
  · intro offset traced
    rw [allocation_absorb, Option.mem_def, agreed_eq_some_iff] at traced
    exact identified.allocation offset traced.1

end Taint

/-! ### Frames -/

namespace Frame

/-- Every local is bound to itself. -/
def OwnBound (frame : Frame) : Prop :=
  ∀ (slot : Nat) (cell : Taint), frame.locals[slot]? = some cell → cell.slot = some slot

theorem ownBound_iff {frame : Frame} :
    frame.OwnBound ↔ frame.locals.map Taint.slot = (List.range frame.locals.length).map some := by
  constructor
  · intro own
    apply List.ext_getElem?
    intro slot
    by_cases inside : slot < frame.locals.length
    · have held := own slot _ (List.getElem?_eq_getElem inside)
      simp [inside, held]
    · simp [inside]
  · intro same slot cell held
    have read := congrArg (·[slot]?) same
    obtain ⟨inside, rfl⟩ := List.getElem?_eq_some_iff.1 held
    simpa [inside] using read

instance (frame : Frame) : Decidable frame.OwnBound :=
  decidable_of_iff _ ownBound_iff.symm

/-- A frame with the given number of locals, each bound to itself, and with facts whose identification
makes sense. -/
structure WellBound (count : Nat) (created : Offset → Prop) (frame : Frame) : Prop where
  size : frame.locals.length = count
  own : frame.OwnBound
  identified : frame.All (Taint.Identified count created)

variable {frame other joined after : Frame} {taint : Taint}

theorem WellBound.mono (widens : ∀ offset, created offset → created' offset)
    (wellBound : frame.WellBound count created) : frame.WellBound count created' where
  size := wellBound.size
  own := wellBound.own
  identified :=
    ⟨fun cell member => (wellBound.identified.locals cell member).mono widens,
      fun cell member => (wellBound.identified.stack cell member).mono widens⟩

/-- Both frames bind a local to itself, and that is what they agree on. -/
theorem WellBound.join {changed : Bool} (wellBound : frame.WellBound count created)
    (otherWellBound : other.WellBound count created)
    (met : frame.join other = .ok (joined, changed)) : joined.WellBound count created := by
  have identified : joined.All (Taint.Identified count created) :=
    wellBound.identified.join (fun one two known _ => known.absorb two) otherWellBound.identified met
  obtain ⟨sameLocals, -, rfl, -⟩ := join_eq_ok_iff.1 met
  refine ⟨?_, ?_, identified⟩
  · rw [List.length_zipWith, ← sameLocals, Nat.min_self]
    exact wellBound.size
  · intro slot cell held
    obtain ⟨mine, theirs, heldMine, heldTheirs, rfl⟩ := List.getElem?_zipWith_eq_some.1 held
    rw [Taint.slot_absorb, agreed_eq_some_iff]
    exact ⟨wellBound.own slot mine heldMine, otherWellBound.own slot theirs heldTheirs⟩

/-- Locals may be written, as long as each is bound to itself. -/
theorem WellBound.rewrite (wellBound : frame.WellBound count created)
    (sameLength : after.locals.length = frame.locals.length)
    (cells : ∀ (slot : Nat) (cell : Taint), after.locals[slot]? = some cell →
      frame.locals[slot]? = some cell ∨ cell.slot = some slot ∧ cell.Identified count created)
    (stack : ∀ word ∈ after.stack, word.Identified count created) : after.WellBound count created := by
  refine ⟨sameLength.trans wellBound.size, ?_, ?_, stack⟩
  · intro slot cell held
    rcases cells slot cell held with before | ⟨bound, -⟩
    · exact wellBound.own slot cell before
    · exact bound
  · intro cell member
    obtain ⟨slot, held⟩ := List.getElem?_of_mem member
    rcases cells slot cell held with before | ⟨-, identified⟩
    · exact wellBound.identified.locals cell (List.mem_of_getElem? before)
    · exact identified

theorem WellBound.of_locals_eq (wellBound : frame.WellBound count created)
    (same : after.locals = frame.locals)
    (stack : ∀ word ∈ after.stack, word.Identified count created) : after.WellBound count created := by
  apply wellBound.rewrite _ _ stack
  · rw [same]
  · intro slot cell held
    rw [same] at held
    exact Or.inl held

theorem WellBound.storeWords {index words : Nat} (wellBound : frame.WellBound count created)
    (stored : frame.storeWords index words = .ok after) : after.WellBound count created := by
  obtain ⟨sameLength, origins, stackIn⟩ := storeWords_eq_ok stored
  apply wellBound.rewrite sameLength
  · intro slot cell held
    rcases origins slot cell held with before | ⟨word, member, rfl⟩
    · exact Or.inl before
    · have inside : slot < count := by
        obtain ⟨inside, -⟩ := List.getElem?_eq_some_iff.1 held
        rwa [sameLength, wellBound.size] at inside
      exact Or.inr ⟨rfl, (wellBound.identified.stack word member).bind inside⟩
  · exact fun word member => wellBound.identified.stack word (stackIn word member)

theorem WellBound.writeThrough (wellBound : frame.WellBound count created)
    (identified : taint.Identified count created) : (frame.writeThrough taint).WellBound count created := by
  apply wellBound.rewrite (length_locals_writeThrough frame taint)
  · intro slot cell held
    rw [getElem?_locals_writeThrough] at held
    split at held
    next bound =>
      obtain ⟨old, -, rfl⟩ := Option.map_eq_some_iff.1 held
      exact Or.inr ⟨bound, identified⟩
    next => exact Or.inl held
  · rw [stack_writeThrough]
    exact wellBound.identified.stack

theorem WellBound.poke {index : Nat} (wellBound : frame.WellBound count created)
    (identified : taint.Identified count created) (poked : frame.poke index taint = .ok after) :
    after.WellBound count created := by
  have all := wellBound.identified.poke identified poked
  obtain ⟨-, rfl⟩ := poke_eq_ok_iff.1 poked
  exact wellBound.of_locals_eq rfl all.stack

theorem WellBound.popMany {words : Nat} {popped : List Taint} (wellBound : frame.WellBound count created)
    (taken : frame.popMany words = .ok (popped, after)) : after.WellBound count created := by
  obtain ⟨locals, below⟩ := popMany_eq_ok taken
  exact wellBound.of_locals_eq locals
    fun word member => wellBound.identified.stack word (below word member)

theorem WellBound.pushWords {words : Nat} (wellBound : frame.WellBound count created)
    (identified : taint.Identified count created) :
    (frame.pushWords taint words).WellBound count created :=
  wellBound.of_locals_eq rfl (wellBound.identified.pushWords identified).stack

theorem WellBound.refreshTop (wellBound : frame.WellBound count created) (old : Taint)
    (identified : taint.Identified count created) :
    (frame.refreshTop old taint).WellBound count created := by
  unfold Frame.refreshTop
  split
  next top below shape =>
    split
    next =>
      refine wellBound.of_locals_eq rfl ?_
      intro word member
      rcases List.mem_cons.1 member with rfl | old
      · exact identified
      · exact wellBound.identified.stack word (shape ▸ List.mem_cons_of_mem top old)
    next => exact wellBound
  next => exact wellBound

theorem wellBound_fresh (count : Nat) (created : Offset → Prop) :
    (Frame.fresh count).WellBound count created := by
  refine ⟨by simp [fresh], ?_, ?_, by simp [fresh]⟩
  · intro slot cell held
    simp only [fresh, List.getElem?_map, Option.map_eq_some_iff] at held
    obtain ⟨same, read, rfl⟩ := held
    obtain ⟨-, rfl⟩ := List.getElem?_eq_some_iff.1 read
    simp
  · intro cell member
    simp only [fresh, List.mem_map, List.mem_range] at member
    obtain ⟨slot, inside, rfl⟩ := member
    have unknown : Taint.unknown.Identified count created := Taint.identified_of_none rfl rfl
    exact unknown.bind inside

theorem WellBound.bindLocals {slot : Nat} {taints : List Taint} (wellBound : frame.WellBound count created)
    (identified : ∀ taint ∈ taints, taint.Identified count created)
    (bound : frame.bindLocals slot taints = .ok after) : after.WellBound count created := by
  induction taints generalizing frame slot with
  | nil =>
      cases bound
      exact wellBound
  | cons taint later inductionHypothesis =>
      rw [Frame.bindLocals, bind_eq_ok_iff] at bound
      obtain ⟨next, set, rest⟩ := bound
      obtain ⟨inside, rfl⟩ := setLocal_eq_ok_iff.1 set
      rw [List.forall_mem_cons] at identified
      refine inductionHypothesis ?_ identified.2 rest
      apply wellBound.rewrite (List.length_set)
      · intro other cell held
        rw [List.getElem?_set] at held
        split at held
        next same =>
          subst same
          cases held
          exact Or.inr ⟨rfl, identified.1.bind (wellBound.size ▸ inside)⟩
        next => exact Or.inl held
      · exact wellBound.identified.stack

end Frame

/-- Whatever a method is called with, it is not yet known where that was created. -/
theorem calledFrame_wellBound {policy : Policy} {method : Method} {signature : Signature}
    {argument : String → Nat → Taint} {entry : Frame}
    (unidentified : ∀ name index, (argument name index).slot = none ∧
      (argument name index).allocation = none)
    (entered : calledFrame policy method signature argument = .ok entry) :
    entry.WellBound method.maxLocals created := by
  apply (Frame.wellBound_fresh method.maxLocals created).bindLocals _ entered
  apply forall_mem_entryTaints
  · exact Taint.identified_of_none rfl rfl
  · intro name index _
    exact Taint.identified_of_none (unidentified name index).1 (unidentified name index).2

/-! ### Instructions -/

/-- The instruction creates an object. -/
def Instruction.creates : Instruction → Bool
  | new _ | newArray _ => true
  | _ => false

namespace Site

variable {site : Site} {instruction : Instruction} {frame after : Frame} {step : Step} {taint : Taint}

@[simp] theorem slot_remark (words : Unit → String) : (site.remark words taint).slot = taint.slot := by
  unfold remark
  split
  · rfl
  · rfl

@[simp] theorem allocation_remark (words : Unit → String) :
    (site.remark words taint).allocation = taint.allocation := by
  unfold remark
  split
  · rfl
  · rfl

/-- A fact that is made out of nothing is bound to no local, and is traced to here if an object was
created. -/
theorem made_identified (creates : instruction.creates → created site.offset)
    (made : taint ∈ site.made instruction) : taint.Identified count created := by
  cases instruction with
  | constant literal =>
      cases made
      cases literal <;> exact Taint.identified_of_none (slot_remark _) (allocation_remark _)
  | getField field isStatic =>
      cases made
      unfold fieldTaint
      apply Taint.identified_of_none
      · rw [slot_remark]
        split <;> rfl
      · rw [allocation_remark]
        split <;> rfl
  | new className =>
      cases made
      constructor
      · simp [objectTaint, Taint.safe, Taint.of]
      · simpa [objectTaint] using creates rfl
  | newArray dimensions =>
      cases made
      constructor
      · simp [arrayTaint, Taint.safe, Taint.of]
      · simpa [arrayTaint] using creates rfl
  | checkCast className =>
      cases made
      exact Taint.identified_of_none (slot_remark _) (allocation_remark _)
  | concat operands =>
      cases made
      exact Taint.identified_of_none rfl rfl
  | other consumed produced =>
      cases made
      exact Taint.identified_of_none rfl rfl
  | _ => cases made

theorem Leaves.identified (creates : instruction.creates → created site.offset)
    (wellBound : frame.WellBound count created) (leaves : site.Leaves instruction frame taint) :
    taint.Identified count created := by
  cases leaves with
  | kept member => exact wellBound.identified.stack taint member
  | loaded held => exact wellBound.identified.locals taint (List.mem_of_getElem? held)
  | made isMade => exact made_identified creates isMade
  | element member isElement =>
      subst isElement
      constructor
      · exact (wellBound.identified.stack _ member).slot
      · simp
  | text unbound untraced => exact Taint.identified_of_none unbound untraced

theorem arrayStore_wellBound {kind : Kind} (wellBound : frame.WellBound count created)
    (stored : (site.arrayStore kind frame).result = .ok after) : after.WellBound count created := by
  obtain ⟨words, array, below, ⟨-, index, stack⟩, rfl⟩ := arrayStore_eq_ok_iff.1 stored
  have identified (word : Taint) (member : word ∈ frame.stack) : word.Identified count created :=
    wellBound.identified.stack word member
  rw [stack] at identified
  have merged : (array.holding words).Identified count created :=
    (identified array (by simp)).relabel rfl rfl
  have rest : (⟨frame.locals, below⟩ : Frame).WellBound count created :=
    wellBound.of_locals_eq rfl fun word member => identified word (by simp [member])
  exact (rest.writeThrough merged).refreshTop array merged

/-- A fact that takes the place of another one about the same object keeps locals bound to
themselves. -/
theorem overwrite_wellBound {index : Nat} {argument : Taint} (wellBound : frame.WellBound count created)
    (peeked : frame.peek index = .ok argument) (sameSlot : taint.slot = argument.slot)
    (sameAllocation : taint.allocation = argument.allocation)
    (overwritten : (frame.writeThrough taint).poke index taint = .ok after) :
    after.WellBound count created := by
  have identified : taint.Identified count created :=
    (wellBound.identified.peek peeked).relabel sameSlot sameAllocation
  exact (wellBound.writeThrough identified).poke identified overwritten

/-- A call gives facts to words and locals that are there, and these go on being what they were. The
template of a summary never identifies an object. -/
theorem invoke_wellBound {call : Call} (wellBound : frame.WellBound count created)
    (invoked : (site.invoke call frame).result = .ok after) : after.WellBound count created := by
  obtain ⟨signature, receiver, summary, -, -, -, applies⟩ := invoke_eq_ok invoked
  obtain @⟨unsigned, object, assumed, written, refreshed, rest, words, -, assumes, writes, returns,
    refreshes, popped, rfl⟩ := applies
  have assumedBound : assumed.WellBound count created :=
    assumeWrites_keeps (fun kept peeked => overwrite_wellBound kept peeked rfl rfl) wellBound assumes
  have writtenBound : written.WellBound count created :=
    writeMutated_keeps (fun kept peeked => overwrite_wellBound kept peeked rfl rfl) assumedBound writes
  have refreshedBound : refreshed.WellBound count created := by
    rcases refreshDuplicate_eq_ok refreshes with rfl | ⟨initialized, peeked, poked⟩
    · exact writtenBound
    · exact writtenBound.poke (writtenBound.identified.peek peeked) poked
  have identified : object.Identified count created := by
    rcases (returnedObject_eq_ok returns).2 with ⟨unbound, untraced⟩ | ⟨receiver, member, slot, allocation⟩
    · exact Taint.identified_of_none unbound untraced
    · exact (writtenBound.identified.stack receiver member).relabel slot allocation
  exact (refreshedBound.popMany popped).pushWords identified

/-- Every instruction keeps locals bound to themselves and objects identified. -/
theorem step_wellBound (creates : instruction.creates → created site.offset)
    (wellBound : frame.WellBound count created)
    (acted : (site.step instruction frame).result = .ok step) :
    step.frame.WellBound count created := by
  cases writes : instruction.writesLocals with
  | false =>
      obtain ⟨locals, origin⟩ := keeps_of_step writes acted
      exact wellBound.of_locals_eq locals
        fun word member => (origin word member).identified creates wellBound
  | true =>
      rw [result_step] at acted
      cases instruction with
      | store index kind =>
          obtain ⟨after, stored, rfl⟩ := act_eq_ok acted
          exact wellBound.storeWords stored
      | arrayStore kind =>
          obtain ⟨after, stored, rfl⟩ := act_eq_ok acted
          exact arrayStore_wellBound wellBound stored
      | invoke call =>
          obtain ⟨after, invoked, rfl⟩ := act_eq_ok acted
          exact invoke_wellBound wellBound invoked
      | _ => cases writes

end Site

/-! ### Runs -/

/-- The fault says that locals are not what they should be. -/
def Fault.isAliasing : Fault → Bool
  | aliasMismatch _ _ | localCountMismatch _ _ => true
  | _ => false

theorem Fault.isAliasing_of_isOrdinary {fault : Fault} (ordinary : fault.isOrdinary) :
    fault.isAliasing = false := by
  cases fault with
  | aliasMismatch slot bound => cases ordinary
  | localCountMismatch left right => cases ordinary
  | _ => rfl

/-- If the computation fails, then not because of the locals. -/
abbrev Unaliased {α : Type} (computation : Except Failure α) : Prop :=
  Raises (fun failure => failure.fault.isAliasing = false) computation

/-- Frames with as many locals fail to meet only because of their stacks. -/
theorem Frame.raises_join {frame other : Frame} (sameSize : frame.locals.length = other.locals.length) :
    Raises (fun fault => fault.isAliasing = false) (frame.join other) := by
  rw [Frame.join_eq]
  split
  next differ => exact absurd sameSize differ
  next =>
    split
    next => exact raises_error rfl
    next => exact raises_ok _

namespace Task

variable {task : Task} {solver start : Solver} {offset : Offset}

/-- An object may be traced to a location that has been visited and holds an instruction that creates
objects. -/
def Created (task : Task) (visited : Offset → Prop) (offset : Offset) : Prop :=
  visited offset ∧ ∃ instruction, task.body.instruction? offset = some instruction ∧ instruction.creates

/-- The frame has the locals of the method, each bound to itself, and no fact is identified by anything
that is not there. -/
abbrev WellBound (task : Task) (visited : Offset → Prop) (frame : Frame) : Prop :=
  frame.WellBound task.method.maxLocals (task.Created visited)

theorem steady_wellBound (task : Task) : Steady task.WellBound where
  widens wider wellBound :=
    wellBound.mono fun offset created => ⟨wider offset created.1, created.2⟩
  meets wellBound otherWellBound met := wellBound.join otherWellBound met

/-- An instruction that creates an object does so where it has just been visited. -/
theorem Acts.wellBound {instruction : Instruction} {frame : Frame} {step : Step}
    (acts : task.Acts solver offset instruction frame step)
    (wellBound : task.WellBound (solver.take offset).Visited frame) :
    task.WellBound (solver.take offset).Visited step.frame := by
  refine Site.step_wellBound ?_ wellBound acts.acted
  intro creates
  exact ⟨Solver.visited_take.2 (Or.inl rfl), instruction, acts.code, creates⟩

theorem maintains_wellBound (task : Task) (start : Solver) : task.Maintains start task.WellBound where
  toSteady := task.steady_wellBound
  steps _ acts wellBound := acts.wellBound wellBound

/-- A run begins with locals that are bound to themselves. -/
theorem stores_wellBound_start {signature : Signature} {entry : Frame}
    (entered : entryFrame task.context.policy task.method signature = .ok entry) :
    Stores task.WellBound (.start task.body.entry entry) :=
  satisfied_start (calledFrame_wellBound (fun _ _ => ⟨rfl, rfl⟩) entered)

/-! ### Faults that do not occur -/

/-- Every frame that is stored has the given number of locals. -/
abbrev Sized (count : Nat) (solver : Solver) : Prop :=
  Satisfied (fun _ frame => frame.locals.length = count) (fun _ => True) solver

theorem Sized.receives {target : Offset} {frame : Frame} {after : Solver} (sized : Sized count solver)
    (size : frame.locals.length = count) (received : Solver.Receives target frame solver after) :
    Sized count after := by
  refine Satisfied.receives sized ?_ size received
  intro offset known other joined changed knownSize otherSize met
  obtain ⟨-, -, rfl, -⟩ := Frame.join_eq_ok_iff.1 met
  simp [knownSize, otherSize]

/-- Where the stored frames are bound well, a visit finds every local bound to itself and as many locals
as everywhere. -/
theorem explore_unaliased (stores : Stores task.WellBound solver) :
    Unaliased (task.explore offset (solver.take offset)).result := by
  unfold explore
  split
  next instruction frame code reached =>
    have wellBound : task.WellBound solver.Visited frame := stores.frames offset frame reached
    rw [Traced.result_bind, Traced.result_mapError]
    refine Raises.bind_of_eq_ok ?_ ?_
    · refine (Site.raises_step (fun _ => Fault.isAliasing_of_isOrdinary) ?_ instruction).mapError
        fun _ => id
      exact fun slot taint held mismatched => absurd (wellBound.own slot taint held) mismatched
    · intro step acted
      rw [mapError_eq_ok_iff] at acted
      have everywhere : frame.WellBound task.method.maxLocals fun _ => True :=
        wellBound.mono fun _ _ => trivial
      have size : step.frame.locals.length = task.method.maxLocals :=
        (Site.step_wellBound (fun _ => trivial) everywhere acted).size
      rw [Traced.result_foldlM]
      refine Raises.foldlM_of_keeps (Sized task.method.maxLocals) ?_ ?_ ?_
      · intro before target sized
        have meets (known : Frame) (there : before.frames[target]? = some known) :
            Raises (fun fault => fault.isAliasing = false) (known.join step.frame) :=
          Frame.raises_join ((sized.frames target known there).trans size.symm)
        exact raises_flow (fun _ => rfl) offset instruction meets
      · intro before target next sized flows
        exact sized.receives size (flow_eq_ok flows).2
      · exact ⟨fun other known there => (stores.frames other known there).size, fun _ _ => trivial⟩
  next => exact raises_error rfl

theorem drain_unaliased {budget : Nat} (begun : Stores task.WellBound start)
    (reaches : task.Reaches start solver) : Unaliased (task.drain budget solver).result := by
  induction budget generalizing solver with
  | zero =>
      unfold drain
      split
      · exact raises_ok _
      · exact raises_error rfl
  | succ budget inductionHypothesis =>
      unfold drain
      split
      next => exact raises_ok _
      next offset lowest =>
        rw [Traced.result_bind]
        refine Raises.bind_of_eq_ok ?_ ?_
        · rw [result_visit]
          split
          · exact raises_error rfl
          · exact explore_unaliased ((task.maintains_wellBound start).reaches begun reaches)
        · intro after visited
          apply inductionHypothesis
          exact reaches.tail ⟨offset, Solver.mem_pending_of_lowest lowest, visit_eq_ok visited⟩

theorem run_unaliased : Unaliased task.run.result := by
  refine raises_run (fun _ => rfl) (fun _ => Fault.isAliasing_of_isOrdinary) ?_
  intro signature entry entered
  exact drain_unaliased (stores_wellBound_start entered) .refl

/-- Under every policy and with whatever summaries, and also in the middle of a visit and in a run that
fails in the end: a frame has the locals of the method, each bound to itself, every word is bound to one
of them if to any, and every object is traced to a location that has been visited and creates objects.
That is why a run fails neither because a local is not bound to itself nor because frames differ in
their locals. -/
theorem run_keeps_aliases (task : Task) :
    (∀ signature entry, task.method.signature = .ok signature →
      entryFrame task.context.policy task.method signature = .ok entry →
      ∀ solver frame, task.Occurs (.start task.body.entry entry) solver frame →
        task.WellBound solver.Visited frame) ∧
    ∀ failure, task.run.result = .error failure →
      (∀ slot bound, failure.fault ≠ .aliasMismatch slot bound) ∧
        ∀ left right, failure.fault ≠ .localCountMismatch left right := by
  refine ⟨?_, ?_⟩
  · intro signature entry _ entered solver frame occurs
    exact (task.maintains_wellBound _).occurs (stores_wellBound_start entered) occurs
  · intro failure failed
    have unaliased : failure.fault.isAliasing = false := run_unaliased failure failed
    refine ⟨?_, ?_⟩
    · intro slot bound same
      rw [same] at unaliased
      cases unaliased
    · intro left right same
      rw [same] at unaliased
      cases unaliased

end Task

/-- A method that puts a field into a new array again and again, shows the array to another method each
time, and returns it. -/
def collectingLoop : Task where
  context := { policy := Declarations.policy { fieldStates := [("Log.line", .tainted)] } }
  method := ⟨"Log", "collect", "()[Ljava/lang/String;", true, 1⟩
  body := Body.addEdge (.ofList [
    .constant (.int 1),
    .newArray 1,
    .store 0 .reference,
    .load 0 .reference,
    .constant (.int 0),
    .getField ⟨"Log", "line", "Ljava/lang/String;"⟩ true,
    .arrayStore .reference,
    .load 0 .reference,
    .invoke ⟨.static, "Log", "show", "([Ljava/lang/String;)V"⟩,
    .load 0 .reference,
    .return (some .reference)]) 8 3

/-- When it is returned, the array is still bound to its local and traced to where it was created. -/
theorem collectingLoop_keeps_aliases :
    ∃ analysis summaries, collectingLoop.run.result = .ok (analysis, summaries) ∧
      (analysis.frames[10]?.map fun frame => frame.stack.map fun array =>
        (array.slot, array.allocation)) = some [(some 0, some 1)] ∧
      ∀ (offset : Offset) (frame : Frame), analysis.frames[offset]? = some frame →
        collectingLoop.WellBound (fun location => 0 < analysis.visitCount location) frame := by
  have returns : (collectingLoop.run.result.toOption.bind fun (analysis, _) =>
      analysis.frames[10]?.map fun frame => frame.stack.map fun array =>
        (array.slot, array.allocation)) = some [(some 0, some 1)] := by
    decide +kernel
  obtain ⟨⟨analysis, summaries⟩, ran, identified⟩ := Option.bind_eq_some_iff.1 returns
  rw [toOption_eq_some_iff] at ran
  refine ⟨analysis, summaries, ran, identified, ?_⟩
  intro offset frame reached
  obtain ⟨signature, entry, solver, read, entered, solved, frames, -, visits⟩ := Task.run_eq_ok ran
  have occurs : collectingLoop.Occurs (.start collectingLoop.body.entry entry) solver frame :=
    .stored (Task.drain_eq_ok solved).1 (frames ▸ reached)
  have visited : (fun location => 0 < analysis.visitCount location) = solver.Visited := by
    funext location
    rw [Analysis.visitCount, visits]
    rfl
  rw [visited]
  exact (Task.run_keeps_aliases collectingLoop).1 signature entry read entered solver frame occurs

end TaintFlow
