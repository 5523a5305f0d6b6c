/-
Module: TaintFlow.Proofs.WriteBacks
Purpose: When a store to an array, or a call of which no human has said what it writes to, leaves a
  local less dangerous than it was. It takes the fact for the local from a word on the stack, and that
  word may have been loaded before the local became dangerous. Locals are lowered through such stale
  words only, and words become stale only when locals are written.
Main exports: Site.Conservative, Site.writtenState?, Site.state_writeBack, Frame.Current,
  Task.writeBack_keeps_locals_iff
-/
import TaintFlow.Proofs.ArrayStores

namespace TaintFlow

/-! ### Arguments that a callee may write to -/

/-- The state that a local is given when the callee may write to the argument at a stack index, if the
argument is bound to the local. -/
def Frame.exposedState? (frame : Frame) (slot index : Nat) : Option State :=
  frame.stack[index]?.bind fun word =>
    if word.slot = some slot then some (word.state.merge .unknown) else none

/-- Every local is at least as dangerous in the second frame. -/
def Frame.KeepsLocals (frame after : Frame) : Prop :=
  ∀ (slot : Nat) (before now : Taint), frame.locals[slot]? = some before →
    after.locals[slot]? = some now → before.state ≤ now.state

namespace Site

variable {site : Site} {instruction : Instruction} {frame after : Frame} {step : Step} {slot : Nat}

/-- An argument that has been exposed would be exposed in the same way again. -/
theorem exposedState?_set {index : Nat} {argument : Taint} {locals : List Taint}
    (there : frame.stack[index]? = some argument) :
    Frame.exposedState? ⟨locals, frame.stack.set index (site.exposed argument)⟩ =
      frame.exposedState? := by
  funext slot position
  unfold Frame.exposedState?
  rw [List.getElem?_set]
  split
  next same =>
    subst same
    obtain ⟨inside, -⟩ := List.getElem?_eq_some_iff.1 there
    have sameState : (argument.state.merge .unknown).merge .unknown = argument.state.merge .unknown := by
      rw [State.merge_assoc, State.merge_self]
    rw [if_pos inside, there]
    simp [exposed, Taint.identifiedAs, Taint.addLocation, Taint.unknown, Taint.of, sameState]
  next => rfl

/-- Arguments are exposed one after the other, so that a local ends with the state that the last one
bound to it gives. -/
theorem state_exposeArguments {indices : List Nat}
    (exposes : indices.foldlM (fun value index => (site.exposeArgument value index).result) frame =
      .ok after) (slot : Nat) :
    after.locals[slot]?.map Taint.state =
      frame.locals[slot]?.map fun cell =>
        (indices.filterMap (frame.exposedState? slot)).getLast?.getD cell.state := by
  induction indices generalizing frame with
  | nil =>
      cases exposes
      rfl
  | cons index later inductionHypothesis =>
      rw [List.foldlM_cons, bind_eq_ok_iff] at exposes
      obtain ⟨middle, first, rest⟩ := exposes
      obtain ⟨argument, peeked, poked⟩ := exposeArgument_eq_ok first
      obtain ⟨-, rfl⟩ := Frame.poke_eq_ok_iff.1 poked
      have there := Frame.peek_eq_ok_iff.1 peeked
      rw [Frame.stack_writeThrough] at rest
      rw [inductionHypothesis rest, exposedState?_set there, Frame.getElem?_locals_writeThrough,
        List.filterMap_cons]
      have bound : (site.exposed argument).slot = argument.slot := rfl
      have state : (site.exposed argument).state = argument.state.merge .unknown := rfl
      by_cases same : argument.slot = some slot
      · have given : frame.exposedState? slot index = some (argument.state.merge .unknown) := by
          simp [Frame.exposedState?, there, same]
        rw [bound, if_pos same, given, List.getLast?_cons, Option.map_map]
        simp [Function.comp_def, state]
      · have given : frame.exposedState? slot index = none := by
          simp [Frame.exposedState?, there, same]
        rw [bound, if_neg same, given]

/-- Unless a human has described the callee, all the exposed arguments are written to. -/
theorem exposes_of_assumeWrites {summary : Option Summary} {signature : Signature}
    (undescribed : ∀ known ∈ summary, known.configured = false)
    (assumes : (site.assumeWrites summary signature frame).result = .ok after) :
    (site.context.policy.exposed signature).foldlM
      (fun value index => (site.exposeArgument value index).result) frame = .ok after := by
  rw [← Traced.result_foldlM, ← assumes, assumeWrites, if_neg]
  cases summary with
  | none => simp
  | some known => simp [undescribed known rfl]

/-! ### Conservative instructions -/

/-- The instruction stores to an array, or it calls a method of which nothing is known, or one which no
human has described and whose summary lists nothing that is written to. -/
def Conservative (site : Site) (frame : Frame) : Instruction → Prop
  | .arrayStore _ => True
  | .invoke call =>
      ∃ signature summary, Signature.parse call.descriptor = .ok signature ∧
        (site.resolve frame call signature).result = .ok summary ∧
        ∀ known ∈ summary, known.configured = false ∧ known.mutated = ∅
  | _ => False

/-- The state that such an instruction gives to a local, if it writes to it. -/
def writtenState? (site : Site) (frame : Frame) (slot : Nat) : Instruction → Option State
  | .arrayStore kind =>
      frame.stack[kind.words + 1]?.bind fun array =>
        if array.slot = some slot then some (array.holding (frame.stack.take kind.words)).state
        else none
  | .invoke call =>
      (Signature.parse call.descriptor).toOption.bind fun signature =>
        ((site.context.policy.exposed signature).filterMap (frame.exposedState? slot)).getLast?
  | _ => none

theorem state_arrayStore {kind : Kind} (stored : (site.arrayStore kind frame).result = .ok after)
    (slot : Nat) :
    after.locals[slot]?.map Taint.state =
      frame.locals[slot]?.map fun cell =>
        (site.writtenState? frame slot (.arrayStore kind)).getD cell.state := by
  obtain ⟨words, array, below, offers, rfl⟩ := arrayStore_eq_ok_iff.1 stored
  have taken : frame.stack.take kind.words = words := by
    obtain ⟨wide, index, stack⟩ := offers
    rw [stack, ← wide, List.take_left]
  rw [Frame.getElem?_locals_storing, writtenState?, offers.array_eq, taken]
  by_cases bound : array.slot = some slot
  · simp [bound, Function.comp_def]
  · simp [bound]

theorem state_invoke {call : Call} (conservative : site.Conservative frame (.invoke call))
    (invoked : (site.invoke call frame).result = .ok after) (slot : Nat) :
    after.locals[slot]?.map Taint.state =
      frame.locals[slot]?.map fun cell =>
        (site.writtenState? frame slot (.invoke call)).getD cell.state := by
  obtain ⟨signature, summary, parsed, resolved, undescribed⟩ := conservative
  obtain ⟨signature', receiver, summary', parsed', -, resolved', applies⟩ := invoke_eq_ok invoked
  obtain rfl : signature = signature' := Except.ok.inj (parsed.symm.trans parsed')
  obtain rfl : summary = summary' := Except.ok.inj (resolved.symm.trans resolved')
  obtain @⟨unsigned, object, assumed, written, refreshed, rest, words, -, assumes, writes, -, refreshes,
    popped, rfl⟩ := applies
  have locals : (rest.pushWords object signature.returnWords).locals = assumed.locals := by
    have sameWritten : written = assumed := by
      cases summary with
      | none =>
          cases writes
          rfl
      | some known =>
          simp only [writeMutated, (undescribed known rfl).2] at writes
          cases writes
          rfl
    have kept : rest.locals = written.locals := locals_of_refreshDuplicate refreshes popped
    exact sameWritten ▸ kept
  have exposes := exposes_of_assumeWrites (fun known member => (undescribed known member).1) assumes
  rw [locals, state_exposeArguments exposes slot, writtenState?, parsed]
  rfl

/-- What a conservative instruction does to the states of locals, exactly. -/
theorem state_writeBack (conservative : site.Conservative frame instruction)
    (acted : (site.step instruction frame).result = .ok step) (slot : Nat) :
    step.frame.locals[slot]?.map Taint.state =
      frame.locals[slot]?.map fun cell => (site.writtenState? frame slot instruction).getD cell.state := by
  rw [result_step] at acted
  cases instruction with
  | arrayStore kind =>
      obtain ⟨after, stored, rfl⟩ := act_eq_ok acted
      exact state_arrayStore stored slot
  | invoke call =>
      obtain ⟨after, invoked, rfl⟩ := act_eq_ok acted
      exact state_invoke conservative invoked slot
  | _ => exact conservative.elim

theorem state_of_writeBack {before now : Taint} (conservative : site.Conservative frame instruction)
    (acted : (site.step instruction frame).result = .ok step) (held : frame.locals[slot]? = some before)
    (held' : step.frame.locals[slot]? = some now) :
    now.state = (site.writtenState? frame slot instruction).getD before.state := by
  have state := state_writeBack conservative acted slot
  rw [held, held'] at state
  exact Option.some.inj state

/-- A conservative instruction keeps all locals as dangerous as they were exactly if what it writes to
them is. -/
theorem keepsLocals_iff (conservative : site.Conservative frame instruction)
    (acted : (site.step instruction frame).result = .ok step) :
    frame.KeepsLocals step.frame ↔
      ∀ (slot : Nat) (before : Taint) (written : State), frame.locals[slot]? = some before →
        site.writtenState? frame slot instruction = some written → before.state ≤ written := by
  constructor
  · intro keeps slot before written held writes
    have after := state_writeBack conservative acted slot
    rw [held, writes] at after
    obtain ⟨now, held', state⟩ := Option.map_eq_some_iff.1 after
    have higher := keeps slot before now held held'
    rwa [state] at higher
  · intro higher slot before now held held'
    rw [state_of_writeBack conservative acted held held']
    cases writes : site.writtenState? frame slot instruction with
    | none => exact State.le_refl _
    | some written => exact higher slot before written held writes

/-- The state for a local is taken from a word that is bound to it, and is at least that of the word. -/
theorem exists_word_of_writtenState? {written : State}
    (writes : site.writtenState? frame slot instruction = some written) :
    ∃ word ∈ frame.stack, word.slot = some slot ∧ word.state ≤ written := by
  cases instruction with
  | arrayStore kind =>
      obtain ⟨array, there, given⟩ := Option.bind_eq_some_iff.1 writes
      split at given
      next bound =>
        cases given
        refine ⟨array, List.mem_of_getElem? there, bound, ?_⟩
        exact (Taint.state_holding_le_iff.1 (State.le_refl _)).1
      next => cases given
  | invoke call =>
      obtain ⟨signature, -, last⟩ := Option.bind_eq_some_iff.1 writes
      obtain ⟨index, -, given⟩ := List.mem_filterMap.1 (List.mem_of_getLast? last)
      obtain ⟨word, there, given⟩ := Option.bind_eq_some_iff.1 given
      split at given
      next bound =>
        cases given
        exact ⟨word, List.mem_of_getElem? there, bound, State.le_merge_left _ _⟩
      next => cases given
  | _ => cases writes

/-- A local is lowered only through a word that is less dangerous than the local. -/
theorem stale_of_lowered {before now : Taint} (conservative : site.Conservative frame instruction)
    (acted : (site.step instruction frame).result = .ok step) (held : frame.locals[slot]? = some before)
    (held' : step.frame.locals[slot]? = some now) (lowered : ¬ before.state ≤ now.state) :
    ∃ word ∈ frame.stack, word.slot = some slot ∧ ¬ before.state ≤ word.state := by
  rw [state_of_writeBack conservative acted held held'] at lowered
  cases writes : site.writtenState? frame slot instruction with
  | none =>
      rw [writes] at lowered
      exact absurd (State.le_refl _) lowered
  | some written =>
      rw [writes] at lowered
      obtain ⟨word, member, bound, below⟩ := exists_word_of_writtenState? writes
      exact ⟨word, member, bound, fun higher => lowered (State.le_trans higher below)⟩

end Site

/-! ### Stale words -/

namespace Frame

variable {frame other joined : Frame}

/-- No word on the stack is stale: one that is bound to a local is at least as dangerous as the local. -/
def Current (frame : Frame) : Prop :=
  ∀ word ∈ frame.stack, ∀ (slot : Nat) (cell : Taint), word.slot = some slot →
    frame.locals[slot]? = some cell → cell.state ≤ word.state

theorem current_of_stack_eq_nil (empty : frame.stack = []) : frame.Current := by
  intro word member
  rw [empty] at member
  cases member

/-- A word is bound to a local after a meeting only if it was bound to that local on both ways. -/
theorem Current.join {changed : Bool} (current : frame.Current) (otherCurrent : other.Current)
    (met : frame.join other = .ok (joined, changed)) : joined.Current := by
  obtain ⟨-, -, rfl, -⟩ := join_eq_ok_iff.1 met
  intro word member slot cell bound held
  obtain ⟨position, there⟩ := List.getElem?_of_mem member
  obtain ⟨mine, theirs, mineThere, theirsThere, rfl⟩ := List.getElem?_zipWith_eq_some.1 there
  obtain ⟨cellMine, cellTheirs, heldMine, heldTheirs, rfl⟩ := List.getElem?_zipWith_eq_some.1 held
  rw [Taint.slot_absorb, agreed_eq_some_iff] at bound
  rw [Taint.state_absorb, Taint.state_absorb]
  apply State.merge_mono
  · exact current mine (List.mem_of_getElem? mineThere) slot cellMine bound.1 heldMine
  · exact otherCurrent theirs (List.mem_of_getElem? theirsThere) slot cellTheirs bound.2 heldTheirs

end Frame

/-- Instructions that write no locals leave no stale words: what they load is what the local is. -/
theorem Site.step_current {site : Site} {instruction : Instruction} {frame : Frame} {step : Step}
    (keeps : instruction.writesLocals = false) (own : frame.OwnBound) (current : frame.Current)
    (acted : (site.step instruction frame).result = .ok step) : step.frame.Current := by
  obtain ⟨locals, origin⟩ := keeps_of_step keeps acted
  intro word member slot cell bound held
  rw [locals] at held
  cases origin word member with
  | kept before => exact current word before slot cell bound held
  | loaded loaded =>
      rw [own _ word loaded, Option.some.injEq] at bound
      subst bound
      rw [held, Option.some.injEq] at loaded
      subst loaded
      exact State.le_refl _
  | made isMade =>
      have unbound : word.Identified 0 fun _ => True := made_identified (fun _ => trivial) isMade
      exact absurd (unbound.slot slot bound) (Nat.not_lt_zero slot)
  | element arrayIn isElement =>
      subst isElement
      exact current _ arrayIn slot cell bound held
  | text unbound _ =>
      rw [unbound] at bound
      cases bound

/-! ### Runs -/

namespace Task

variable {task : Task} {start solver : Solver} {offset : Offset} {instruction : Instruction}
  {frame : Frame} {step : Step}

/-- On the way to the solver, an instruction that writes locals has left a stale word. -/
def LeftStale (task : Task) (start solver : Solver) : Prop :=
  ∃ earlier offset instruction frame step, task.Reaches start earlier ∧ task.Reaches earlier solver ∧
    task.Acts earlier offset instruction frame step ∧ instruction.writesLocals ∧ ¬ step.frame.Current

theorem steady_current (task : Task) :
    Steady fun visited frame => task.WellBound visited frame ∧ frame.Current where
  widens wider good := ⟨task.steady_wellBound.widens wider good.1, good.2⟩
  meets good other met := ⟨good.1.join other.1 met, good.2.join other.2 met⟩

/-- Every frame that is stored is bound well and has no stale words. -/
abbrev StoresCurrent (task : Task) (solver : Solver) : Prop :=
  Stores (fun visited frame => task.WellBound visited frame ∧ frame.Current) solver

theorem storesCurrent_start {signature : Signature} {entry : Frame}
    (entered : entryFrame task.context.policy task.method signature = .ok entry) :
    task.StoresCurrent (.start task.body.entry entry) := by
  apply satisfied_start
  refine ⟨calledFrame_wellBound (fun _ _ => ⟨rfl, rfl⟩) entered, ?_⟩
  exact Frame.current_of_stack_eq_nil (Frame.stack_bindLocals entered)

/-- Until an instruction that writes locals has left a stale word, there is none. The induction is on the
run; the first instruction that leaves one decides. -/
theorem storesCurrent_or_leftStale (begun : task.StoresCurrent start)
    (reaches : task.Reaches start solver) :
    task.StoresCurrent solver ∨ task.LeftStale start solver := by
  induction reaches with
  | refl => exact Or.inl begun
  | @tail before after reaches advances inductionHypothesis =>
      have further : task.Reaches before after := Relation.ReflTransGen.single advances
      rcases inductionHypothesis with stores | left
      · obtain @⟨offset, pending, instruction, frame, step, code, reached, acted, -, received⟩ := advances
        have acts : task.Acts before offset instruction frame step := ⟨pending, code, reached, acted⟩
        obtain ⟨wellBound, current⟩ := stores.frames offset frame reached
        have handed : task.WellBound (before.take offset).Visited step.frame := by
          apply acts.wellBound
          apply task.steady_wellBound.widens _ wellBound
          exact fun other visited => Solver.visited_take.2 (Or.inr visited)
        by_cases stays : step.frame.Current
        · exact Or.inl (task.steady_current.receives stores ⟨handed, stays⟩ received)
        · cases writes : instruction.writesLocals with
          | false => exact absurd (Site.step_current writes wellBound.own current acted) stays
          | true =>
              exact Or.inr ⟨before, offset, instruction, frame, step, reaches, further, acts, writes, stays⟩
      · obtain ⟨earlier, offset, instruction, frame, step, reaches, later, acts, stale⟩ := left
        exact Or.inr ⟨earlier, offset, instruction, frame, step, reaches, later.trans further, acts, stale⟩

/-- In every frame of a run, a store to an array and a call that no human has described leave all locals
at least as dangerous as they were exactly if what they write to each local, from a word that is bound to
it, is at least as dangerous as the local. Where a local is lowered, such a word was stale: less
dangerous than the local that it is bound to. And there are stale words only after a store, a store to
an array or a call has left one in that run. -/
theorem writeBack_keeps_locals_iff {signature : Signature} {entry : Frame}
    (entered : entryFrame task.context.policy task.method signature = .ok entry)
    (reaches : task.Reaches (.start task.body.entry entry) solver)
    (acts : task.Acts solver offset instruction frame step)
    (conservative : (task.site offset).Conservative frame instruction) :
    (frame.KeepsLocals step.frame ↔
      ∀ (slot : Nat) (before : Taint) (written : State), frame.locals[slot]? = some before →
        (task.site offset).writtenState? frame slot instruction = some written →
        before.state ≤ written) ∧
    ∀ (slot : Nat) (before now : Taint), frame.locals[slot]? = some before →
      step.frame.locals[slot]? = some now → ¬ before.state ≤ now.state →
        (∃ word ∈ frame.stack, word.slot = some slot ∧ ¬ before.state ≤ word.state) ∧
          task.LeftStale (.start task.body.entry entry) solver := by
  refine ⟨Site.keepsLocals_iff conservative acts.acted, ?_⟩
  intro slot before now held held' lowered
  obtain ⟨word, member, bound, stale⟩ := Site.stale_of_lowered conservative acts.acted held held' lowered
  refine ⟨⟨word, member, bound, stale⟩, ?_⟩
  rcases storesCurrent_or_leftStale (storesCurrent_start entered) reaches with stores | left
  · have current := (stores.frames offset frame acts.reached).2
    exact absurd (current word member slot before bound held) stale
  · exact left

/-! ### A local that is lowered -/

/-- The solver after a number of visits, the lowest pending location first. -/
def afterVisits (task : Task) : Nat → Solver → Except Failure Solver
  | 0, solver => .ok solver
  | visits + 1, solver =>
      match solver.lowest? with
      | none => .ok solver
      | some offset => do
          let after ← (task.visit offset solver).result
          task.afterVisits visits after

theorem reaches_afterVisits {visits : Nat} {after : Solver}
    (visited : task.afterVisits visits solver = .ok after) : task.Reaches solver after := by
  induction visits generalizing solver with
  | zero =>
      cases visited
      exact .refl
  | succ visits inductionHypothesis =>
      unfold afterVisits at visited
      split at visited
      next =>
        cases visited
        exact .refl
      next offset lowest =>
        rw [bind_eq_ok_iff] at visited
        obtain ⟨middle, visits, rest⟩ := visited
        have advances : task.Advances solver middle :=
          ⟨offset, Solver.mem_pending_of_lowest lowest, visit_eq_ok visits⟩
        exact Relation.ReflTransGen.head advances (inductionHypothesis rest)

/-- The states of the locals before and after an instruction that is due after a number of visits. -/
def statesAround (task : Task) (visits : Nat) (offset : Offset) (instruction : Instruction) :
    Option (List State × List State) := do
  let signature ← task.method.signature.toOption
  let entry ← (entryFrame task.context.policy task.method signature).toOption
  let solver ← (task.afterVisits visits (.start task.body.entry entry)).toOption
  let frame ← solver.frames[offset]?
  let step ← ((task.site offset).step instruction frame).result.toOption
  if offset ∈ solver.pending ∧ task.body.instruction? offset = some instruction then
    some (frame.locals.map Taint.state, step.frame.locals.map Taint.state)
  else none

theorem exists_acts_of_statesAround {visits : Nat} {before now : List State}
    (around : task.statesAround visits offset instruction = some (before, now)) :
    ∃ signature entry solver frame step,
      entryFrame task.context.policy task.method signature = .ok entry ∧
      task.Reaches (.start task.body.entry entry) solver ∧
      task.Acts solver offset instruction frame step ∧
      frame.locals.map Taint.state = before ∧ step.frame.locals.map Taint.state = now := by
  simp only [statesAround, bind, Option.bind_eq_some_iff, toOption_eq_some_iff] at around
  obtain ⟨signature, -, entry, entered, solver, visited, frame, reached, step, acted, due⟩ := around
  split at due
  next pending =>
    cases due
    exact ⟨signature, entry, solver, frame, step, entered, reaches_afterVisits visited,
      ⟨pending.1, pending.2, reached, acted⟩, rfl, rfl⟩
  next => cases due

end Task

/-- A method that loads an array from a local twice, stores a field in it through the second reference,
and then a constant through the first one. -/
def launderingArray : Task where
  context := { policy := Declarations.policy { fieldStates := [("Web.input", .tainted)] } }
  method := ⟨"Web", "launder", "()Ljava/lang/String;", true, 1⟩
  body := .ofList [
    .constant (.int 1),
    .newArray 1,
    .store 0 .reference,
    .load 0 .reference,
    .constant (.int 0),
    .load 0 .reference,
    .constant (.int 1),
    .getField ⟨"Web", "input", "Ljava/lang/String;"⟩ true,
    .arrayStore .reference,
    .constant (.string "x"),
    .arrayStore .reference,
    .load 0 .reference,
    .constant (.int 1),
    .arrayLoad .reference,
    .return (some .reference)]

/-- The first store taints the array. The second one writes back what was known of it before, so that the
local is safe again, although the field is still in the array. -/
theorem launderingArray_keeps_locals :
    (∃ entry solver frame step, launderingArray.Reaches (.start 0 entry) solver ∧
      launderingArray.Acts solver 8 (.arrayStore .reference) frame step ∧
      frame.KeepsLocals step.frame) ∧
    ∃ entry solver frame step, launderingArray.Reaches (.start 0 entry) solver ∧
      launderingArray.Acts solver 10 (.arrayStore .reference) frame step ∧
      ¬ frame.KeepsLocals step.frame ∧ launderingArray.LeftStale (.start 0 entry) solver := by
  have first : launderingArray.statesAround 8 8 (.arrayStore .reference) =
      some ([.safe], [.tainted]) := by
    decide +kernel
  have second : launderingArray.statesAround 10 10 (.arrayStore .reference) =
      some ([.tainted], [.safe]) := by
    decide +kernel
  refine ⟨?_, ?_⟩
  · obtain ⟨signature, entry, solver, frame, step, entered, reaches, acts, states, -⟩ :=
      Task.exists_acts_of_statesAround first
    refine ⟨entry, solver, frame, step, reaches, acts, ?_⟩
    apply (Task.writeBack_keeps_locals_iff entered reaches acts trivial).1.2
    intro slot before written held _
    obtain ⟨array, locals, safe⟩ := List.map_eq_singleton_iff.1 states
    have member := List.mem_of_getElem? held
    rw [locals, List.mem_singleton] at member
    rw [member, safe]
    exact State.le_def.2 (Nat.zero_le _)
  · obtain ⟨signature, entry, solver, frame, step, entered, reaches, acts, states, states'⟩ :=
      Task.exists_acts_of_statesAround second
    obtain ⟨before, locals, tainted⟩ := List.map_eq_singleton_iff.1 states
    obtain ⟨now, locals', safe⟩ := List.map_eq_singleton_iff.1 states'
    have held : frame.locals[0]? = some before := by rw [locals]; rfl
    have held' : step.frame.locals[0]? = some now := by rw [locals']; rfl
    have lowered : ¬ before.state ≤ now.state := by
      rw [tainted, safe]
      decide
    refine ⟨entry, solver, frame, step, reaches, acts, ?_, ?_⟩
    · exact fun keeps => lowered (keeps 0 before now held held')
    · exact ((Task.writeBack_keeps_locals_iff entered reaches acts trivial).2 0 before now held held'
        lowered).2

end TaintFlow
