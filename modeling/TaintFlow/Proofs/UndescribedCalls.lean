/-
Module: TaintFlow.Proofs.UndescribedCalls
Purpose: What a call leaves in the locals of its exposed arguments, when no human has said what the callee
  does. The callee is first assumed to have written anything to them; after that the words that its summary
  lists as mutated take on the fact about the result, and may be less dangerous again. So a local is at
  least unknown afterwards exactly if none of these words is bound to it, or the result is at least unknown.
Main exports: Frame.slotAt?, Frame.WrittenBy, Site.state_writeArguments,
  Site.unknown_le_exposeArguments, Site.exposed_local_unknown_iff
-/
import TaintFlow.Proofs.WriteBacks

namespace TaintFlow

namespace Frame

variable {frame after : Frame} {argument taint : Taint} {index slot : Nat}

/-- The local that the word at a stack index is bound to. -/
def slotAt? (frame : Frame) (index : Nat) : Option Nat :=
  frame.stack[index]?.bind Taint.slot

/-- The summary lists a word as mutated that is bound to the local. -/
def WrittenBy (frame : Frame) (slot : Nat) (summary : Option Summary) : Prop :=
  ∃ known ∈ summary, ∃ index ∈ known.mutated, frame.slotAt? index = some slot

/-- A word that is overwritten stays bound to the same local. -/
theorem slotAt?_overwrite (there : frame.stack[index]? = some argument) (bound : taint.slot = argument.slot)
    (poked : (frame.writeThrough taint).poke index taint = .ok after) :
    after.slotAt? = frame.slotAt? := by
  rcases poke_eq_ok_iff.1 poked with ⟨-, rfl⟩
  funext position
  unfold slotAt?
  rw [stack_writeThrough, List.getElem?_set]
  split
  next same =>
    subst same
    rw [if_pos (List.getElem?_eq_some_iff.1 there).1, there]
    exact bound
  next => rfl

end Frame

namespace Site

variable {site : Site} {call : Call} {signature : Signature} {summary : Option Summary}
  {frame after : Frame} {result : Taint} {slot : Nat}

@[simp] theorem state_signed (site : Site) (call : Call) (result : Taint) :
    (site.signed call result).state = result.state := by
  unfold signed
  dsimp only
  split
  · exact (site.alike_remark _ result).state
  · exact (site.alike_remark _ result).state

/-- A word that takes on the fact about the result gives it to the local that it is bound to. -/
theorem state_writeArgument {index : Nat} {cell : Taint} (held : frame.locals[slot]? = some cell)
    (writes : (site.writeArgument result frame index).result = .ok after) :
    after.slotAt? = frame.slotAt? ∧
      ∃ now, after.locals[slot]? = some now ∧
        now.state = if frame.slotAt? index = some slot then result.state else cell.state := by
  unfold writeArgument at writes
  split at writes
  next inside =>
    rw [Traced.result_bind, bind_eq_ok_iff] at writes
    rcases writes with ⟨argument, peeked, overwritten⟩
    rw [result_overwrite] at overwritten
    have there := Frame.peek_eq_ok_iff.1 peeked
    have identified : (result.identifiedAs argument).slot = argument.slot := rfl
    have bound : frame.slotAt? index = argument.slot := by
      rw [Frame.slotAt?, there]
      rfl
    refine ⟨Frame.slotAt?_overwrite there identified overwritten, ?_⟩
    rcases Frame.poke_eq_ok_iff.1 overwritten with ⟨-, rfl⟩
    dsimp only
    rw [Frame.getElem?_locals_writeThrough, identified, bound, held]
    split
    · exact ⟨_, rfl, rfl⟩
    · exact ⟨cell, rfl, rfl⟩
  next outside =>
    cases writes
    have nothing : frame.slotAt? index = none := by
      rw [Frame.slotAt?, List.getElem?_eq_none (Nat.le_of_not_lt outside)]
      rfl
    exact ⟨rfl, cell, held, by simp [nothing]⟩

/-- Whatever the order in which words take on the fact about the result, a local has its state in the end
exactly if one of them is bound to it. -/
theorem state_writeArguments {indices : List Nat} {cell : Taint} (held : frame.locals[slot]? = some cell)
    (writes : indices.foldlM (fun value index => (site.writeArgument result value index).result) frame =
      .ok after) :
    ∃ now, after.locals[slot]? = some now ∧
      now.state =
        if ∃ index ∈ indices, frame.slotAt? index = some slot then result.state else cell.state := by
  induction indices generalizing frame cell with
  | nil =>
      cases writes
      exact ⟨cell, held, by simp⟩
  | cons index later inductionHypothesis =>
      rw [List.foldlM_cons, bind_eq_ok_iff] at writes
      rcases writes with ⟨middle, first, rest⟩
      rcases state_writeArgument held first with ⟨sameSlots, between, heldBetween, stateBetween⟩
      rcases inductionHypothesis heldBetween rest with ⟨now, heldNow, state⟩
      refine ⟨now, heldNow, ?_⟩
      rw [state, stateBetween, sameSlots]
      by_cases among : ∃ index ∈ later, frame.slotAt? index = some slot
      · have amongAll : ∃ other ∈ index :: later, frame.slotAt? other = some slot :=
          among.imp fun _ found => ⟨List.mem_cons_of_mem _ found.1, found.2⟩
        rw [if_pos among, if_pos amongAll]
      · simp [among]

/-- Where the callee may have written anything, nothing is left that is less than unknown, however many
arguments are bound to the same local. -/
theorem unknown_le_exposeArguments {indices : List Nat} {index : Nat} {cell : Taint}
    (held : frame.locals[slot]? = some cell)
    (exposes : indices.foldlM (fun value index => (site.exposeArgument value index).result) frame =
      .ok after) (member : index ∈ indices) (bound : frame.slotAt? index = some slot) :
    ∃ now, after.locals[slot]? = some now ∧ .unknown ≤ now.state := by
  have state := state_exposeArguments exposes slot
  rw [held] at state
  rcases Option.map_eq_some_iff.1 state with ⟨now, heldNow, stateNow⟩
  refine ⟨now, heldNow, ?_⟩
  rcases Option.bind_eq_some_iff.1 bound with ⟨word, there, wordBound⟩
  have given : word.state.merge .unknown ∈ indices.filterMap (frame.exposedState? slot) :=
    List.mem_filterMap.2 ⟨index, member, by simp [Frame.exposedState?, there, wordBound]⟩
  -- The last argument that is bound to the local decides, and any of them makes it at least unknown.
  cases last : (indices.filterMap (frame.exposedState? slot)).getLast? with
  | none =>
      rw [List.getLast?_eq_none_iff] at last
      rw [last] at given
      cases given
  | some final =>
      rcases List.mem_filterMap.1 (List.mem_of_getLast? last) with ⟨other, -, exposed⟩
      rcases Option.bind_eq_some_iff.1 exposed with ⟨otherWord, -, merged⟩
      simp only [last, Option.getD_some] at stateNow
      split at merged
      next =>
        cases merged
        rw [stateNow]
        exact State.le_merge_right _ _
      next => cases merged

/-- Exposing arguments leaves every word bound to the local that it was bound to. -/
theorem slotAt?_assumeWrites (assumes : (site.assumeWrites summary signature frame).result = .ok after) :
    after.slotAt? = frame.slotAt? := by
  let kept : Frame → Prop := fun value => value.slotAt? = frame.slotAt?
  have begun : kept frame := rfl
  have afterwards : kept after := by
    apply assumeWrites_keeps _ begun assumes
    intro value next index argument before peeked overwritten
    have identified : (site.exposed argument).slot = argument.slot := rfl
    exact (Frame.slotAt?_overwrite (Frame.peek_eq_ok_iff.1 peeked) identified overwritten).trans before
  exact afterwards

/-- The writes that a summary lists give a local the state of the result, or do not touch it. -/
theorem state_writeMutated {cell : Taint} (held : frame.locals[slot]? = some cell)
    (writes : (site.writeMutated summary result frame).result = .ok after) :
    ∃ now, after.locals[slot]? = some now ∧
      (frame.WrittenBy slot summary → now.state = result.state) ∧
      (¬ frame.WrittenBy slot summary → now.state = cell.state) := by
  cases summary with
  | none =>
      cases writes
      refine ⟨cell, held, ?_, fun _ => rfl⟩
      rintro ⟨known, member, -⟩
      cases member
  | some known =>
      rw [writeMutated, Traced.result_foldlM] at writes
      rcases state_writeArguments held writes with ⟨now, heldNow, state⟩
      have listed : frame.WrittenBy slot (some known) ↔
          ∃ index ∈ known.mutated.toList, frame.slotAt? index = some slot := by
        simp [Frame.WrittenBy, Std.ExtTreeSet.mem_toList]
      rw [listed]
      refine ⟨now, heldNow, ?_, ?_⟩
      · exact fun written => state.trans (if_pos written)
      · exact fun untouched => state.trans (if_neg untouched)

/-- A call of a method that no human has described is made with an argument that the callee can write to,
and that is bound to a local. If the summary lists no word as mutated that is bound to this local, the local
is at least unknown after the call. Otherwise it has the state of the result: it is at least unknown exactly
if the result is, however dangerous the local was and whatever the callee may have written to it. -/
theorem exposed_local_unknown_iff {index : Nat}
    (invoked : (site.invoke call frame).result = .ok after)
    (parsed : Signature.parse call.descriptor = .ok signature)
    (resolved : (site.resolve frame call signature).result = .ok summary)
    (undescribed : ∀ known ∈ summary, known.configured = false)
    (exposed : index ∈ site.context.policy.exposed signature)
    (bound : frame.slotAt? index = some slot) (inside : slot < frame.locals.length) :
    ∃ result now, site.resultTaint frame summary = .ok result ∧ after.locals[slot]? = some now ∧
      (.unknown ≤ now.state ↔ ¬ frame.WrittenBy slot summary ∨ .unknown ≤ result.state) ∧
      (frame.WrittenBy slot summary → now.state = result.state) := by
  rcases invoke_eq_ok invoked with ⟨signature', receiver, summary', parsed', -, resolved', applies⟩
  rcases Except.ok.inj (parsed.symm.trans parsed')
  rcases Except.ok.inj (resolved.symm.trans resolved')
  rcases applies with @⟨unsigned, object, assumed, written, refreshed, rest, words, resulted, assumes,
    writes, -, refreshes, popped, rfl⟩
  have exposes := exposes_of_assumeWrites undescribed assumes
  rcases unknown_le_exposeArguments (List.getElem?_eq_getElem inside) exposes exposed bound with
    ⟨assumedCell, heldAssumed, dangerous⟩
  rcases state_writeMutated heldAssumed writes with ⟨now, heldWritten, whenWritten, whenUntouched⟩
  have sameListed : assumed.WrittenBy slot summary ↔ frame.WrittenBy slot summary := by
    rw [Frame.WrittenBy, slotAt?_assumeWrites assumes]
    rfl
  rw [sameListed, state_signed] at whenWritten
  rw [sameListed] at whenUntouched
  have heldNow : (rest.pushWords object signature.returnWords).locals[slot]? = some now := by
    have kept : rest.locals = written.locals := locals_of_refreshDuplicate refreshes popped
    rw [← heldWritten, ← kept]
    rfl
  refine ⟨unsigned, now, resulted, heldNow, ?_, whenWritten⟩
  by_cases listed : frame.WrittenBy slot summary
  · simp [listed, whenWritten listed]
  · simp [listed, whenUntouched listed, dangerous]

end Site

/-- A frame in which an array, which a local holds, lies above two references to a new object. -/
def wrappingArray : Frame :=
  let array := { Taint.safe with allocation := some 1, slot := some 0 }
  let reader := { Taint.safe with runtimeClass := some "Web$Reader", allocation := some 3 }
  ⟨[array], [array, reader, reader]⟩

/-- A place at which a method is called in this frame. -/
def wrappingSite : Site :=
  ⟨{ policy := Declarations.policy {} }, ⟨"Web", "read", "()[Ljava/lang/String;", true, 1⟩, 6⟩

/-- A constructor of which nothing is known leaves the local safe, since all its arguments were and the
array counts as written by them. A method of which nothing is known leaves it unknown. -/
theorem wrappingArray_unknown_iff :
    (∃ after now,
      (wrappingSite.invoke ⟨.special, "Web$Reader", "<init>", "([Ljava/lang/String;)V"⟩
        wrappingArray).result = .ok after ∧
      wrappingArray.WrittenBy 0 (some (.ofConstructor 2)) ∧
      after.locals[0]? = some now ∧ now.state = .safe) ∧
    ∃ after now,
      (wrappingSite.invoke ⟨.static, "Web", "fill", "([Ljava/lang/String;)V"⟩ wrappingArray).result =
        .ok after ∧
      ¬ wrappingArray.WrittenBy 0 none ∧ after.locals[0]? = some now ∧ .unknown ≤ now.state := by
  let signature : Signature := ⟨["[Ljava/lang/String;"], "V"⟩
  have parsed : Signature.parse "([Ljava/lang/String;)V" = .ok signature :=
    toOption_eq_some_iff.1 (by decide)
  have exposed : 0 ∈ wrappingSite.context.policy.exposed signature := by decide
  constructor
  · have succeeds : (wrappingSite.invoke ⟨.special, "Web$Reader", "<init>", "([Ljava/lang/String;)V"⟩
        wrappingArray).result.toOption.isSome := by
      decide +kernel
    have resolved : (wrappingSite.resolve wrappingArray
        ⟨.special, "Web$Reader", "<init>", "([Ljava/lang/String;)V"⟩ signature).result =
          .ok (some (.ofConstructor 2)) :=
      toOption_eq_some_iff.1 (by decide)
    have safe : (wrappingSite.resultTaint wrappingArray (some (.ofConstructor 2))).toOption.map
        Taint.state = some .safe := by
      decide
    have listed : wrappingArray.WrittenBy 0 (some (.ofConstructor 2)) :=
      ⟨_, rfl, 0, by decide, rfl⟩
    rcases Option.isSome_iff_exists.1 succeeds with ⟨after, invoked⟩
    rw [toOption_eq_some_iff] at invoked
    rcases Site.exposed_local_unknown_iff invoked parsed resolved (by simp [Summary.ofConstructor])
      exposed rfl (by decide) with ⟨result, now, resulted, held, -, written⟩
    rw [resulted] at safe
    exact ⟨after, now, invoked, listed, held, (written listed).trans (Option.some.inj safe)⟩
  · have succeeds : (wrappingSite.invoke ⟨.static, "Web", "fill", "([Ljava/lang/String;)V"⟩
        wrappingArray).result.toOption.isSome := by
      decide +kernel
    have resolved : (wrappingSite.resolve wrappingArray
        ⟨.static, "Web", "fill", "([Ljava/lang/String;)V"⟩ signature).result = .ok none :=
      toOption_eq_some_iff.1 (by decide)
    have unlisted : ¬ wrappingArray.WrittenBy 0 none := by simp [Frame.WrittenBy]
    rcases Option.isSome_iff_exists.1 succeeds with ⟨after, invoked⟩
    rw [toOption_eq_some_iff] at invoked
    rcases Site.exposed_local_unknown_iff invoked parsed resolved (by simp) exposed rfl (by decide) with
      ⟨result, now, -, held, dangerous, -⟩
    exact ⟨after, now, invoked, unlisted, held, dangerous.2 (Or.inl unlisted)⟩

end TaintFlow
