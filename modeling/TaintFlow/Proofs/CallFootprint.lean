/-
Module: TaintFlow.Proofs.CallFootprint
Purpose: What a call leaves as it was. Of the words below those that it consumes, it changes at most the
  ones that its summary lists as mutated and a second reference to the object that it constructs. Of the
  locals, it changes at most those that a mutated word or an argument that the callee can write to is
  bound to. Four passes overwrite words one after the other, but none of them binds a word to another
  local, so that all this can be read off the frame before the call.
Main exports: Frame.ChangedOnly, Frame.ChangedOnly.overwrite, Policy.lt_parameterWords_of_exposed,
  Call.Duplicates, Site.MayWrite, Site.changedOnly_of_writes, Site.invoke_changes_only
-/
import TaintFlow.Proofs.StackDiscipline
import TaintFlow.Proofs.UndescribedCalls

namespace TaintFlow

/-! ### Frames that differ in a few places -/

namespace Frame

variable {words slots : Nat → Prop} {frame before after : Frame} {argument taint : Taint} {index : Nat}

/-- Two frames differ at most in words at the given stack indices and in the given locals, and every word
is bound to the same local in both. -/
structure ChangedOnly (words slots : Nat → Prop) (frame after : Frame) : Prop where
  count : after.locals.length = frame.locals.length
  bound : after.slotAt? = frame.slotAt?
  stack : ∀ index, ¬ words index → after.stack[index]? = frame.stack[index]?
  locals : ∀ slot, ¬ slots slot → after.locals[slot]? = frame.locals[slot]?

theorem ChangedOnly.refl (words slots : Nat → Prop) (frame : Frame) : ChangedOnly words slots frame frame :=
  ⟨rfl, rfl, fun _ _ => rfl, fun _ _ => rfl⟩

/-- A word that is overwritten, and the local that it was bound to in the first place, are all that
changes. -/
theorem ChangedOnly.overwrite (changed : ChangedOnly words slots frame before)
    (peeked : before.peek index = .ok argument)
    (poked : (before.writeThrough taint).poke index taint = .ok after) (bound : taint.slot = argument.slot)
    (isWord : words index) (areSlots : ∀ slot, frame.slotAt? index = some slot → slots slot) :
    ChangedOnly words slots frame after := by
  have there := peek_eq_ok_iff.1 peeked
  have sameSlots := slotAt?_overwrite there bound poked
  have slotThere : frame.slotAt? index = taint.slot := by
    rw [← changed.bound, slotAt?, there, bound]
    rfl
  rcases poke_eq_ok_iff.1 poked with ⟨-, rfl⟩
  refine ⟨?_, sameSlots.trans changed.bound, ?_, ?_⟩
  · rw [← changed.count, ← length_locals_writeThrough before taint]
  · intro other notWord
    have elsewhere : index ≠ other := by
      rintro rfl
      exact notWord isWord
    rw [← changed.stack other notWord, stack_writeThrough]
    exact List.getElem?_set_ne elsewhere
  · intro slot notSlot
    have unbound : taint.slot ≠ some slot := fun isSlot =>
      notSlot (areSlots slot (slotThere.trans isSlot))
    rw [← changed.locals slot notSlot]
    exact (getElem?_locals_writeThrough before taint slot).trans (if_neg unbound)

/-- The one word that may change at the end of a constructor is a second reference to the object. -/
theorem getElem?_stack_refreshDuplicate {consumed : Nat} {receiver : Option Taint}
    (refreshes : frame.refreshDuplicate consumed receiver = .ok after) (index : Nat) :
    after.stack[index]? = frame.stack[index]? ∨
      index = consumed ∧ ∃ object ∈ receiver, ∃ duplicate ∈ frame.stack[index]?,
        duplicate.SameObject object := by
  unfold refreshDuplicate at refreshes
  split at refreshes
  next object duplicate lies =>
    split at refreshes
    next same =>
      rw [bind_eq_ok_iff] at refreshes
      rcases refreshes with ⟨initialized, -, poked⟩
      rcases poke_eq_ok_iff.1 poked with ⟨-, rfl⟩
      by_cases here : index = consumed
      · subst here
        exact Or.inr ⟨rfl, object, rfl, duplicate, lies, same⟩
      · exact Or.inl (List.getElem?_set_ne (Ne.symm here))
    next =>
      cases refreshes
      exact Or.inl rfl
  next =>
    cases refreshes
    exact Or.inl rfl

end Frame

/-! ### Where arguments lie -/

theorem Signature.lt_wordsOf_of_mem {types : List String} {index : Nat} {type : String}
    (member : (index, type) ∈ indicesOf types) : index < wordsOf types := by
  induction types with
  | nil => cases member
  | cons first later inductionHypothesis =>
      have positive := (Kind.ofDescriptor first).words_pos
      rw [wordsOf_cons]
      rcases List.mem_cons.1 member with same | further
      · cases same
        omega
      · have inside := inductionHypothesis further
        omega

/-- The arguments that a callee can write to are among the words that the call consumes. -/
theorem Policy.lt_parameterWords_of_exposed {policy : Policy} {signature : Signature} {index : Nat}
    (exposed : index ∈ policy.exposed signature) : index < signature.parameterWords := by
  rcases List.mem_map.1 exposed with ⟨⟨place, type⟩, listed, rfl⟩
  exact Signature.lt_wordsOf_of_mem (List.mem_filter.1 listed).1

/-! ### Calls -/

/-- The word at the stack index lies right below what a constructor consumes, and is a second reference to
the object that it is called on. -/
def Call.Duplicates (call : Call) (signature : Signature) (frame : Frame) (index : Nat) : Prop :=
  index = signature.parameterWords + call.receiverWords ∧ call.isConstructor ∧ call.isStatic = false ∧
    ∃ object ∈ frame.stack[signature.parameterWords]?, ∃ duplicate ∈ frame.stack[index]?,
      duplicate.SameObject object

theorem Call.constructed_eq_some {call : Call} {signature : Signature} {frame : Frame} {object : Taint}
    (found : call.constructed signature frame = .ok (some object)) :
    call.isConstructor ∧ call.isStatic = false ∧
      frame.stack[signature.parameterWords]? = some object := by
  unfold Call.constructed at found
  split at found
  next constructs =>
    rw [map_eq_pure_bind, bind_eq_ok_iff] at found
    rcases found with ⟨receiver, peeked, told⟩
    cases told
    have ⟨isConstructor, isVirtual⟩ := Bool.and_eq_true_iff.1 constructs
    exact ⟨isConstructor, by simpa using isVirtual, Frame.peek_eq_ok_iff.1 peeked⟩
  next => cases found

namespace Site

variable {site : Site} {call : Call} {signature : Signature} {summary : Option Summary}
  {frame after : Frame}

/-- The local is bound to a word that the summary lists as mutated or, if no human has described the
callee, to an argument that the callee can write to. -/
def MayWrite (site : Site) (signature : Signature) (summary : Option Summary) (frame : Frame)
    (slot : Nat) : Prop :=
  frame.WrittenBy slot summary ∨
    (∀ known ∈ summary, known.configured = false) ∧
      ∃ index ∈ site.context.policy.exposed signature, frame.slotAt? index = some slot

/-- The writes that are assumed and those that the summary lists change only their words, and the locals
that these were bound to before the call. -/
theorem changedOnly_of_writes {result : Taint} {assumed written : Frame}
    (assumes : (site.assumeWrites summary signature frame).result = .ok assumed)
    (writes : (site.writeMutated summary result assumed).result = .ok written) :
    Frame.ChangedOnly
      (fun index => index ∈ site.context.policy.exposed signature ∨ ∃ known ∈ summary, index ∈ known.mutated)
      (site.MayWrite signature summary frame) frame written := by
  refine writeMutated_keeps_of_mem ?_ (assumeWrites_keeps_of_mem ?_ (.refl _ _ frame) assumes) writes
  · intro before next known index argument described listed changed peeked poked
    refine changed.overwrite peeked poked rfl (Or.inr ⟨known, described, listed⟩) ?_
    exact fun slot bound => Or.inl ⟨known, described, index, listed, bound⟩
  · intro before next index argument undescribed exposed changed peeked poked
    refine changed.overwrite peeked poked rfl (Or.inl exposed) ?_
    exact fun slot bound => Or.inr ⟨undescribed, index, exposed, bound⟩

/-- The frame condition of a call that succeeds. Its consumed words are replaced by the words of one result.
A word below them is what it was, unless the summary lists it as mutated or it is a second reference to a
constructed object; and so is a local, unless the call may write to it through a word bound to it. -/
theorem invoke_changes_only (invoked : (site.invoke call frame).result = .ok after) :
    ∃ signature summary unsigned result below,
      Signature.parse call.descriptor = .ok signature ∧
      (site.resolve frame call signature).result = .ok summary ∧
      site.resultTaint frame summary = .ok unsigned ∧ result.Alike (site.signed call unsigned) ∧
      after.stack = List.replicate signature.returnWords result ++ below ∧
      signature.parameterWords + call.receiverWords + below.length = frame.depth ∧
      (∀ index, signature.parameterWords + call.receiverWords ≤ index →
        below[index - (signature.parameterWords + call.receiverWords)]? = frame.stack[index]? ∨
          (∃ known ∈ summary, index ∈ known.mutated) ∨ call.Duplicates signature frame index) ∧
      after.locals.length = frame.locals.length ∧
      ∀ slot, after.locals[slot]? = frame.locals[slot]? ∨ site.MayWrite signature summary frame slot := by
  rcases invoke_eq_ok invoked with ⟨signature, receiver, summary, parsed, found, resolved, applies⟩
  have turns := applies.turns
  rcases applies with @⟨unsigned, object, assumed, written, refreshed, rest, words, resulted, assumes,
    writes, returns, refreshes, popped, rfl⟩
  have sized : signature.parameterWords + call.receiverWords + rest.depth = frame.depth := by
    simp only [StackEffect.Turns, Frame.depth_pushWords] at turns
    omega
  have changed := changedOnly_of_writes assumes writes
  have keptLocals : rest.locals = written.locals := locals_of_refreshDuplicate refreshes popped
  rcases Frame.popMany_eq_ok_iff.1 popped with ⟨-, -, rfl⟩
  refine ⟨signature, summary, unsigned, object, _, parsed, resolved, resulted, (returnedObject_eq_ok returns).1,
    rfl, sized, ?_, ?_, ?_⟩
  · intro index deep
    rw [List.getElem?_drop, Nat.add_sub_cancel' deep]
    by_cases listed : ∃ known ∈ summary, index ∈ known.mutated
    · exact Or.inr (Or.inl listed)
    have unexposed : index ∉ site.context.policy.exposed signature := by
      intro exposed
      have inside := Policy.lt_parameterWords_of_exposed exposed
      omega
    have kept : written.stack[index]? = frame.stack[index]? :=
      changed.stack index (not_or.2 ⟨unexposed, listed⟩)
    rcases Frame.getElem?_stack_refreshDuplicate refreshes index with same | ⟨rfl, first, isFirst, second⟩
    · exact Or.inl (same.trans kept)
    · rw [Option.mem_def.1 isFirst] at found
      rw [kept] at second
      rcases Call.constructed_eq_some found with ⟨isConstructor, isVirtual, there⟩
      exact Or.inr (Or.inr ⟨rfl, isConstructor, isVirtual, first, there, second⟩)
  · rw [← changed.count, ← keptLocals]
    rfl
  · intro slot
    by_cases writable : site.MayWrite signature summary frame slot
    · exact Or.inr writable
    · refine Or.inl ?_
      rw [← changed.locals slot writable, ← keptLocals]
      rfl

end Site

/-- A frame before the same constructor call, with a local that no argument is bound to, and with a word
below the two references. -/
def wrappingBeside : Frame :=
  let beside := { Taint.tainted with slot := some 1 }
  ⟨wrappingArray.locals ++ [beside], wrappingArray.stack ++ [beside]⟩

/-- The constructor tells the second reference about the object, and leaves what has nothing to do with
it. -/
theorem wrappingBeside_changes_only :
    ∃ after, (wrappingSite.invoke ⟨.special, "Web$Reader", "<init>", "([Ljava/lang/String;)V"⟩
        wrappingBeside).result = .ok after ∧
      Call.Duplicates ⟨.special, "Web$Reader", "<init>", "([Ljava/lang/String;)V"⟩
        ⟨["[Ljava/lang/String;"], "V"⟩ wrappingBeside 2 ∧
      after.stack[1]? = wrappingBeside.stack[3]? ∧ after.locals[1]? = wrappingBeside.locals[1]? := by
  let call : Call := ⟨.special, "Web$Reader", "<init>", "([Ljava/lang/String;)V"⟩
  let signature : Signature := ⟨["[Ljava/lang/String;"], "V"⟩
  have parsed : Signature.parse call.descriptor = .ok signature := toOption_eq_some_iff.1 (by decide)
  have resolved : (wrappingSite.resolve wrappingBeside call signature).result =
      .ok (some (.ofConstructor 2)) :=
    toOption_eq_some_iff.1 (by decide)
  have succeeds : (wrappingSite.invoke call wrappingBeside).result.toOption.isSome := by decide
  rcases Option.isSome_iff_exists.1 succeeds with ⟨after, invoked⟩
  rw [toOption_eq_some_iff] at invoked
  rcases Site.invoke_changes_only invoked with
    ⟨signature', summary, unsigned, result, below, parsed', resolved', -, -, stack, -, words, -, locals⟩
  cases Except.ok.inj (parsed.symm.trans parsed')
  cases Except.ok.inj (resolved.symm.trans resolved')
  have unlisted : ¬ ∃ known ∈ some (Summary.ofConstructor 2), 3 ∈ known.mutated := by decide
  have notBound : ∀ index < 2, wrappingBeside.slotAt? index ≠ some 1 := by decide
  have unwritten : ¬ wrappingSite.MayWrite signature (some (.ofConstructor 2)) wrappingBeside 1 := by
    rintro (⟨known, isKnown, index, listed, bound⟩ | ⟨-, index, exposed, bound⟩)
    · cases isKnown
      exact notBound index (by simpa [Summary.ofConstructor] using listed) bound
    · have consumed : index < 1 := Policy.lt_parameterWords_of_exposed exposed
      exact notBound index (by omega) bound
  refine ⟨after, invoked, ?_, ?_, ?_⟩
  · exact ⟨rfl, by decide, by decide, _, rfl, _, rfl, by decide⟩
  · rcases words 3 (by decide) with kept | listed | ⟨lower, -⟩
    · rw [stack]
      exact kept
    · exact absurd listed unlisted
    · exact absurd lower (by decide)
  · exact (locals 1).resolve_right unwritten

end TaintFlow
