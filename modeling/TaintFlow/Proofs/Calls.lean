/-
Module: TaintFlow.Proofs.Calls
Purpose: Properties of single facts that calls and stores to arrays keep. A call takes its result from the
  template of a summary, from its arguments and from what it notes by itself; if all of these have the
  property, then so do all facts after the call, whichever summary describes it.
Main exports: Summary.Admits, Context.Admits, Site.resolve_admits, Site.Carries, Site.invoke_all,
  Site.arrayStore_all, Site.step_keeps
-/
import TaintFlow.Proofs.Effects

namespace TaintFlow

variable {holds : Taint → Prop} {taint : Taint} {frame after : Frame}

theorem Closed.combine {known more : Option Taint} (closed : Closed holds)
    (before : ∀ fact ∈ known, holds fact) (added : ∀ fact ∈ more, holds fact) :
    ∀ combined ∈ Taint.combine known more, holds combined := by
  intro combined member
  cases known with
  | none => exact added combined member
  | some fact =>
      cases more with
      | none => exact before combined member
      | some other =>
          cases member
          exact closed.joins (before fact rfl) (added other rfl)

/-! ### Summaries -/

/-- The template of the summary has the property, or it is put together from the arguments of each
call. -/
def Summary.Admits (holds : Taint → Prop) (summary : Summary) : Prop :=
  ∀ template ∈ summary.output, (template.state = .unknown ∧ template.isParametric) ∨ holds template

/-- The same of all summaries that calls can be described by. -/
structure Context.Admits (holds : Taint → Prop) (context : Context) : Prop where
  special : ∀ frame caller className methodId,
    ∀ summary ∈ context.policy.specialCall? frame caller className methodId, summary.Admits holds
  inherited : ∀ className methodId,
    ∀ summary ∈ context.policy.inheritedCall? className methodId, summary.Admits holds
  stored : ∀ key, ∀ summary ∈ context.summaries.get? key, summary.Admits holds

/-- A property that survives a call: it does not look at tags, states without provenance have it, and a
fact keeps it when the call notes on it where it was made and what returned it. -/
structure Site.Carries (site : Site) (call : Call) (holds : Taint → Prop) : Prop
    extends Closed holds where
  bare : ∀ state, holds (.of state)
  retags : ∀ {taint : Taint} (tags : TagSet), holds taint → holds { taint with tags }
  locates : ∀ {taint : Taint}, holds taint → holds (taint.addLocation site.location)
  signs : ∀ {taint : Taint} (state : State), holds taint →
    holds (taint.addSource ⟨.returned, state, some call.signature⟩)

namespace Summary

variable {summary credited : Summary}

theorem admits_safe (bare : ∀ state, holds (.of state)) : Summary.safe.Admits holds := by
  intro template member
  cases member
  exact Or.inr (bare .safe)

/-- An object is put together from the arguments of its constructor, if there are any. -/
theorem admits_ofConstructor (bare : ∀ state, holds (.of state)) (words : Nat) :
    (Summary.ofConstructor words).Admits holds := by
  intro template member
  cases member
  by_cases parametric : (Taint.parametric (List.range words)).isParametric
  · exact Or.inl ⟨rfl, parametric⟩
  · have nothing : Std.ExtTreeSet.ofList (List.range words) = ∅ := by
      simpa [Taint.isParametric, Taint.parametric] using parametric
    have unknown : Taint.parametric (List.range words) = .of .unknown := by
      rw [Taint.parametric, nothing]
      rfl
    rw [unknown]
    exact Or.inr (bare .unknown)

theorem foldl_addTag_eq (tags : List Tag) (template : Taint) :
    ∃ all, tags.foldl Taint.addTag template = { template with tags := all } := by
  induction tags generalizing template with
  | nil => exact ⟨template.tags, rfl⟩
  | cons tag later inductionHypothesis =>
      rcases inductionHypothesis (template.addTag tag) with ⟨all, added⟩
      exact ⟨all, added⟩

theorem Admits.addTags (admits : summary.Admits holds)
    (retags : ∀ {taint : Taint} (tags : TagSet), holds taint → holds { taint with tags })
    (tags : List Tag) : (summary.addTags tags).Admits holds := by
  intro template member
  rcases Option.map_eq_some_iff.1 member with ⟨before, known, rfl⟩
  rcases foldl_addTag_eq tags before with ⟨all, added⟩
  rw [added]
  rcases admits before known with unresolved | has
  · exact Or.inl unresolved
  · exact Or.inr (retags all has)

theorem Admits.creditReplacement {className methodName : String} (admits : summary.Admits holds)
    (retags : ∀ {taint : Taint} (tags : TagSet), holds taint → holds { taint with tags })
    (succeeds : summary.creditReplacement frame className methodName = .ok credited) :
    credited.Admits holds := by
  unfold Summary.creditReplacement at succeeds
  split at succeeds
  next =>
    rw [bind_eq_ok_iff] at succeeds
    rcases succeeds with ⟨replaced, -, told⟩
    split at told
    next =>
      cases told
      exact admits.addTags retags _
    next =>
      cases told
      exact admits
  next =>
    cases succeeds
    exact admits

end Summary

/-- What the types alone say of a callee is admitted by any property of bare states. -/
theorem Policy.completed_admits {policy : Policy} {call : Call} {signature : Signature}
    {className : String} {found : Option Summary} (bare : ∀ state, holds (.of state))
    (admits : ∀ summary ∈ found, summary.Admits holds) :
    ∀ summary ∈ policy.completed call signature className found, summary.Admits holds := by
  intro summary member
  unfold Policy.completed at member
  split at member
  next known =>
    split at member
    next =>
      cases member
      exact admits _ rfl
    next =>
      split at member
      next =>
        cases member
        exact Summary.admits_safe bare
      next =>
        cases member
        exact admits _ rfl
  next =>
    split at member
    next =>
      cases member
      exact Summary.admits_safe bare
    next =>
      split at member
      next =>
        cases member
        exact Summary.admits_ofConstructor bare _
      next => cases member

namespace Site

variable {site : Site} {call : Call} {signature : Signature} {summary : Option Summary}

/-! ### The summary of a call -/

theorem recorded_admits {className : String} {found : Option Summary}
    (admits : site.context.Admits holds)
    (recorded : (site.recorded frame call className : Traced Fault (Option Summary)).result =
      .ok found) :
    ∀ summary ∈ found, summary.Admits holds := by
  intro summary member
  rw [result_recorded, Except.ok.injEq] at recorded
  subst recorded
  simp only [Option.mem_def, Option.or_eq_some_iff] at member
  rcases member with (((special | ⟨-, stored⟩) | ⟨-, stored⟩) | ⟨-, inherited⟩) | ⟨-, above⟩
  · exact admits.special _ _ _ _ summary special
  · exact admits.stored _ summary stored
  · exact admits.stored _ summary stored
  · exact admits.inherited _ _ summary inherited
  · rcases Option.map_eq_some_iff.1 above with ⟨⟨owner, candidate⟩, found, rfl⟩
    rcases SummaryTable.mem_candidates_iff.1 (List.mem_of_find?_eq_some found) with ⟨-, -, stored⟩
    exact admits.stored _ candidate stored

theorem resolve_admits (carries : site.Carries call holds) (admits : site.context.Admits holds)
    (resolved : (site.resolve frame call signature).result = .ok summary) :
    ∀ known ∈ summary, known.Admits holds := by
  simp only [resolve, Traced.result_bind, Traced.result_liftM, Traced.result_silently,
    bind_eq_ok_iff] at resolved
  rcases resolved with ⟨className, -, found, recorded, credited, replaced, -, -, told⟩
  cases told
  apply Policy.completed_admits carries.bare
  intro known member
  cases found with
  | none =>
      cases replaced
      cases member
  | some before =>
      rw [Option.mapM_some, map_eq_pure_bind, bind_eq_ok_iff] at replaced
      rcases replaced with ⟨after, credits, told⟩
      cases told
      cases member
      exact (recorded_admits admits recorded before rfl).creditReplacement carries.retags credits

/-! ### The result of a call -/

theorem gather_all {indices : List Nat} {gathered : Option Taint} (closed : Closed holds)
    (all : frame.All holds) (succeeds : frame.gather indices = .ok gathered) :
    ∀ known ∈ gathered, holds known := by
  refine foldlM_keeps (fun value => ∀ known ∈ value, holds known) ?_ ?_ succeeds
  · intro value index next before combined
    rw [bind_eq_ok_iff] at combined
    rcases combined with ⟨word, peeked, told⟩
    cases told
    exact closed.combine before (by simpa using all.peek peeked)
  · intro known member
    cases member

theorem resolved_holds {template : Taint} (carries : site.Carries call holds) (all : frame.All holds)
    (admitted : (template.state = .unknown ∧ template.isParametric) ∨ holds template)
    (succeeds : template.resolved frame = .ok taint) : holds taint := by
  unfold Taint.resolved at succeeds
  split at succeeds
  next =>
    rw [bind_eq_ok_iff] at succeeds
    rcases succeeds with ⟨gathered, gathers, told⟩
    have base : holds (Taint.of template.baseState) := carries.bare _
    cases gathered with
    | none =>
        cases told
        exact base
    | some arguments =>
        cases told
        exact carries.joins base (gather_all carries.toClosed all gathers arguments rfl)
  next settled =>
    cases succeeds
    exact admitted.resolve_left settled

theorem resultTaint_holds (carries : site.Carries call holds) (all : frame.All holds)
    (admits : ∀ known ∈ summary, known.Admits holds)
    (succeeds : site.resultTaint frame summary = .ok taint) : holds taint := by
  unfold resultTaint at succeeds
  split at succeeds
  next template isTemplate =>
    rcases Option.bind_eq_some_iff.1 isTemplate with ⟨known, isSummary, output⟩
    rw [Taint.instantiate, bind_eq_ok_iff] at succeeds
    rcases succeeds with ⟨resolved, resolves, told⟩
    have has := resolved_holds carries all (admits known isSummary template output) resolves
    cases told
    apply carries.retags
    split
    · exact carries.locates has
    · exact has
  next =>
    cases succeeds
    exact carries.bare .unknown

theorem remark_holds {words : Unit → String} (closed : Closed holds) (has : holds taint) :
    holds (site.remark words taint) :=
  closed.alike has (site.alike_remark words taint)

theorem signed_holds (carries : site.Carries call holds) (has : holds taint) :
    holds (site.signed call taint) := by
  have noted : holds (site.remark (fun _ => call.name ++ "()") taint) :=
    remark_holds carries.toClosed has
  unfold signed
  dsimp only
  split
  · exact carries.locates (carries.signs _ noted)
  · exact carries.signs _ noted

/-! ### What a call writes to -/

theorem writeThrough_all (all : frame.All holds) (has : holds taint) :
    (frame.writeThrough taint).All holds := by
  unfold Frame.writeThrough
  split
  next slot _ =>
    refine ⟨?_, all.stack⟩
    intro cell member
    rcases List.mem_or_eq_of_mem_set member with old | rfl
    · exact all.locals cell old
    · exact has
  next => exact all

theorem overwrite_all {index : Nat} (all : frame.All holds) (has : holds taint)
    (overwritten : (frame.writeThrough taint).poke index taint = .ok after) : after.All holds :=
  (writeThrough_all all has).poke has overwritten

theorem exposed_holds {argument : Taint} (carries : site.Carries call holds) (has : holds argument) :
    holds (site.exposed argument) := by
  have identified : holds ((argument.join .unknown).identifiedAs argument) :=
    carries.alike (carries.joins has (carries.bare .unknown)) Taint.alike_relabel
  exact carries.locates identified

/-! ### Calls and stores to arrays -/

/-- If the result of a call has a property, and an argument keeps it when the callee may have written to
it, then all facts keep it. -/
theorem Applies.all {receiver : Option Taint} (closed : Closed holds)
    (results : ∀ unsigned, site.resultTaint frame summary = .ok unsigned →
      holds (site.signed call unsigned))
    (exposes : ∀ argument, holds argument → holds (site.exposed argument)) (all : frame.All holds)
    (applies : site.Applies call signature receiver summary frame after) : after.All holds := by
  rcases applies with @⟨unsigned, object, assumed, written, refreshed, rest, words, resulted, assumes,
    writes, returns, refreshes, popped, rfl⟩
  have result := results unsigned resulted
  have afterAssumed : assumed.All holds :=
    assumeWrites_keeps (fun kept peeked => overwrite_all kept (exposes _ (kept.peek peeked))) all assumes
  have afterWrites : written.All holds := by
    refine writeMutated_keeps (fun kept _ => overwrite_all kept ?_) afterAssumed writes
    exact closed.alike result Taint.alike_relabel
  have afterRefresh : refreshed.All holds := by
    rcases refreshDuplicate_eq_ok refreshes with rfl | ⟨initialized, peeked, poked⟩
    · exact afterWrites
    · exact afterWrites.poke (afterWrites.peek peeked) poked
  have returned : holds object := closed.alike result (returnedObject_eq_ok returns).1
  exact (afterRefresh.popMany popped).2.pushWords returned

/-- A property that survives the call, and that the summaries admit, is one that all facts keep. -/
theorem invoke_all (carries : site.Carries call holds) (admits : site.context.Admits holds)
    (all : frame.All holds) (succeeds : (site.invoke call frame).result = .ok after) :
    after.All holds := by
  rcases invoke_eq_ok succeeds with ⟨signature, receiver, summary, -, -, resolved, applies⟩
  apply applies.all carries.toClosed _ _ all
  · intro unsigned resulted
    apply signed_holds carries
    exact resultTaint_holds carries all (resolve_admits carries admits resolved) resulted
  · exact fun argument => exposed_holds carries

theorem holding_holds {array : Taint} {words : List Taint} (closed : Closed holds) (has : holds array)
    (all : ∀ word ∈ words, holds word) : holds (array.holding words) := by
  have value : ∀ known ∈ words.foldl (fun known word => Taint.combine known (some word)) none,
      holds known := by
    refine List.foldlRecOn (motive := fun known => ∀ fact ∈ known, holds fact) words _ ?_ ?_
    · intro fact member
      cases member
    · intro known before word member
      exact closed.combine before (by simpa using all word member)
  refine closed.alike ?_ Taint.alike_relabel
  cases gathered : words.foldl (fun known word => Taint.combine known (some word)) none with
  | none => exact has
  | some known => exact closed.joins (value known gathered) has

theorem arrayStore_all {kind : Kind} (closed : Closed holds) (all : frame.All holds)
    (succeeds : (site.arrayStore kind frame).result = .ok after) : after.All holds := by
  rcases arrayStore_eq_ok_iff.1 succeeds with ⟨words, array, below, ⟨-, index, stack⟩, rfl⟩
  have onStack := all.stack
  rw [stack] at onStack
  have merged : holds (array.holding words) := by
    apply holding_holds closed
    · exact onStack array (by simp)
    · exact fun word member => onStack word (by simp [member])
  have rest : (⟨frame.locals, below⟩ : Frame).All holds :=
    ⟨all.locals, fun word member => onStack word (by simp [member])⟩
  have written := writeThrough_all rest merged
  refine ⟨?_, ?_⟩
  · rw [Frame.storing, Frame.locals_refreshTop]
    exact written.locals
  · intro word member
    rcases List.getElem?_of_mem member with ⟨position, there⟩
    rw [Frame.getElem?_stack_storing] at there
    split at there
    · cases there
      exact merged
    · exact rest.stack word (List.mem_of_getElem? there)

/-- Any instruction keeps a property of all cells, if what it makes out of nothing has it and a call
carries it. -/
theorem step_keeps {instruction : Instruction} {step : Step} (closed : Closed holds)
    (makes : ∀ taint ∈ site.made instruction, holds taint)
    (carries : ∀ call, instruction = .invoke call → site.Carries call holds)
    (admits : site.context.Admits holds) (all : frame.All holds)
    (acted : (site.step instruction frame).result = .ok step) :
    step.frame.All holds ∧ ∀ taint ∈ step.returned, holds taint := by
  by_cases plain : instruction.isPlain
  · exact step_all closed plain makes all acted
  · rw [result_step] at acted
    cases instruction with
    | invoke call =>
        rcases act_eq_ok acted with ⟨after, invoked, rfl⟩
        exact ⟨invoke_all (carries call rfl) admits all invoked, by simp⟩
    | arrayStore kind =>
        rcases act_eq_ok acted with ⟨after, stored, rfl⟩
        exact ⟨arrayStore_all closed all stored, by simp⟩
    | _ => simp [Instruction.isPlain] at plain

end Site

end TaintFlow
