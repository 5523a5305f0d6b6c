/-
Module: TaintFlow.Proofs.ParallelCalls
Purpose: Calls and stores to arrays that act at one location of two analyses. If a relation between facts
  survives all that is done to single facts there, and related facts agree in what instructions look at,
  then every instruction acts on related frames in lockstep, as long as both analyses recognise the same
  second references to an object.
Main exports: Site.Twins, Site.Parallel, Site.Compares, Site.Parallel.lockstep_step
-/
import TaintFlow.Proofs.ArrayStores
import TaintFlow.Proofs.Lockstep

namespace TaintFlow

namespace Site

/-- The same place in two analyses that know the same of types and callees. -/
structure Twins (site other : Site) : Prop where
  policy : site.context.policy = other.context.policy
  summaries : site.context.summaries = other.context.summaries
  arrangement : site.context.arrangement = other.context.arrangement
  method : site.method = other.method
  offset : site.offset = other.offset

theorem Twins.location {site other : Site} (twins : site.Twins other) : site.location = other.location := by
  unfold Site.location
  rw [twins.method, twins.offset]

/-- Such a place, with a relation between facts that is kept there: it survives what is done to single
facts, and related facts agree in all that instructions look at. -/
structure Parallel (site other : Site) (relation : Taint → Taint → Prop) : Prop
    extends Respected relation, Twins site other where
  rules : ∀ {frame frame' : Frame}, Frame.Related relation frame frame' →
    ∀ caller className methodId, other.context.policy.specialCall? frame caller className methodId =
      other.context.policy.specialCall? frame' caller className methodId
  reflexive : ∀ taint, relation taint taint
  state : ∀ {one two : Taint}, relation one two → one.state = two.state
  literal : ∀ {one two : Taint}, relation one two → one.literal = two.literal
  runtimeClass : ∀ {one two : Taint}, relation one two → one.runtimeClass = two.runtimeClass
  slot : ∀ {one two : Taint}, relation one two → one.slot = two.slot
  allocation : ∀ {one two : Taint}, relation one two → one.allocation = two.allocation
  joins : ∀ {one two three four : Taint}, relation one two → relation three four →
    relation (one.join three) (two.join four)
  identifies : ∀ {one two : Taint}, relation one two → ∀ slot runtimeClass allocation,
    relation { one with slot, runtimeClass, allocation } { two with slot, runtimeClass, allocation }
  retags : ∀ {one two : Taint}, relation one two → ∀ added stripped : TagSet,
    relation { one with tags := (if one.state = .safe then one.tags else one.tags ∪ added) \ stripped }
      { two with tags := (if two.state = .safe then two.tags else two.tags ∪ added) \ stripped }
  locates : ∀ {one two : Taint}, relation one two → ∀ location,
    relation (one.addLocation location) (two.addLocation location)
  signs : ∀ {one two : Taint}, relation one two → ∀ call,
    relation (site.signed call one) (other.signed call two)
  makes : ∀ instruction, ∀ one ∈ site.made instruction, ∀ two ∈ other.made instruction, relation one two

/-- The pairs of facts of which an instruction asks whether they are about one object: the word right
below what the instruction consumes, and the array that it stores to or the object that it constructs. -/
inductive Compares (site : Site) (frame : Frame) : Instruction → Taint → Taint → Prop where
  | array {kind : Kind} {words below : List Taint} {array duplicate : Taint}
      (offers : frame.Offers kind words array below) (lies : below[0]? = some duplicate) :
      Compares site frame (.arrayStore kind) duplicate array
  | object {call : Call} {signature : Signature} {summary : Option Summary} {assumed written : Frame}
      {receiver unsigned duplicate : Taint} (parsed : Signature.parse call.descriptor = .ok signature)
      (constructed : call.constructed signature frame = .ok (some receiver))
      (resolved : (site.resolve frame call signature).result = .ok summary)
      (resulted : site.resultTaint frame summary = .ok unsigned)
      (assumes : (site.assumeWrites summary signature frame).result = .ok assumed)
      (writes : (site.writeMutated summary (site.signed call unsigned) assumed).result = .ok written)
      (lies : written.stack[signature.parameterWords + call.receiverWords]? = some duplicate) :
      Compares site frame (.invoke call) duplicate receiver

namespace Parallel

variable {site other : Site} {relation : Taint → Taint → Prop} {frame frame' : Frame}
  {one two three four : Taint} {call : Call} {signature : Signature} {summary : Option Summary}

/-! ### Facts -/

theorem combine {known known' more more' : Option Taint} (parallel : site.Parallel other relation)
    (first : Option.Rel relation known known') (second : Option.Rel relation more more') :
    Option.Rel relation (Taint.combine known more) (Taint.combine known' more') := by
  cases first with
  | none => exact second
  | some before =>
      cases second with
      | none => exact .some before
      | some added => exact .some (parallel.joins before added)

theorem identifiedAs (parallel : site.Parallel other relation) (value : relation one two)
    (object : relation three four) : relation (one.identifiedAs three) (two.identifiedAs four) := by
  unfold Taint.identifiedAs
  rw [parallel.slot object, parallel.runtimeClass object, parallel.allocation object]
  exact parallel.identifies value _ _ _

theorem exposed (parallel : site.Parallel other relation) (argument : relation one two) :
    relation (site.exposed one) (other.exposed two) := by
  have met := parallel.joins argument (parallel.reflexive .unknown)
  unfold Site.exposed
  rw [parallel.location]
  exact parallel.locates (parallel.identifiedAs met argument) _

theorem holding {words words' : List Taint} (parallel : site.Parallel other relation)
    (array : relation one two) (related : List.Forall₂ relation words words') :
    relation (one.holding words) (two.holding words') := by
  have combines : Relator.LiftFun (Option.Rel relation) (Relator.LiftFun relation (Option.Rel relation))
      (fun known word => Taint.combine known (some word))
      (fun known word => Taint.combine known (some word)) :=
    fun _ _ known _ _ word => parallel.combine known (.some word)
  have stillTheArray {value value' : Taint} (values : relation value value') :
      relation { value with slot := one.slot, allocation := one.allocation }
        { value' with slot := two.slot, allocation := two.allocation } := by
    have same := parallel.identifies values two.slot value'.runtimeClass two.allocation
    simpa only [parallel.slot array, parallel.allocation array, parallel.runtimeClass values] using same
  have stored := List.rel_foldl combines .none related
  unfold Taint.holding
  generalize words.foldl _ none = value at stored ⊢
  generalize words'.foldl _ none = value' at stored ⊢
  cases stored with
  | none => exact stillTheArray array
  | some values => exact stillTheArray (parallel.joins values array)

/-! ### Writes -/

theorem writeThrough (parallel : site.Parallel other relation)
    (related : Frame.Related relation frame frame') (value : relation one two) :
    Frame.Related relation (frame.writeThrough one) (frame'.writeThrough two) := by
  unfold Frame.writeThrough
  rw [parallel.slot value]
  split
  · exact ⟨forall₂_set related.locals value _, related.stack⟩
  · exact related

theorem lockstep_overwrite (parallel : site.Parallel other relation)
    (related : Frame.Related relation frame frame') (value : relation one two) (index : Nat) :
    Lockstep (Frame.Related relation) (site.overwrite frame index one).result
      (other.overwrite frame' index two).result := by
  rw [result_overwrite, result_overwrite]
  exact (parallel.writeThrough related value).lockstep_poke value index

theorem lockstep_exposeArgument (parallel : site.Parallel other relation)
    (related : Frame.Related relation frame frame') (index : Nat) :
    Lockstep (Frame.Related relation) (site.exposeArgument frame index).result
      (other.exposeArgument frame' index).result := by
  refine lockstep_result_bind (related.lockstep_peek index) ?_
  intro argument argument' arguments
  exact parallel.lockstep_overwrite related (parallel.exposed arguments) index

theorem lockstep_assumeWrites (parallel : site.Parallel other relation)
    (related : Frame.Related relation frame frame') :
    Lockstep (Frame.Related relation) (site.assumeWrites summary signature frame).result
      (other.assumeWrites summary signature frame').result := by
  unfold Site.assumeWrites
  rw [parallel.policy]
  split
  · exact .ok related
  · refine lockstep_result_foldlM ?_ related
    intro index before before' frames
    exact parallel.lockstep_exposeArgument frames index

theorem lockstep_writeArgument (parallel : site.Parallel other relation) (result : relation one two)
    (related : Frame.Related relation frame frame') (index : Nat) :
    Lockstep (Frame.Related relation) (site.writeArgument one frame index).result
      (other.writeArgument two frame' index).result := by
  unfold Site.writeArgument
  rw [related.depth_eq]
  split
  · refine lockstep_result_bind (related.lockstep_peek index) ?_
    intro argument argument' arguments
    exact parallel.lockstep_overwrite related (parallel.identifiedAs result arguments) index
  · exact .ok related

theorem lockstep_writeMutated (parallel : site.Parallel other relation) (result : relation one two)
    (related : Frame.Related relation frame frame') :
    Lockstep (Frame.Related relation) (site.writeMutated summary one frame).result
      (other.writeMutated summary two frame').result := by
  cases summary with
  | none => exact .ok related
  | some known =>
      refine lockstep_result_foldlM ?_ related
      intro index before before' frames
      exact parallel.lockstep_writeArgument result frames index

/-! ### The result of a call -/

theorem lockstep_gather (parallel : site.Parallel other relation)
    (related : Frame.Related relation frame frame') (indices : List Nat) :
    Lockstep (Option.Rel relation) (frame.gather indices) (frame'.gather indices) := by
  refine lockstep_foldlM ?_ .none
  intro index known known' before
  refine (related.lockstep_peek index).bind ?_
  intro word word' words
  exact .ok (parallel.combine before (.some words))

theorem lockstep_resolved (parallel : site.Parallel other relation)
    (related : Frame.Related relation frame frame') (template : Taint) :
    Lockstep relation (template.resolved frame) (template.resolved frame') := by
  unfold Taint.resolved
  split
  · have base := parallel.reflexive (Taint.of template.baseState)
    refine (parallel.lockstep_gather related _).bind ?_
    intro gathered gathered' arguments
    cases arguments with
    | none => exact .ok base
    | some arguments => exact .ok (parallel.joins base arguments)
  · exact .ok (parallel.reflexive template)

theorem lockstep_resultTaint (parallel : site.Parallel other relation)
    (related : Frame.Related relation frame frame') (summary : Option Summary) :
    Lockstep relation (site.resultTaint frame summary) (other.resultTaint frame' summary) := by
  unfold Site.resultTaint
  rw [parallel.location]
  split
  · refine (parallel.lockstep_resolved related _).bind ?_
    intro unsettled unsettled' values
    refine .ok ?_
    by_cases isTainted : unsettled'.state = .tainted
    · rw [if_pos isTainted, if_pos ((parallel.state values).trans isTainted)]
      exact parallel.retags (parallel.locates values _) _ _
    · rw [if_neg isTainted, if_neg (fun tainted => isTainted ((parallel.state values).symm.trans tainted))]
      exact parallel.retags values _ _
  · exact .ok (parallel.reflexive .unknown)

/-! ### The summary of a call -/

theorem lockstep_calleeClass (parallel : site.Parallel other relation)
    (related : Frame.Related relation frame frame') :
    Lockstep (· = ·) (call.calleeClass signature frame) (call.calleeClass signature frame') := by
  unfold Call.calleeClass
  split
  · exact .ok rfl
  · refine (related.lockstep_peek _).bind ?_
    intro receiver receiver' receivers
    rw [parallel.runtimeClass receivers]
    exact .ok rfl

theorem lockstep_creditReplacement {known : Summary} {className methodName : String}
    (parallel : site.Parallel other relation) (related : Frame.Related relation frame frame') :
    Lockstep (· = ·) (known.creditReplacement frame className methodName)
      (known.creditReplacement frame' className methodName) := by
  unfold Summary.creditReplacement
  split
  · refine (related.lockstep_peek 1).bind ?_
    intro replaced replaced' texts
    rw [parallel.literal texts]
    exact lockstep_self _
  · exact .ok rfl

/-- Both calls are described by the same summary. -/
theorem lockstep_resolve (parallel : site.Parallel other relation)
    (related : Frame.Related relation frame frame') :
    Lockstep (· = ·) (site.resolve frame call signature).result
      (other.resolve frame' call signature).result := by
  refine lockstep_result_bind (parallel.lockstep_calleeClass related) ?_
  rintro className _ rfl
  have sameRecord : (site.recorded frame call className : Traced Fault (Option Summary)).result =
      (other.recorded frame' call className : Traced Fault (Option Summary)).result := by
    rw [result_recorded, result_recorded, parallel.policy, parallel.summaries, parallel.arrangement,
      parallel.method, parallel.rules related]
  have recorded : Lockstep (· = ·) (site.recorded frame call className : Traced Fault _).result
      (other.recorded frame' call className : Traced Fault _).result := by
    rw [sameRecord]
    exact lockstep_self _
  refine lockstep_result_bind recorded ?_
  rintro found _ rfl
  -- What is on record is the same for both; what a replacement earns depends on a literal.
  have credited : Lockstep (· = ·)
      (found.mapM fun known => known.creditReplacement frame className call.name)
      (found.mapM fun known => known.creditReplacement frame' className call.name) := by
    cases found with
    | none => exact .ok rfl
    | some known =>
        simp only [Option.mapM_some, map_eq_pure_bind]
        refine (parallel.lockstep_creditReplacement related).bind ?_
        rintro replaced _ rfl
        exact .ok rfl
  refine lockstep_result_bind credited ?_
  rintro earned _ rfl
  rw [parallel.policy]
  exact .ok rfl

/-! ### Calls and stores to arrays -/

theorem lockstep_constructed (related : Frame.Related relation frame frame') :
    Lockstep (Option.Rel relation) (call.constructed signature frame)
      (call.constructed signature frame') := by
  unfold Call.constructed
  split
  · rw [map_eq_pure_bind, map_eq_pure_bind]
    exact (related.lockstep_peek _).bind fun _ _ objects => .ok (.some objects)
  · exact .ok .none

theorem lockstep_returnedObject (parallel : site.Parallel other relation)
    (related : Frame.Related relation frame frame') (result : relation one two) :
    Lockstep relation (call.returnedObject signature summary frame one)
      (call.returnedObject signature summary frame' two) := by
  unfold Call.returnedObject
  dsimp only
  split
  · refine (related.lockstep_peek _).bind ?_
    intro receiver receiver' objects
    rw [parallel.slot objects, parallel.allocation objects]
    exact .ok (parallel.identifies result _ _ _)
  · exact .ok (parallel.identifies result _ _ _)

/-- Both analyses tell about a second reference to a constructed object, or neither does. -/
theorem lockstep_refreshDuplicate {receiver receiver' : Option Taint} {consumed : Nat}
    (related : Frame.Related relation frame frame') (objects : Option.Rel relation receiver receiver')
    (judges : ∀ {object object' duplicate duplicate' : Taint}, receiver = some object →
      receiver' = some object' → frame.stack[consumed]? = some duplicate →
      frame'.stack[consumed]? = some duplicate' → relation duplicate duplicate' → relation object object' →
      (duplicate.SameObject object ↔ duplicate'.SameObject object')) :
    Lockstep (Frame.Related relation) (frame.refreshDuplicate consumed receiver)
      (frame'.refreshDuplicate consumed receiver') := by
  have words := forall₂_rel_getElem? related.stack consumed
  unfold Frame.refreshDuplicate
  cases objects with
  | none => exact .ok related
  | some objects =>
      generalize frame.stack[consumed]? = lies at *
      generalize frame'.stack[consumed]? = lies' at *
      cases words with
      | none => exact .ok related
      | some duplicates =>
          have agree := judges rfl rfl rfl rfl duplicates objects
          dsimp only
          split
          next same =>
            rw [if_pos (agree.1 same)]
            exact (related.lockstep_peek _).bind fun _ _ initialized =>
              related.lockstep_poke initialized consumed
          next different =>
            rw [if_neg (fun same => different (agree.2 same))]
            exact .ok related

theorem lockstep_applySummary {receiver receiver' : Option Taint} (parallel : site.Parallel other relation)
    (related : Frame.Related relation frame frame') (objects : Option.Rel relation receiver receiver')
    (judges : ∀ {object object' duplicate duplicate' unsigned unsigned' : Taint}
      {assumed assumed' written written' : Frame}, receiver = some object → receiver' = some object' →
      site.resultTaint frame summary = .ok unsigned → other.resultTaint frame' summary = .ok unsigned' →
      (site.assumeWrites summary signature frame).result = .ok assumed →
      (other.assumeWrites summary signature frame').result = .ok assumed' →
      (site.writeMutated summary (site.signed call unsigned) assumed).result = .ok written →
      (other.writeMutated summary (other.signed call unsigned') assumed').result = .ok written' →
      written.stack[signature.parameterWords + call.receiverWords]? = some duplicate →
      written'.stack[signature.parameterWords + call.receiverWords]? = some duplicate' →
      relation duplicate duplicate' → relation object object' →
      (duplicate.SameObject object ↔ duplicate'.SameObject object')) :
    Lockstep (Frame.Related relation) (site.applySummary call signature receiver summary frame).result
      (other.applySummary call signature receiver' summary frame').result := by
  refine lockstep_result_bind_of_eq_ok (parallel.lockstep_resultTaint related summary) ?_
  intro unsigned unsigned' resulted resulted' unsignedResults
  have result := parallel.signs unsignedResults call
  refine lockstep_result_bind_of_eq_ok (parallel.lockstep_assumeWrites related) ?_
  intro assumed assumed' assumes assumes' assumedFrames
  refine lockstep_result_bind_of_eq_ok (parallel.lockstep_writeMutated result assumedFrames) ?_
  intro written written' writes writes' writtenFrames
  refine lockstep_result_bind (parallel.lockstep_returnedObject writtenFrames result) ?_
  intro object object' returned
  refine lockstep_result_bind (lockstep_refreshDuplicate writtenFrames objects ?_) ?_
  · intro object object' duplicate duplicate' found found' lies lies'
    exact judges found found' resulted resulted' assumes assumes' writes writes' lies lies'
  · intro refreshed refreshed' refreshedFrames
    refine lockstep_result_bind (refreshedFrames.lockstep_popMany _) ?_
    rintro ⟨words, rest⟩ ⟨words', rest'⟩ ⟨-, below⟩
    exact .ok (below.pushWords returned)

theorem lockstep_invoke (parallel : site.Parallel other relation)
    (related : Frame.Related relation frame frame')
    (judges : ∀ {duplicate object duplicate' object' : Taint},
      site.Compares frame (.invoke call) duplicate object →
      other.Compares frame' (.invoke call) duplicate' object' → relation duplicate duplicate' →
      relation object object' → (duplicate.SameObject object ↔ duplicate'.SameObject object')) :
    Lockstep (Frame.Related relation) (site.invoke call frame).result (other.invoke call frame').result := by
  refine lockstep_result_bind (lockstep_self (.ok ())) fun _ _ _ => ?_
  refine lockstep_result_bind_of_eq_ok (lockstep_self (Signature.parse call.descriptor)) ?_
  rintro signature _ parsed - rfl
  refine lockstep_result_bind_of_eq_ok (lockstep_constructed related) ?_
  intro receiver receiver' found found' objects
  refine lockstep_result_bind_of_eq_ok (parallel.lockstep_resolve related) ?_
  rintro summary _ resolved resolved' rfl
  refine parallel.lockstep_applySummary related objects ?_
  rintro object object' duplicate duplicate' unsigned unsigned' assumed assumed' written written' rfl rfl
    resulted resulted' assumes assumes' writes writes' lies lies'
  exact judges (.object parsed found resolved resulted assumes writes lies)
    (.object parsed found' resolved' resulted' assumes' writes' lies')

theorem refreshTop {object object' : Taint} (related : Frame.Related relation frame frame')
    (value : relation one two)
    (judges : ∀ {duplicate duplicate' : Taint}, frame.stack[0]? = some duplicate →
      frame'.stack[0]? = some duplicate' → relation duplicate duplicate' →
      (duplicate.SameObject object ↔ duplicate'.SameObject object')) :
    Frame.Related relation (frame.refreshTop object one) (frame'.refreshTop object' two) := by
  rcases frame with ⟨locals, stack⟩
  rcases frame' with ⟨locals', stack'⟩
  rcases related with ⟨cells, words⟩
  cases words with
  | nil => exact ⟨cells, .nil⟩
  | cons top below =>
      have agree := judges rfl rfl top
      unfold Frame.refreshTop
      dsimp only
      split
      next same =>
        rw [if_pos (agree.1 same)]
        exact ⟨cells, .cons value below⟩
      next different =>
        rw [if_neg (fun same => different (agree.2 same))]
        exact ⟨cells, .cons top below⟩

theorem lockstep_arrayStore {kind : Kind} (parallel : site.Parallel other relation)
    (related : Frame.Related relation frame frame')
    (judges : ∀ {duplicate array duplicate' array' : Taint},
      site.Compares frame (.arrayStore kind) duplicate array →
      other.Compares frame' (.arrayStore kind) duplicate' array' → relation duplicate duplicate' →
      relation array array' → (duplicate.SameObject array ↔ duplicate'.SameObject array')) :
    Lockstep (Frame.Related relation) (site.arrayStore kind frame).result
      (other.arrayStore kind frame').result := by
  rw [result_arrayStore, result_arrayStore]
  refine (related.lockstep_popMany kind.words).bind_of_eq_ok ?_
  rintro ⟨words, withoutValue⟩ ⟨words', withoutValue'⟩ popped popped' ⟨values, without⟩
  refine without.lockstep_pop.bind_of_eq_ok ?_
  rintro ⟨index, withoutIndex⟩ ⟨index', withoutIndex'⟩ poppedIndex poppedIndex' ⟨-, without⟩
  refine without.lockstep_pop.bind_of_eq_ok ?_
  rintro ⟨array, rest⟩ ⟨array', rest'⟩ poppedArray poppedArray' ⟨arrays, below⟩
  have held := parallel.holding arrays values
  refine .ok (refreshTop (parallel.writeThrough below held) held ?_)
  intro duplicate duplicate' lies lies' duplicates
  rw [Frame.stack_writeThrough] at lies lies'
  exact judges (.array (Frame.offers_of_pops popped poppedIndex poppedArray).1 lies)
    (.array (Frame.offers_of_pops popped' poppedIndex' poppedArray').1 lies') duplicates arrays

/-- Every instruction acts on related frames in lockstep. -/
theorem lockstep_step {instruction : Instruction} (parallel : site.Parallel other relation)
    (judges : ∀ {duplicate object duplicate' object' : Taint},
      site.Compares frame instruction duplicate object →
      other.Compares frame' instruction duplicate' object' → relation duplicate duplicate' →
      relation object object' → (duplicate.SameObject object ↔ duplicate'.SameObject object'))
    (related : Frame.Related relation frame frame') :
    Lockstep (Step.Related relation) (site.step instruction frame).result
      (other.step instruction frame').result := by
  by_cases plain : instruction.isPlain
  · exact lockstep_plain parallel.toRespected parallel.slot plain parallel.policy
      (parallel.makes instruction) related
  · rw [result_step, result_step]
    cases instruction with
    | invoke call => exact lockstep_act (parallel.lockstep_invoke related judges)
    | arrayStore kind => exact lockstep_act (parallel.lockstep_arrayStore related judges)
    | _ => simp [Instruction.isPlain] at plain

end Parallel

end Site

end TaintFlow
