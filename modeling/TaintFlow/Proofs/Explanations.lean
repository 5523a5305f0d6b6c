/-
Module: TaintFlow.Proofs.Explanations
Purpose: Every tainted value can be explained. However taint has come to a word or a local, the fact about
  it names a place of the method that has been visited and that reads a field or calls a method, and a
  field or a callee that the value came from. A summary that says that a result is tainted without saying
  why is completed by the call, and facts that meet lose neither places nor sources.
Main exports: Instruction.isOrigin, Task.Originates, Task.Explains, Task.step_explained,
  Task.run_explains_taint
-/
import TaintFlow.Proofs.Aliases
import TaintFlow.Proofs.Provenance

namespace TaintFlow

/-- The instruction brings values into the method: it reads a field, or it calls a method. -/
def Instruction.isOrigin : Instruction → Bool
  | getField _ _ | invoke _ => true
  | _ => false

/-- The location is that of an instruction of this method that brings values into it, and has been
visited. -/
structure Task.Originates (task : Task) (visited : Offset → Prop) (location : Location) : Prop where
  method : location.method = task.method.key
  visited : visited location.offset
  origin : ∃ instruction, task.body.instruction? location.offset = some instruction ∧
    instruction.isOrigin

/-- If the value is tainted, one can say where it came into the method and what it came from. -/
def Task.Explains (task : Task) (visited : Offset → Prop) (taint : Taint) : Prop :=
  taint.state = .tainted →
    (∃ location ∈ taint.locations, task.Originates visited location) ∧
      ∃ source ∈ taint.sources, source.kind = .field ∨ source.kind = .returned

namespace Task

variable {task : Task} {visited visited' : Offset → Prop} {taint one two : Taint} {frame : Frame}
  {offset : Offset} {instruction : Instruction} {step : Step} {call : Call}

/-! ### Explanations of single facts -/

/-- A fact that names all that another one names is explained if the other one is. -/
theorem Explains.extend (explains : task.Explains visited one)
    (tainted : two.state = .tainted → one.state = .tainted)
    (locations : ∀ location ∈ one.locations.map id, location ∈ two.locations.map id)
    (sources : ∀ key ∈ one.sources.map Source.key, key ∈ two.sources.map Source.key) :
    task.Explains visited two := by
  intro isTainted
  rcases explains (tainted isTainted) with ⟨⟨location, named, originates⟩, source, noted, kind⟩
  rw [List.map_id] at locations
  constructor
  · exact ⟨location, by simpa using locations location named, originates⟩
  · rcases List.mem_map.1 (sources _ (List.mem_map_of_mem noted)) with ⟨other, otherNoted, sameKey⟩
    have sameKind : other.kind = source.kind := congrArg Prod.fst sameKey
    exact ⟨other, otherNoted, sameKind ▸ kind⟩

theorem Explains.widen (widens : ∀ offset, visited offset → visited' offset)
    (explains : task.Explains visited taint) : task.Explains visited' taint := by
  intro isTainted
  rcases explains isTainted with ⟨⟨location, named, method, seen, origin⟩, sourced⟩
  exact ⟨⟨location, named, method, widens _ seen, origin⟩, sourced⟩

theorem explains_of_state (harmless : taint.state ≠ .tainted) : task.Explains visited taint :=
  fun isTainted => absurd isTainted harmless

theorem Explains.addLocation (explains : task.Explains visited taint) (location : Location) :
    task.Explains visited (taint.addLocation location) :=
  explains.extend id (fun _ named => mem_keys_record.2 (Or.inl named)) fun _ => id

/-- Facts that meet lose no explanation. -/
theorem closed_explains : Closed (task.Explains visited) where
  alike explains alike := by
    apply explains.extend
    · exact fun isTainted => alike.state.symm.trans isTainted
    · rw [alike.locations]
      exact fun _ => id
    · rw [alike.sources]
      exact fun _ => id
  joins {one two} first second := by
    intro isTainted
    have either : one.state = .tainted ∨ two.state = .tainted := by
      revert isTainted
      change one.state.merge two.state = .tainted → _
      cases one.state <;> cases two.state <;> decide
    rcases either with taintedOne | taintedTwo
    · exact first.extend (fun _ => taintedOne) (fun _ named => Taint.mem_locations_join.2 (Or.inl named))
        (fun _ noted => Taint.mem_sources_join.2 (Or.inl noted)) isTainted
    · exact second.extend (fun _ => taintedTwo) (fun _ named => Taint.mem_locations_join.2 (Or.inr named))
        (fun _ noted => Taint.mem_sources_join.2 (Or.inr noted)) isTainted

/-! ### Where taint comes into a method -/

theorem originates_site (code : task.body.instruction? offset = some instruction)
    (origin : instruction.isOrigin) (seen : visited offset) :
    task.Originates visited (task.site offset).location :=
  ⟨rfl, seen, instruction, code, origin⟩

/-- A fact that names a source of the right kind, and a place of the right kind if it is tainted. -/
theorem explains_of_provenance {location : Location} {key : SourceKind × Option String}
    (originates : task.Originates visited location)
    (named : taint.state = .tainted → location ∈ taint.locations.map id)
    (noted : key ∈ taint.sources.map Source.key) (kind : key.1 = .field ∨ key.1 = .returned) :
    task.Explains visited taint := by
  intro isTainted
  constructor
  · exact ⟨location, by simpa using named isTainted, originates⟩
  · rcases List.mem_map.1 noted with ⟨source, member, rfl⟩
    exact ⟨source, member, kind⟩

/-- A tainted value of a field is explained by the field and by where it is read. -/
theorem fieldTaint_explained {field : FieldName}
    (originates : task.Originates visited (task.site offset).location) :
    task.Explains visited ((task.site offset).fieldTaint field) := by
  unfold Site.fieldTaint
  dsimp only
  apply Site.remark_holds closed_explains
  apply explains_of_provenance originates _ (Taint.key_mem_addSource _ _) (Or.inl rfl)
  generalize (task.site offset).context.policy.fieldState field.signature .unknown = state
  split
  next isSafe =>
    intro isTainted
    cases isSafe.symm.trans isTainted
  next => exact fun _ => Taint.mem_addLocation (.of state) (task.site offset).location

/-- Apart from fields, nothing that an instruction makes is tainted. -/
theorem made_explained (code : task.body.instruction? offset = some instruction) (seen : visited offset) :
    ∀ taint ∈ (task.site offset).made instruction, task.Explains visited taint := by
  have remarked {fact : Taint} {words : Unit → String} (harmless : fact.state ≠ .tainted) :
      task.Explains visited ((task.site offset).remark words fact) :=
    Site.remark_holds closed_explains (explains_of_state harmless)
  intro taint made
  cases instruction <;> cases made
  case constant.refl literal => cases literal <;> exact remarked State.noConfusion
  case getField.refl field isStatic => exact fieldTaint_explained (originates_site code rfl seen)
  case new.refl className => exact remarked State.noConfusion
  case newArray.refl dimensions => exact remarked State.noConfusion
  case checkCast.refl className => exact remarked (by decide)
  case concat.refl operands => exact explains_of_state (by decide)
  case other.refl consumed produced => exact explains_of_state (by decide)

/-- A template that stands for a tainted result is given the location of the call, whether or not
arguments flow into it. -/
theorem location_mem_resultTaint {site : Site} {summary : Option Summary}
    (resulted : site.resultTaint frame summary = .ok taint) (isTainted : taint.state = .tainted) :
    site.location ∈ taint.locations.map id := by
  unfold Site.resultTaint at resulted
  split at resulted
  next template _ =>
    rw [Taint.instantiate, bind_eq_ok_iff] at resulted
    rcases resulted with ⟨value, -, told⟩
    cases told
    dsimp only at isTainted ⊢
    split
    next => exact Taint.mem_addLocation value site.location
    next harmless =>
      rw [if_neg harmless] at isTainted
      exact absurd isTainted harmless
  -- Without a summary the result is unknown.
  next =>
    cases resulted
    cases isTainted

/-- The tainted result of a call is explained by the callee and by where it is called. -/
theorem signed_explained {summary : Option Summary}
    (originates : task.Originates visited (task.site offset).location)
    (resulted : (task.site offset).resultTaint frame summary = .ok taint) :
    task.Explains visited ((task.site offset).signed call taint) := by
  have remarked := (task.site offset).alike_remark (fun _ => call.name ++ "()") taint
  unfold Site.signed
  dsimp only
  generalize (task.site offset).remark (fun _ => call.name ++ "()") taint = fact at remarked
  have sourced : task.Explains visited (fact.addSource ⟨.returned, fact.state, some call.signature⟩) := by
    apply explains_of_provenance originates _ (Taint.key_mem_addSource _ _) (Or.inr rfl)
    intro isTainted
    change _ ∈ fact.locations.map id
    rw [remarked.locations]
    exact location_mem_resultTaint resulted (remarked.state.symm.trans isTainted)
  split
  · exact sourced.addLocation _
  · exact sourced

theorem exposed_explained {argument : Taint} {site : Site} (explains : task.Explains visited argument) :
    task.Explains visited (site.exposed argument) := by
  have unknown : task.Explains visited .unknown := explains_of_state (by decide)
  have joined := closed_explains.joins explains unknown
  exact (closed_explains.alike joined Taint.alike_relabel).addLocation _

/-! ### Explanations along a run -/

/-- An instruction hands on and returns only what can be explained, whatever the policy and the summaries
say. -/
theorem step_explained (code : task.body.instruction? offset = some instruction) (seen : visited offset)
    (all : frame.All (task.Explains visited))
    (acted : ((task.site offset).step instruction frame).result = .ok step) :
    step.frame.All (task.Explains visited) ∧
      ∀ taint ∈ step.returned, task.Explains visited taint := by
  by_cases plain : instruction.isPlain
  · exact Site.step_all closed_explains plain (made_explained code seen) all acted
  · rw [Site.result_step] at acted
    cases instruction with
    | invoke call =>
        rcases Site.act_eq_ok acted with ⟨after, invoked, rfl⟩
        rcases Site.invoke_eq_ok invoked with ⟨signature, receiver, summary, -, -, -, applies⟩
        have originates := originates_site code rfl seen
        refine ⟨applies.all closed_explains ?_ ?_ all, by simp⟩
        · exact fun unsigned => signed_explained originates
        · exact fun argument => exposed_explained
    | arrayStore kind =>
        rcases Site.act_eq_ok acted with ⟨after, stored, rfl⟩
        exact ⟨Site.arrayStore_all closed_explains all stored, by simp⟩
    | _ => simp [Instruction.isPlain] at plain

variable (task) in
theorem maintains_explains (start : Solver) :
    task.Maintains start fun visited frame => frame.All (task.Explains visited) where
  widens widens all :=
    ⟨fun cell member => (all.locals cell member).widen widens,
      fun word member => (all.stack word member).widen widens⟩
  meets all otherAll met := closed_explains.meets all otherAll met
  steps _ acts all := (step_explained acts.code (Solver.visited_take.2 (Or.inl rfl)) all acts.acted).1

/-- No value is tainted when a method is called. -/
theorem stores_explains_start {signature : Signature} {entry : Frame}
    (entered : entryFrame task.context.policy task.method signature = .ok entry) :
    Stores (fun visited frame => frame.All (task.Explains visited)) (.start task.body.entry entry) := by
  apply satisfied_start
  apply calledFrame_all (fun _ _ explains => closed_explains.alike explains Taint.alike_relabel) _ _ entered
  · exact explains_of_state (by decide)
  · apply forall_mem_entryTaints
    · exact explains_of_state (by decide)
    · exact fun _ _ _ => explains_of_state State.noConfusion

/-- What has been returned so far can be explained as well. -/
theorem output_explained {start solver : Solver}
    (begun : Stores (fun visited frame => frame.All (task.Explains visited)) start)
    (nothing : start.output = none) (reaches : task.Reaches start solver) :
    ∀ taint ∈ solver.output, task.Explains solver.Visited taint := by
  induction reaches with
  | refl => simp [nothing]
  | @tail before after reaches advances inductionHypothesis =>
      rcases advances with ⟨offset, pending, code, reached, acted, -, received⟩
      have maintains := maintains_explains task start
      have widens (other : Offset) (visited : before.Visited other) : (before.take offset).Visited other :=
        Solver.visited_take.2 (Or.inr visited)
      have all := maintains.widens widens ((maintains.reaches begun reaches).frames _ _ reached)
      have given := (step_explained code (Solver.visited_take.2 (Or.inl rfl)) all acted).2
      have known (taint : Taint) (member : taint ∈ before.output) :
          task.Explains (before.take offset).Visited taint := (inductionHypothesis taint member).widen widens
      rw [received.grows.output, received.visited]
      exact closed_explains.combine known given

theorem visited_of_run {analysis : Analysis} {solver : Solver} (visits : analysis.visits = solver.visits) :
    (fun offset => 0 < analysis.visitCount offset) = solver.Visited := by
  funext offset
  rw [Analysis.visitCount, visits]
  rfl

/-- Under every policy and with whatever summaries, also in the middle of a visit and in a run that fails in
the end: each tainted value in a frame, and a tainted output, names a location of the method that has been
visited and that reads a field or calls a method, and a field or a callee among its sources. -/
theorem run_explains_taint (task : Task) :
    (∀ signature entry, task.method.signature = .ok signature →
      entryFrame task.context.policy task.method signature = .ok entry →
      ∀ solver frame, task.Occurs (.start task.body.entry entry) solver frame →
        frame.All (task.Explains solver.Visited)) ∧
    ∀ analysis summaries, task.run.result = .ok (analysis, summaries) →
      ∀ taint ∈ analysis.output, task.Explains (fun offset => 0 < analysis.visitCount offset) taint := by
  constructor
  · intro signature entry _ entered solver frame occurs
    exact (task.maintains_explains _).occurs (stores_explains_start entered) occurs
  · intro analysis summaries finished taint returned
    rcases run_eq_ok finished with ⟨signature, entry, solver, -, entered, solved, -, output, visits⟩
    rw [visited_of_run visits]
    rw [output] at returned
    exact output_explained (stores_explains_start entered) rfl (drain_eq_ok solved).1 taint returned

/-- The array is tainted when it is returned. The field that is put into it, and where that is read, explain
why, and so they do wherever the array is kept before. -/
theorem collectingLoop_explains_taint :
    ∃ analysis summaries output, collectingLoop.run.result = .ok (analysis, summaries) ∧
      analysis.output = some output ∧ output.state = .tainted ∧
      (∃ location ∈ output.locations,
        collectingLoop.Originates (fun offset => 0 < analysis.visitCount offset) location) ∧
      (∃ source ∈ output.sources, source.kind = .field ∨ source.kind = .returned) ∧
      ∀ (offset : Offset) (frame : Frame), analysis.frames[offset]? = some frame →
        frame.All (collectingLoop.Explains fun offset => 0 < analysis.visitCount offset) := by
  have returns : (collectingLoop.run.result.toOption.bind fun (analysis, _) =>
      analysis.output.map (·.state)) = some .tainted := by
    decide +kernel
  rcases Option.bind_eq_some_iff.1 returns with ⟨⟨analysis, summaries⟩, ran, told⟩
  rcases Option.map_eq_some_iff.1 told with ⟨output, isOutput, isTainted⟩
  rw [toOption_eq_some_iff] at ran
  have explains := (run_explains_taint collectingLoop).2 analysis summaries ran output isOutput isTainted
  refine ⟨analysis, summaries, output, ran, isOutput, isTainted, explains.1, explains.2, ?_⟩
  intro offset frame reached
  rcases run_eq_ok ran with ⟨signature, entry, solver, read, entered, solved, frames, -, visits⟩
  have occurs : collectingLoop.Occurs (.start collectingLoop.body.entry entry) solver frame :=
    .stored (drain_eq_ok solved).1 (frames ▸ reached)
  rw [visited_of_run visits]
  exact (run_explains_taint collectingLoop).1 signature entry read entered solver frame occurs

end Task

end TaintFlow
