/-
Module: TaintFlow.Proofs.Run
Purpose: What one visit of a location does to the state of the solver, and what follows for any row of
  visits in any order: frames only grow, what is not pending has not changed since it was visited,
  and what every step keeps, every run keeps.
Main exports: Solver.Receives, Solver.Grows, Task.Visits, Task.visit_eq_ok, Task.Reaches,
  Task.drain_cases, Task.drain_keeps, Task.drain_eq_ok, Task.Reaches.entry_ascends, Task.Keeps,
  Task.keeps_of_closed, Task.Keeps.reaches, Task.offered?, Task.offered?_eq_some_iff,
  Task.run_eq_ok, Task.run_commits
-/
import TaintFlow.Analysis
import TaintFlow.Proofs.Covering
import TaintFlow.Proofs.Results
import TaintFlow.Proofs.Steps

namespace TaintFlow

namespace Solver

variable {solver before middle after : Solver} {offset target : Offset} {frame : Frame}
  {returned : Option Taint} {targets : List Offset}

/-! ### Reading a solver after an update -/

theorem frames_update :
    (solver.update target frame).frames[offset]? =
      if target = offset then some frame else solver.frames[offset]? := by
  simp [update, Std.ExtTreeMap.getElem?_insert]

theorem mem_pending_update :
    offset ∈ (solver.update target frame).pending ↔ target = offset ∨ offset ∈ solver.pending := by
  simp [update, Std.ExtTreeSet.mem_insert]

theorem mem_pending_take :
    offset ∈ (solver.take target).pending ↔ target ≠ offset ∧ offset ∈ solver.pending := by
  simp [take, Std.ExtTreeSet.mem_erase]

theorem mem_pending_of_lowest (lowest : solver.lowest? = some offset) : offset ∈ solver.pending := by
  rw [← Std.ExtTreeSet.mem_toList]
  exact List.mem_of_head? lowest

theorem pending_eq_empty_of_lowest (none : solver.lowest? = none) : solver.pending = ∅ := by
  rw [← Std.ExtTreeSet.toList_eq_nil_iff]
  exact List.head?_eq_none_iff.1 none

/-! ### Facts that flow to a location -/

/-- How a solver takes in facts that flow to a location: they are the first ones there, or they change
the ones that are there, or they add nothing. -/
inductive Receives (target : Offset) (frame : Frame) : Solver → Solver → Prop where
  | first {solver : Solver} (unreached : solver.frames[target]? = none) :
      Receives target frame solver (solver.update target frame)
  | changed {solver : Solver} {known joined : Frame} (reached : solver.frames[target]? = some known)
      (met : known.join frame = .ok (joined, true)) :
      Receives target frame solver (solver.update target joined)
  | unchanged {solver : Solver} {known : Frame} (reached : solver.frames[target]? = some known)
      (met : known.join frame = .ok (known, false)) :
      Receives target frame solver solver

/-- The same facts flow to one location after the other. -/
inductive ReceivesAll (frame : Frame) : List Offset → Solver → Solver → Prop where
  | nil (solver : Solver) : ReceivesAll frame [] solver solver
  | cons {target : Offset} {targets : List Offset} {before middle after : Solver}
      (head : Receives target frame before middle) (tail : ReceivesAll frame targets middle after) :
      ReceivesAll frame (target :: targets) before after

/-- The later solver has taken in more facts. Frames have grown, and a location whose frame is not the
one from before is pending. -/
structure Grows (before after : Solver) : Prop where
  pending : ∀ offset ∈ before.pending, offset ∈ after.pending
  frames : ∀ (offset : Offset) (frame : Frame), before.frames[offset]? = some frame →
    ∃ later, after.frames[offset]? = some later ∧ frame.Ascends later
  unchanged : ∀ offset : Offset, offset ∉ after.pending → after.frames[offset]? = before.frames[offset]?
  output : after.output = before.output

theorem Grows.refl (solver : Solver) : solver.Grows solver where
  pending _ member := member
  frames _ frame reached := ⟨frame, reached, Relation.ReflTransGen.refl⟩
  unchanged _ _ := rfl
  output := rfl

theorem Grows.trans (first : before.Grows middle) (second : middle.Grows after) :
    before.Grows after where
  pending offset member := second.pending offset (first.pending offset member)
  frames offset frame reached := by
    obtain ⟨between, reachedBetween, firstAscends⟩ := first.frames offset frame reached
    obtain ⟨later, reachedLater, secondAscends⟩ := second.frames offset between reachedBetween
    exact ⟨later, reachedLater, Relation.ReflTransGen.trans firstAscends secondAscends⟩
  unchanged offset settled := by
    have settledBetween : offset ∉ middle.pending :=
      fun pending => settled (second.pending offset pending)
    exact (second.unchanged offset settled).trans (first.unchanged offset settledBetween)
  output := second.output.trans first.output

/-- New facts before a location make the solver grow, if they come from those that were there. -/
theorem grows_update (ascends : ∀ known, solver.frames[target]? = some known → known.Ascends frame) :
    solver.Grows (solver.update target frame) where
  pending offset member := mem_pending_update.2 (Or.inr member)
  frames offset known reached := by
    rw [frames_update]
    by_cases same : target = offset
    · subst same
      exact ⟨frame, if_pos rfl, ascends known reached⟩
    · exact ⟨known, by rw [if_neg same, reached], Relation.ReflTransGen.refl⟩
  unchanged offset settled := by
    rw [frames_update, if_neg]
    exact fun same => settled (mem_pending_update.2 (Or.inl same))
  output := rfl

theorem Receives.grows (receives : Receives target frame before after) : before.Grows after := by
  cases receives with
  | first unreached =>
      apply grows_update
      intro known reached
      rw [unreached] at reached
      cases reached
  | changed reached met =>
      apply grows_update
      intro known reachedAgain
      rw [reached] at reachedAgain
      cases reachedAgain
      exact Relation.ReflTransGen.single ⟨_, _, met⟩
  | unchanged reached met => exact Grows.refl _

/-- Facts that have flown to a location are covered there. -/
theorem Receives.covers (receives : Receives target frame before after) :
    ∃ next, after.frames[target]? = some next ∧ next.Covers frame := by
  cases receives with
  | first unreached => exact ⟨frame, by simp [frames_update], Frame.Covers.refl frame⟩
  | changed reached met =>
      exact ⟨_, by simp [frames_update], (Frame.covers_of_join met).2⟩
  | unchanged reached met => exact ⟨_, reached, (Frame.covers_of_join met).2⟩

theorem ReceivesAll.grows (receives : ReceivesAll frame targets before after) :
    before.Grows after := by
  induction receives with
  | nil solver => exact Grows.refl solver
  | cons head tail inductionHypothesis => exact head.grows.trans inductionHypothesis

/-- A frame that covers some facts goes on covering them while the solver grows. -/
theorem Grows.covers {known lower : Frame} (grows : before.Grows after)
    (reached : before.frames[offset]? = some known) (covers : known.Covers lower) :
    ∃ later, after.frames[offset]? = some later ∧ later.Covers lower := by
  obtain ⟨later, reachedLater, ascends⟩ := grows.frames offset known reached
  exact ⟨later, reachedLater, ascends.covers.trans covers⟩

theorem ReceivesAll.covers (receives : ReceivesAll frame targets before after) :
    ∀ target ∈ targets, ∃ next, after.frames[target]? = some next ∧ next.Covers frame := by
  induction receives with
  | nil => simp
  | cons head tail inductionHypothesis =>
      intro target member
      rcases List.mem_cons.1 member with rfl | later
      · obtain ⟨next, reached, covers⟩ := head.covers
        exact tail.grows.covers reached covers
      · exact inductionHypothesis target later

end Solver

namespace Task

variable {task : Task} {offset target : Offset} {instruction : Instruction} {frame : Frame}
  {solver before after : Solver} {targets : List Offset}

/-! ### One visit -/

@[simp] theorem result_enqueue (solver : Solver) (target : Offset) (frame : Frame) :
    (enqueue solver target frame).result = .ok (solver.update target frame) := rfl

/-- Facts flow only to instructions, and there they are taken in. -/
theorem flow_eq_ok (flows : (task.flow offset instruction frame before target).result = .ok after) :
    (∃ landing, task.body.instruction? target = some landing) ∧
      Solver.Receives target frame before after := by
  unfold flow at flows
  split at flows
  next => simp at flows
  next landing code =>
    refine ⟨⟨landing, code⟩, ?_⟩
    split at flows
    next unreached =>
      rw [result_enqueue, Except.ok.injEq] at flows
      subst flows
      exact .first unreached
    next known reached =>
      simp only [Traced.result_bind, Traced.result_silently, bind_eq_ok_iff,
        mapError_eq_ok_iff] at flows
      obtain ⟨⟨joined, changed⟩, met, flows⟩ := flows
      cases changed with
      | true =>
          simp only [if_true, result_enqueue, Except.ok.injEq] at flows
          subst flows
          exact .changed reached met
      | false =>
          simp only [Bool.false_eq_true, if_false, Traced.result_pure, Except.ok.injEq] at flows
          subst flows
          have same := Frame.eq_of_join_unchanged met
          subst same
          exact .unchanged reached met

/-- The same of all the successors of a location. -/
theorem flowAll_eq_ok
    (flows : targets.foldlM (fun solver target =>
      (task.flow offset instruction frame solver target).result) before = .ok after) :
    (∀ target ∈ targets, ∃ landing, task.body.instruction? target = some landing) ∧
      Solver.ReceivesAll frame targets before after := by
  induction targets generalizing before with
  | nil =>
      cases flows
      exact ⟨by simp, .nil _⟩
  | cons target rest inductionHypothesis =>
      rw [List.foldlM_cons, bind_eq_ok_iff] at flows
      obtain ⟨middle, headFlows, restFlows⟩ := flows
      obtain ⟨landing, head⟩ := flow_eq_ok headFlows
      obtain ⟨landings, tail⟩ := inductionHypothesis restFlows
      exact ⟨List.forall_mem_cons.2 ⟨landing, landings⟩, .cons head tail⟩

/-- Everything that a visit of a location does: its instruction acts on the facts before it, what it
returns is put to the output, and the facts after it flow to all its successors. -/
inductive Visits (task : Task) (offset : Offset) (before after : Solver) : Prop where
  | intro {instruction : Instruction} {frame : Frame} {step : Step}
      (code : task.body.instruction? offset = some instruction)
      (reached : before.frames[offset]? = some frame)
      (acted : ((task.site offset).step instruction frame).result = .ok step)
      (landings : ∀ target ∈ task.body.successors offset,
        ∃ landing, task.body.instruction? target = some landing)
      (received : Solver.ReceivesAll step.frame (task.body.successors offset)
        ((before.take offset).giveBack step.returned) after) :
      Visits task offset before after

/-- A location that is taken and explored has been visited. -/
theorem explore_eq_ok (explored : (task.explore offset (before.take offset)).result = .ok after) :
    task.Visits offset before after := by
  unfold explore at explored
  split at explored
  next instruction frame code reached =>
    simp only [Traced.result_bind, Traced.result_mapError, Traced.result_foldlM, bind_eq_ok_iff,
      mapError_eq_ok_iff] at explored
    obtain ⟨step, acted, flows⟩ := explored
    obtain ⟨landings, received⟩ := flowAll_eq_ok flows
    exact .intro code reached acted landings received
  next => simp at explored

/-- A visit explores a location that has not been visited too often. -/
theorem result_visit :
    (task.visit offset before).result =
      if task.context.options.maxVisits < (before.take offset).visitCount offset then
        .error (task.failure (.nonConvergent offset ((before.take offset).visitCount offset)))
      else (task.explore offset (before.take offset)).result := by
  unfold visit
  rw [Traced.result_bind, Traced.result_give]
  dsimp only [bind, Except.bind]
  split
  · rfl
  · rfl

theorem visit_eq_ok (visited : (task.visit offset before).result = .ok after) :
    task.Visits offset before after := by
  rw [result_visit] at visited
  split at visited
  next => cases visited
  next => exact explore_eq_ok visited

/-! ### Rows of visits -/

/-- One visit of some pending location. -/
def Advances (task : Task) (before after : Solver) : Prop :=
  ∃ offset ∈ before.pending, task.Visits offset before after

/-- Any number of visits, in any order. -/
def Reaches (task : Task) : Solver → Solver → Prop :=
  Relation.ReflTransGen task.Advances

/-- A solver that is drained has nothing left to visit, or its lowest pending location is visited first. -/
theorem drain_cases {budget : Nat} (drained : (task.drain budget before).result = .ok after) :
    (before.lowest? = none ∧ before = after) ∨
      ∃ offset rest middle, before.lowest? = some offset ∧ budget = rest + 1 ∧
        task.Visits offset before middle ∧ (task.drain rest middle).result = .ok after := by
  unfold drain at drained
  split at drained
  next nothing =>
    cases drained
    exact Or.inl ⟨nothing, rfl⟩
  next offset lowest =>
    cases budget with
    | zero => simp at drained
    | succ rest =>
        simp only [Traced.result_bind, bind_eq_ok_iff] at drained
        rcases drained with ⟨middle, visited, further⟩
        exact Or.inr ⟨offset, rest, middle, lowest, rfl, visit_eq_ok visited, further⟩

/-- What holds of a solver and is kept by every visit of the lowest pending location holds when nothing is
left to visit. -/
theorem drain_keeps {budget : Nat} (holds : Solver → Prop)
    (keeps : ∀ {offset earlier later}, holds earlier → earlier.lowest? = some offset →
      task.Visits offset earlier later → holds later)
    (begun : holds before) (drained : (task.drain budget before).result = .ok after) :
    holds after ∧ after.pending = ∅ := by
  induction budget using Nat.strongRecOn generalizing before with
  | ind budget inductionHypothesis =>
      rcases drain_cases drained with ⟨nothing, rfl⟩ | ⟨offset, rest, middle, lowest, rfl, visits, further⟩
      · exact ⟨begun, Solver.pending_eq_empty_of_lowest nothing⟩
      · exact inductionHypothesis rest (Nat.lt_succ_self rest) (keeps begun lowest visits) further

/-- A solver that has been drained got there by visits, and has nothing left to visit. -/
theorem drain_eq_ok {budget : Nat} (drained : (task.drain budget before).result = .ok after) :
    task.Reaches before after ∧ after.pending = ∅ := by
  refine drain_keeps (task.Reaches before) ?_ .refl drained
  intro offset earlier later reaches lowest visits
  exact reaches.tail ⟨offset, Solver.mem_pending_of_lowest lowest, visits⟩

/-- During a run the frame before a location only grows. -/
theorem Reaches.ascends (reaches : task.Reaches before after)
    (reached : before.frames[offset]? = some frame) :
    ∃ later, after.frames[offset]? = some later ∧ frame.Ascends later := by
  induction reaches with
  | refl => exact ⟨frame, reached, Relation.ReflTransGen.refl⟩
  | tail _ advances inductionHypothesis =>
      obtain ⟨visited, -, -, -, -, -, received⟩ := advances
      obtain ⟨between, reachedBetween, ascends⟩ := inductionHypothesis
      obtain ⟨later, reachedLater, further⟩ := received.grows.frames offset between reachedBetween
      exact ⟨later, reachedLater, Relation.ReflTransGen.trans ascends further⟩

/-- The facts that a run began with are still there, under whatever has been added to them. -/
theorem Reaches.entry_ascends (reaches : task.Reaches (.start offset frame) after) :
    ∃ known, after.frames[offset]? = some known ∧ frame.Ascends known :=
  reaches.ascends (by simp [Solver.start])

/-! ### What every run keeps -/

/-- Every frame of a solver is good at its location, and so is what has been returned. -/
structure Satisfied (good : Offset → Frame → Prop) (given : Taint → Prop) (solver : Solver) :
    Prop where
  frames : ∀ (offset : Offset) (frame : Frame), solver.frames[offset]? = some frame → good offset frame
  output : ∀ taint ∈ solver.output, given taint

/-- What is good is kept by single steps: good frames meet in a good one, an instruction hands good
frames on to its successors and returns only what may be given, and so do returned facts that meet. -/
structure Keeps (task : Task) (good : Offset → Frame → Prop) (given : Taint → Prop) : Prop where
  meets : ∀ {offset frame other joined changed}, good offset frame → good offset other →
    frame.join other = .ok (joined, changed) → good offset joined
  flows : ∀ {offset instruction frame step}, task.body.instruction? offset = some instruction →
    good offset frame → ((task.site offset).step instruction frame).result = .ok step →
    ∀ target ∈ task.body.successors offset, good target step.frame
  returns : ∀ {offset instruction frame step}, task.body.instruction? offset = some instruction →
    good offset frame → ((task.site offset).step instruction frame).result = .ok step →
    ∀ taint ∈ step.returned, given taint
  combines : ∀ {one two}, given one → given two → given (one.join two)

/-- A property of single facts is kept by a run if every instruction of the body keeps it. -/
theorem keeps_of_closed {holds : Taint → Prop} (closed : Closed holds)
    (steps : ∀ {offset instruction frame step}, task.body.instruction? offset = some instruction →
      frame.All holds → ((task.site offset).step instruction frame).result = .ok step →
      step.frame.All holds ∧ ∀ taint ∈ step.returned, holds taint) :
    task.Keeps (fun _ frame => frame.All holds) holds where
  meets all otherAll met := closed.meets all otherAll met
  flows code all acted _ _ := (steps code all acted).1
  returns code all acted := (steps code all acted).2
  combines first second := closed.joins first second

variable {good : Offset → Frame → Prop} {given : Taint → Prop}

theorem satisfied_start (entered : good offset frame) :
    Satisfied good given (Solver.start offset frame) where
  frames other known reached := by
    by_cases same : offset = other
    · subst same
      have known_eq : frame = known := by simpa [Solver.start] using reached
      exact known_eq ▸ entered
    · simp [Solver.start, same] at reached
  output := by simp [Solver.start]

theorem Satisfied.update (satisfied : Satisfied good given solver) (goodFrame : good target frame) :
    Satisfied good given (solver.update target frame) where
  frames offset known reached := by
    rw [Solver.frames_update] at reached
    split at reached
    next same =>
      cases reached
      exact same ▸ goodFrame
    next => exact satisfied.frames offset known reached
  output := satisfied.output

theorem Satisfied.receives (satisfied : Satisfied good given before)
    (meets : ∀ {offset frame other joined changed}, good offset frame → good offset other →
      frame.join other = .ok (joined, changed) → good offset joined)
    (goodFrame : good target frame) (received : Solver.Receives target frame before after) :
    Satisfied good given after := by
  cases received with
  | first unreached => exact satisfied.update goodFrame
  | changed reached met =>
      exact satisfied.update (meets (satisfied.frames _ _ reached) goodFrame met)
  | unchanged reached met => exact satisfied

theorem Satisfied.receivesAll (satisfied : Satisfied good given before)
    (meets : ∀ {offset frame other joined changed}, good offset frame → good offset other →
      frame.join other = .ok (joined, changed) → good offset joined)
    (goodFrame : ∀ target ∈ targets, good target frame)
    (received : Solver.ReceivesAll frame targets before after) : Satisfied good given after := by
  induction received with
  | nil => exact satisfied
  | cons head tail inductionHypothesis =>
      have afterHead := satisfied.receives meets (goodFrame _ (by simp)) head
      exact inductionHypothesis afterHead
        fun target member => goodFrame target (List.mem_cons_of_mem _ member)

theorem Satisfied.giveBack (keeps : task.Keeps good given)
    (satisfied : Satisfied good given solver) {returned : Option Taint}
    (givenBack : ∀ taint ∈ returned, given taint) :
    Satisfied good given (solver.giveBack returned) where
  frames := satisfied.frames
  output := by
    obtain ⟨-, output⟩ := satisfied
    intro taint member
    cases known : solver.output with
    | none => exact givenBack taint (by simpa [Solver.giveBack, known, Taint.combine] using member)
    | some before =>
        cases more : returned with
        | none =>
            exact output taint (by simpa [Solver.giveBack, known, more, Taint.combine] using member)
        | some added =>
            have joined : before.join added = taint := by
              simpa [Solver.giveBack, known, more, Taint.combine] using member
            rw [← joined]
            exact keeps.combines (output before (by simp [known])) (givenBack added (by simp [more]))

/-- One visit keeps what single steps keep. -/
theorem Keeps.visits (keeps : task.Keeps good given) (satisfied : Satisfied good given before)
    (visits : task.Visits offset before after) : Satisfied good given after := by
  obtain ⟨code, reached, acted, -, received⟩ := visits
  have goodFrame := satisfied.frames _ _ reached
  have taken : Satisfied good given (before.take offset) := ⟨satisfied.frames, satisfied.output⟩
  have handed := taken.giveBack keeps (keeps.returns code goodFrame acted)
  exact handed.receivesAll keeps.meets (keeps.flows code goodFrame acted) received

/-- A run keeps what single steps keep. -/
theorem Keeps.reaches (keeps : task.Keeps good given) (satisfied : Satisfied good given before)
    (reaches : task.Reaches before after) : Satisfied good given after := by
  induction reaches with
  | refl => exact satisfied
  | tail _ advances inductionHypothesis =>
      obtain ⟨offset, -, visits⟩ := advances
      exact keeps.visits inductionHypothesis visits

/-! ### The analysis of a method -/

/-- An analysis begins exactly if the descriptor can be read and there is code at the entry. -/
theorem begin_eq_ok_iff {signature : Signature} :
    task.begin = .ok signature ↔
      task.method.signature = .ok signature ∧
        ∃ first, task.body.instruction? task.body.entry = some first := by
  unfold begin
  rw [bind_eq_ok_iff]
  constructor
  · rintro ⟨parsed, read, checked⟩
    rw [mapError_eq_ok_iff] at read
    split at checked
    next first code =>
      cases checked
      exact ⟨read, first, code⟩
    next => cases checked
  · rintro ⟨read, first, code⟩
    exact ⟨signature, mapError_eq_ok_iff.2 read, by rw [code]; rfl⟩

section Conclusion

variable {ε : Type} (task : Task) (signature : Signature)

/-- Is there a summary of the same method in a supertype, the notices of the search apart? -/
def isOverriding : Bool :=
  (task.context.policy.inheritedCall? task.method.className task.method.id).isSome ||
    (task.context.summaries.candidates task.context.arrangement task.method.className
        task.method.id).any fun (owner, _) =>
      task.context.policy.hierarchy.isBelow task.method.className owner

theorem result_overrides : (task.overrides : Traced ε Bool).result = .ok task.isOverriding := by
  unfold overrides isOverriding
  dsimp only
  split
  next summary found => simp [found]
  next nothing =>
    rw [Traced.result_bind, SummaryTable.result_inherited?, nothing]
    apply congrArg Except.ok
    rw [Bool.eq_iff_iff]
    simp

/-- The summary that is offered to the table, the notices apart. -/
def offered? (output : Option Taint) : Option Summary :=
  ((output.filter (worthTelling task.context.policy signature)).map (derivedSummary signature)).filter
    fun summary => summary.isInformative || task.isOverriding

theorem offered?_eq_some_iff {output : Option Taint} {summary : Summary} :
    task.offered? signature output = some summary ↔
      ∃ returned, output = some returned ∧ worthTelling task.context.policy signature returned ∧
        summary = derivedSummary signature returned ∧ (summary.isInformative ∨ task.isOverriding) := by
  simp only [offered?, Option.filter_eq_some_iff, Option.map_eq_some_iff, Bool.or_eq_true]
  constructor
  · rintro ⟨⟨returned, ⟨isOutput, worth⟩, rfl⟩, useful⟩
    exact ⟨returned, isOutput, worth, rfl, useful⟩
  · rintro ⟨returned, isOutput, worth, rfl, useful⟩
    exact ⟨⟨returned, ⟨isOutput, worth⟩, rfl⟩, useful⟩

theorem result_summarize (output : Option Taint) :
    (task.summarize signature output : Traced ε (Option Summary)).result =
      .ok (task.offered? signature output) := by
  unfold summarize offered?
  split
  next untold =>
    rw [untold]
    rfl
  next returned told =>
    rw [told, Option.map_some, Option.filter_some]
    dsimp only
    split
    next informative => simp [informative]
    next uninformative =>
      rw [Traced.result_bind, result_overrides]
      cases overriding : task.isOverriding
      · simp [uninformative, bind, Except.bind]
      · simp [bind, Except.bind]

theorem result_offer (summary : Option Summary) :
    (task.offer summary : Traced ε (SummaryTable × Option Commit)).result =
      .ok (summary.elim task.context.summaries
          fun offered => (task.context.summaries.commit task.method.key offered).1,
        summary.map fun offered => (task.context.summaries.commit task.method.key offered).2) := by
  cases summary
  · rfl
  · rfl

/-- Nothing can go wrong after the solver: it ends with what is reported, and with what becomes of the
summary that is offered. -/
theorem result_conclude (solver : Solver) :
    (task.conclude signature solver : Traced ε (Analysis × SummaryTable)).result =
      .ok (⟨task.method, solver.frames, solver.output, solver.visits,
          (task.offered? signature solver.output).map
            fun offered => (task.context.summaries.commit task.method.key offered).2⟩,
        (task.offered? signature solver.output).elim task.context.summaries
          fun offered => (task.context.summaries.commit task.method.key offered).1) := by
  unfold conclude
  simp only [Traced.result_bind, Context.result_notify, result_summarize, result_offer]
  rfl

theorem conclude_eq_ok (solver : Solver) :
    ∃ analysis summaries,
      (task.conclude signature solver : Traced ε (Analysis × SummaryTable)).result =
        .ok (analysis, summaries) ∧
      analysis.frames = solver.frames ∧ analysis.output = solver.output ∧
      analysis.visits = solver.visits :=
  ⟨_, _, task.result_conclude signature solver, rfl, rfl, rfl⟩

end Conclusion

/-- An analysis without the notices that it gives. -/
theorem result_run :
    task.run.result = (do
      let signature ← task.begin
      let entry ← (entryFrame task.context.policy task.method signature).mapError task.failure
      let solver ← (task.solve entry).result
      (task.conclude signature solver : Traced Failure (Analysis × SummaryTable)).result) := by
  simp only [run, Traced.result_bind, Traced.result_liftM, Traced.result_silently, Traced.result_give]
  rfl

/-- A finished analysis consists of what the solver ended with, from the facts that hold on entry. -/
theorem run_eq_ok {analysis : Analysis} {summaries : SummaryTable}
    (finished : task.run.result = .ok (analysis, summaries)) :
    ∃ signature entry solver, task.method.signature = .ok signature ∧
      entryFrame task.context.policy task.method signature = .ok entry ∧
      (task.solve entry).result = .ok solver ∧
      analysis.frames = solver.frames ∧ analysis.output = solver.output ∧
      analysis.visits = solver.visits := by
  simp only [result_run, bind_eq_ok_iff, mapError_eq_ok_iff, begin_eq_ok_iff] at finished
  obtain ⟨signature, ⟨read, -⟩, entry, entered, solver, solved, concluded⟩ := finished
  obtain ⟨analysis', summaries', concluded', reported⟩ := @conclude_eq_ok Failure task signature solver
  rw [concluded'] at concluded
  cases concluded
  exact ⟨signature, entry, solver, read, entered, solved, reported⟩

/-- What a finished analysis offers to the table, and what becomes of that, depends on its output alone. -/
theorem run_commits {analysis : Analysis} {summaries : SummaryTable}
    (finished : task.run.result = .ok (analysis, summaries)) :
    ∃ signature, task.method.signature = .ok signature ∧
      analysis.commit = ((task.offered? signature analysis.output).map
        fun offered => (task.context.summaries.commit task.method.key offered).2) ∧
      summaries = (task.offered? signature analysis.output).elim task.context.summaries
        fun offered => (task.context.summaries.commit task.method.key offered).1 := by
  simp only [result_run, bind_eq_ok_iff, mapError_eq_ok_iff, begin_eq_ok_iff, result_conclude] at finished
  rcases finished with ⟨signature, ⟨read, -⟩, entry, -, solver, -, concluded⟩
  cases concluded
  exact ⟨signature, read, rfl, rfl⟩

end Task

end TaintFlow
