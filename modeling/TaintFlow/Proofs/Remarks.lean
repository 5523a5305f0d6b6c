/-
Module: TaintFlow.Proofs.Remarks
Purpose: One method analysed with and without remarks. The runs may visit locations in different orders and
  numbers, since a new remark is a change. They still end with facts of the same cores, unless in one of
  them a second reference to an object is taken for another object, because what is remarked about the two
  references differs, or because one of them has kept a tag that the other one has lost.
Main exports: Site.Misjudges, Task.Twins, Task.Misjudges, Solver.Agrees, Task.Twins.agree_of_drain,
  Analysis.SameVerdict, Task.remarks_keep_verdict
-/
import TaintFlow.Proofs.Cores
import TaintFlow.Proofs.Equations
import TaintFlow.Proofs.Inlining
import TaintFlow.Proofs.ParallelCalls
import TaintFlow.Proofs.VisitOrder

namespace TaintFlow

/-! ### One location in two analyses -/

namespace Taint

variable {one two object : Taint}

theorem core_combine (known more : Option Taint) :
    (combine known more).map core = combine (known.map core) (more.map core) := by
  cases known with
  | none => rfl
  | some before =>
      cases more with
      | none => rfl
      | some added => exact congrArg some (core_join before added)

theorem map_core_eq {known known' : Option Taint} (related : Option.Rel SameCore known known') :
    known.map core = known'.map core := by
  cases related with
  | none => rfl
  | some same => exact congrArg some same

/-- Tags that do not last are not seen when others are added or stripped. -/
theorem SameCore.retag (same : one.SameCore two) (added stripped : TagSet) :
    SameCore
      { one with tags := (if one.state = .safe then one.tags else one.tags ∪ added) \ stripped }
      { two with tags := (if two.state = .safe then two.tags else two.tags ∪ added) \ stripped } := by
  -- On a core the change can be made without a look at the tags that are added.
  let change (taint : Taint) : Taint :=
    { taint with tags := if taint.state = .safe then taint.tags \ stripped else ∅ }
  have commutes (taint : Taint) : core
      { taint with tags := (if taint.state = .safe then taint.tags else taint.tags ∪ added) \ stripped } =
      change taint.core := by
    refine Taint.ext rfl ?_ rfl rfl rfl rfl rfl rfl rfl rfl rfl rfl
    change (if taint.state = .safe then
        (if taint.state = .safe then taint.tags else taint.tags ∪ added) \ stripped else ∅) =
      if taint.state = .safe then (if taint.state = .safe then taint.tags else ∅) \ stripped else ∅
    split
    · rfl
    · rfl
  unfold SameCore
  rw [commutes, commutes, same]

/-- References that are known to be the same are so by their cores. -/
theorem SameObject.core (same : one.SameObject object) : one.core.SameObject object.core :=
  ⟨same.1, same.2.core⟩

end Taint

namespace Site

variable {site other : Site} {frame frame' : Frame} {instruction : Instruction} {one two : Taint}

@[simp] theorem core_remark (words : Unit → String) (taint : Taint) :
    (site.remark words taint).core = taint.core := by
  unfold remark
  split
  · rfl
  · rfl

theorem Twins.core_made (twins : site.Twins other) (instruction : Instruction) :
    (site.made instruction).map Taint.core = (other.made instruction).map Taint.core := by
  cases instruction with
  | constant literal => simp [made, constantTaint]
  | getField field isStatic => simp [made, fieldTaint, twins.policy, twins.location]
  | new className => simp [made, objectTaint, twins.offset]
  | newArray dimensions => simp [made, arrayTaint, twins.offset]
  | checkCast className => simp [made, castTaint]
  | _ => rfl

theorem Twins.signed (twins : site.Twins other) (same : one.SameCore two) (call : Call) :
    Taint.SameCore (site.signed call one) (other.signed call two) := by
  have remarked : Taint.SameCore (site.remark (fun _ => call.name ++ "()") one)
      (other.remark (fun _ => call.name ++ "()") two) := by
    unfold Taint.SameCore
    rw [core_remark, core_remark, same]
  let noted (taint : Taint) : Taint :=
    let sourced := taint.addSource ⟨.returned, taint.state, some call.signature⟩
    if sourced.state = .unknown then sourced.addLocation other.location else sourced
  have commutes (taint : Taint) : (noted taint).core = noted taint.core := by
    change Taint.core (if taint.state = .unknown then _ else _) = if taint.state = .unknown then _ else _
    split
    · rfl
    · rfl
  unfold Site.signed
  rw [twins.location]
  exact remarked.map noted commutes

/-- Twins do to cores the same, if no rule of the policy looks at the frame. -/
theorem Twins.parallel {declared : Declarations} (twins : site.Twins other)
    (declares : other.context.policy = declared.policy) : site.Parallel other Taint.SameCore where
  toRespected := Taint.respected_sameCore
  toTwins := twins
  rules _ _ _ _ := by
    rw [declares]
    rfl
  reflexive _ := rfl
  state same := same.state
  literal same := same.literal
  runtimeClass same := same.runtimeClass
  slot same := same.slot
  allocation same := same.allocation
  joins first second := first.join second
  identifies same slot runtimeClass allocation :=
    same.map ({ · with slot, runtimeClass, allocation }) fun _ => rfl
  retags same added stripped := same.retag added stripped
  locates same location := same.map (·.addLocation location) fun _ => rfl
  signs same call := twins.signed same call
  makes instruction one made two made' := by
    have same := twins.core_made instruction
    rw [Option.mem_def.1 made, Option.mem_def.1 made'] at same
    exact Option.some.inj same

/-- The instruction takes a second reference to an object for one to another object: the cores of the two
facts say that the object is the same, but the facts do not. -/
def Misjudges (site : Site) (frame : Frame) (instruction : Instruction) : Prop :=
  ∃ duplicate object, site.Compares frame instruction duplicate object ∧
    duplicate.core.SameObject object.core ∧ ¬ duplicate.SameObject object

/-- Where no reference is misjudged, an instruction does the same to the cores of all facts. -/
theorem Twins.step_cores {declared : Declarations} {step step' : Step} (twins : site.Twins other)
    (declares : other.context.policy = declared.policy) (same : frame.core = frame'.core)
    (judges : ¬ site.Misjudges frame instruction) (judges' : ¬ other.Misjudges frame' instruction)
    (acted : (site.step instruction frame).result = .ok step)
    (acted' : (other.step instruction frame').result = .ok step') :
    step.frame.core = step'.frame.core ∧ step.returned.map Taint.core = step'.returned.map Taint.core := by
  have decided {place : Site} {before : Frame} {duplicate object : Taint}
      (sound : ¬ place.Misjudges before instruction)
      (compares : place.Compares before instruction duplicate object) :
      duplicate.SameObject object ↔ duplicate.core.SameObject object.core := by
    refine ⟨Taint.SameObject.core, fun sameCores => ?_⟩
    by_contra different
    exact sound ⟨duplicate, object, compares, sameCores, different⟩
  have agree {duplicate object duplicate' object' : Taint}
      (compares : site.Compares frame instruction duplicate object)
      (compares' : other.Compares frame' instruction duplicate' object')
      (duplicates : duplicate.SameCore duplicate') (objects : object.SameCore object') :
      duplicate.SameObject object ↔ duplicate'.SameObject object' := by
    rw [decided judges compares, decided judges' compares', duplicates, objects]
  have related := Frame.related_sameCore_iff.2 same
  rcases ((twins.parallel declares).lockstep_step agree related).of_eq_ok acted acted' with
    ⟨frames, values⟩
  exact ⟨Frame.related_sameCore_iff.1 frames, Taint.map_core_eq values⟩

end Site

/-! ### Solvers that agree -/

namespace Solver

variable {one two after after' : Solver} {target : Offset} {frame frame' next : Frame}
  {targets : List Offset} {returned returned' : Option Taint}

/-- The facts of two solvers have the same cores, however often locations were visited. -/
structure Agrees (one two : Solver) : Prop where
  frames : ∀ offset : Offset, one.frames[offset]?.map Frame.core = two.frames[offset]?.map Frame.core
  output : one.output.map Taint.core = two.output.map Taint.core

theorem Agrees.refl (solver : Solver) : solver.Agrees solver :=
  ⟨fun _ => rfl, rfl⟩

theorem Agrees.symm (agrees : one.Agrees two) : two.Agrees one :=
  ⟨fun offset => (agrees.frames offset).symm, agrees.output.symm⟩

/-- Where one solver has facts, the other one has facts of the same core. -/
theorem Agrees.exists_frame (agrees : one.Agrees two) (reached : one.frames[target]? = some frame) :
    ∃ frame', two.frames[target]? = some frame' ∧ frame.core = frame'.core := by
  have same := agrees.frames target
  rw [reached, Option.map_some, eq_comm, Option.map_eq_some_iff] at same
  rcases same with ⟨frame', reached', cores⟩
  exact ⟨frame', reached', cores.symm⟩

/-- The core of what lies at a location after facts have flown there can be told from the core of what was
there. -/
theorem Receives.frames_core (receives : Receives target frame one after) (offset : Offset) :
    after.frames[offset]?.map Frame.core =
      if target = offset then
        some ((one.frames[target]?.map Frame.core).elim frame.core (·.meet frame.core))
      else one.frames[offset]?.map Frame.core := by
  cases receives with
  | first unreached =>
      rw [frames_update, unreached]
      split
      · rfl
      · rfl
  | changed reached met =>
      rw [frames_update, reached, Frame.eq_meet_of_join met]
      split
      · exact congrArg some (Frame.core_meet _ _)
      · rfl
  | unchanged reached met =>
      split
      next same =>
        subst same
        rw [reached, Option.map_some, Option.elim_some, ← Frame.core_meet, ← Frame.eq_meet_of_join met]
      next => rfl

theorem Receives.output_eq (receives : Receives target frame one after) : after.output = one.output :=
  receives.grows.output

/-- Solvers go on agreeing while facts of the same core flow to the same locations. -/
theorem Agrees.receivesAll (agrees : one.Agrees two) (same : frame.core = frame'.core)
    (received : ReceivesAll frame targets one after) (received' : ReceivesAll frame' targets two after') :
    after.Agrees after' := by
  induction received generalizing two with
  | nil =>
      cases received'
      exact agrees
  | cons head tail inductionHypothesis =>
      cases received' with
      | cons head' tail' =>
          refine inductionHypothesis ⟨?_, ?_⟩ tail'
          · intro offset
            rw [head.frames_core, head'.frames_core, same, agrees.frames, agrees.frames]
          · rw [head.output_eq, head'.output_eq, agrees.output]

/-- Facts that the other solver covers do not end the agreement. -/
theorem Agrees.receivesAll_left (agrees : one.Agrees two)
    (covered : ∀ target ∈ targets, ∃ next, two.frames[target]? = some next ∧
      next.core.meet frame.core = next.core)
    (received : ReceivesAll frame targets one after) : after.Agrees two := by
  induction received with
  | nil => exact agrees
  | cons head tail inductionHypothesis =>
      refine inductionHypothesis ⟨?_, ?_⟩ fun target member => covered target (List.mem_cons_of_mem _ member)
      · intro offset
        rw [head.frames_core]
        split
        next same =>
          subst same
          rcases covered _ List.mem_cons_self with ⟨next, reached, adds⟩
          rw [agrees.frames, reached, Option.map_some, Option.elim_some, adds]
        next => exact agrees.frames offset
      · rw [head.output_eq, agrees.output]

theorem Agrees.giveBack (agrees : one.Agrees two)
    (same : returned.map Taint.core = returned'.map Taint.core) :
    (one.giveBack returned).Agrees (two.giveBack returned') where
  frames := agrees.frames
  output := by
    change (Taint.combine _ _).map _ = (Taint.combine _ _).map _
    rw [Taint.core_combine, Taint.core_combine, agrees.output, same]

/-- A returned fact that the other output covers does not end the agreement. -/
theorem Agrees.giveBack_left (agrees : one.Agrees two)
    (same : returned.map Taint.core = returned'.map Taint.core)
    (covered : ∀ taint ∈ returned', ∃ output, two.output = some output ∧ output.Covers taint) :
    (one.giveBack returned).Agrees two where
  frames := agrees.frames
  output := by
    change (Taint.combine _ _).map _ = _
    rw [Taint.core_combine, agrees.output, same]
    cases returned' with
    | none => cases two.output <;> rfl
    | some taint =>
        rcases covered taint rfl with ⟨output, given, covers⟩
        rw [given]
        exact congrArg some covers.core_join

end Solver

/-! ### Runs that agree -/

namespace Task

variable {task twin : Task} {entry entry' frame : Frame} {solver solver' middle middle' : Solver}
  {offset : Offset} {instruction : Instruction}

/-- Two analyses of the same code that know the same of types and callees. -/
structure Twins (task twin : Task) : Prop where
  method : task.method = twin.method
  body : task.body = twin.body
  policy : task.context.policy = twin.context.policy
  summaries : task.context.summaries = twin.context.summaries
  arrangement : task.context.arrangement = twin.context.arrangement

theorem Twins.symm (twins : task.Twins twin) : twin.Twins task :=
  ⟨twins.method.symm, twins.body.symm, twins.policy.symm, twins.summaries.symm, twins.arrangement.symm⟩

theorem Twins.site (twins : task.Twins twin) (offset : Offset) :
    (task.site offset).Twins (twin.site offset) :=
  ⟨twins.policy, twins.summaries, twins.arrangement, twins.method, rfl⟩

/-- In a run from the given facts, no instruction misjudges a reference. -/
def Judges (task : Task) (entry : Frame) : Prop :=
  ∀ {offset instruction frame}, task.Takes (.start task.body.entry entry) offset frame →
    task.body.instruction? offset = some instruction → ¬ (task.site offset).Misjudges frame instruction

/-- A moment of a run from the given facts, in which no reference is misjudged. -/
structure Follows (task : Task) (entry : Frame) (solver : Solver) : Prop where
  passes : task.Passes (.start task.body.entry entry) solver
  judges : task.Judges entry

theorem Follows.visits (follows : task.Follows entry solver) (lowest : solver.lowest? = some offset)
    (visits : task.Visits offset solver middle) : task.Follows entry middle :=
  ⟨follows.passes.tail ⟨offset, lowest, visits⟩, follows.judges⟩

theorem Follows.consistent (follows : task.Follows entry solver) : task.Consistent solver :=
  follows.passes.reaches.consistent (consistent_start _ _)

section Pairs

variable {declared : Declarations}

/-- Both solvers visit the same location. -/
theorem Twins.agree_of_visits (twins : task.Twins twin) (declares : twin.context.policy = declared.policy)
    (agrees : solver.Agrees solver') (follows : task.Follows entry solver)
    (follows' : twin.Follows entry' solver') (lowest : solver.lowest? = some offset)
    (lowest' : solver'.lowest? = some offset) (visits : task.Visits offset solver middle)
    (visits' : twin.Visits offset solver' middle') : middle.Agrees middle' := by
  rcases visits with ⟨code, reached, acted, -, received⟩
  rcases visits' with ⟨code', reached', acted', -, received'⟩
  rw [← twins.body] at received'
  cases Option.some.inj (code.symm.trans (twins.body ▸ code'))
  rcases agrees.exists_frame reached with ⟨known, there, cores⟩
  cases Option.some.inj (there.symm.trans reached')
  have judged := follows.judges ⟨solver, follows.passes, lowest, reached⟩ code
  have judged' := follows'.judges ⟨solver', follows'.passes, lowest', reached'⟩ code'
  rcases (twins.site offset).step_cores declares cores judged judged' acted acted' with ⟨frames, values⟩
  have taken : (solver.take offset).Agrees (solver'.take offset) := ⟨agrees.frames, agrees.output⟩
  exact (taken.giveBack values).receivesAll frames received received'

/-- One solver visits a location whose facts have settled in the other one. -/
theorem Twins.agree_of_visits_left (twins : task.Twins twin)
    (declares : twin.context.policy = declared.policy) (agrees : solver.Agrees solver')
    (follows : task.Follows entry solver) (follows' : twin.Follows entry' solver')
    (lowest : solver.lowest? = some offset) (settled : offset ∉ solver'.pending)
    (visits : task.Visits offset solver middle) : middle.Agrees solver' := by
  rcases visits with ⟨code, reached, acted, -, received⟩
  rcases agrees.exists_frame reached with ⟨frame', reached', cores⟩
  rcases follows'.consistent offset frame' reached' settled with ⟨instruction', step', code', acted',
    covered, given⟩
  cases Option.some.inj (code.symm.trans (twins.body ▸ code'))
  have judged := follows.judges ⟨solver, follows.passes, lowest, reached⟩ code
  -- The other solver has taken this location before, with the facts that are still there.
  have judged' := follows'.judges (follows'.passes.takes_settled reached' settled) code'
  rcases (twins.site offset).step_cores declares cores judged judged' acted acted' with ⟨frames, values⟩
  have taken : (solver.take offset).Agrees solver' := ⟨agrees.frames, agrees.output⟩
  refine (taken.giveBack_left values given).receivesAll_left ?_ received
  intro target member
  rw [twins.body] at member
  rcases covered target member with ⟨next, there, covers⟩
  rw [frames]
  exact ⟨next, there, covers.core_meet⟩

/-- Solvers that agree end with facts of the same cores. The induction is on the visits that are left in
both runs: the lower one of the two lowest pending locations is visited, in one run or in both. -/
theorem Twins.agree_of_drain {budget budget' : Nat} {final final' : Solver} (twins : task.Twins twin)
    (declares : twin.context.policy = declared.policy) (agrees : solver.Agrees solver')
    (follows : task.Follows entry solver) (follows' : twin.Follows entry' solver')
    (drained : (task.drain budget solver).result = .ok final)
    (drained' : (twin.drain budget' solver').result = .ok final') : final.Agrees final' := by
  have declaresToo : task.context.policy = declared.policy := twins.policy.trans declares
  induction left : budget + budget' using Nat.strongRecOn
    generalizing budget budget' solver solver' with
  | ind left inductionHypothesis =>
      rcases drain_cases drained with ⟨nothing, rfl⟩ | ⟨offset, rest, middle, lowest, rfl, visits, further⟩
      · rcases drain_cases drained' with ⟨-, rfl⟩ | ⟨offset', rest', middle', lowest', rfl, visits', further'⟩
        · exact agrees
        · have settled : offset' ∉ solver.pending := by
            simp [Solver.pending_eq_empty_of_lowest nothing]
          have agreesNow := twins.symm.agree_of_visits_left declaresToo agrees.symm follows' follows lowest'
            settled visits'
          exact inductionHypothesis _ (by omega) agreesNow.symm follows (follows'.visits lowest' visits')
            drained further' rfl
      · by_cases pending : offset ∈ solver'.pending
        · rcases drain_cases drained' with ⟨nothing, -⟩ | ⟨offset', rest', middle', lowest', rfl, visits',
            further'⟩
          · simp [Solver.pending_eq_empty_of_lowest nothing] at pending
          -- Each has to visit the lowest location of the other, unless that has settled.
          · by_cases pending' : offset' ∈ solver.pending
            · have same : offset = offset' :=
                Nat.le_antisymm (Solver.lowest_le lowest pending') (Solver.lowest_le lowest' pending)
              subst same
              have agreesNow := twins.agree_of_visits declares agrees follows follows' lowest lowest' visits
                visits'
              exact inductionHypothesis _ (by omega) agreesNow (follows.visits lowest visits)
                (follows'.visits lowest' visits') further further' rfl
            · have agreesNow := twins.symm.agree_of_visits_left declaresToo agrees.symm follows' follows
                lowest' pending' visits'
              exact inductionHypothesis _ (by omega) agreesNow.symm follows
                (follows'.visits lowest' visits') drained further' rfl
        · have agreesNow := twins.agree_of_visits_left declares agrees follows follows' lowest pending visits
          exact inductionHypothesis _ (by omega) agreesNow (follows.visits lowest visits) follows' further
            drained' rfl

end Pairs

/-! ### Analyses with and without remarks -/

/-- In the run of the task, some instruction misjudges a reference. -/
def Misjudges (task : Task) : Prop :=
  ∃ signature entry offset frame instruction, task.method.signature = .ok signature ∧
    entryFrame task.context.policy task.method signature = .ok entry ∧
    task.Takes (.start task.body.entry entry) offset frame ∧
    task.body.instruction? offset = some instruction ∧
    (task.site offset).Misjudges frame instruction

theorem follows_start {signature : Signature} (sound : ¬ task.Misjudges)
    (read : task.method.signature = .ok signature)
    (entered : entryFrame task.context.policy task.method signature = .ok entry) :
    task.Follows entry (.start task.body.entry entry) where
  passes := Relation.ReflTransGen.refl
  judges takes code misjudges :=
    sound ⟨signature, entry, _, _, _, read, entered, takes, code, misjudges⟩

/-- References are only compared where an array is stored to or an object is constructed. -/
theorem not_misjudges_of_isPlain (plain : task.body.isPlain) : ¬ task.Misjudges := by
  rintro ⟨signature, entry, offset, frame, instruction, -, -, -, code, duplicate, object, compares, -⟩
  have plainHere := Body.isPlain_instruction plain code
  cases compares with
  | array offers lies => cases plainHere
  | object parsed constructed resolved resulted assumes writes lies => cases plainHere

/-- The same analysis, with remarks or without. -/
def withRemarks (task : Task) (remarks : Bool) : Task :=
  { task with context := { task.context with options := { task.context.options with remarks } } }

theorem twins_withRemarks (task : Task) (remarks remarks' : Bool) :
    (task.withRemarks remarks).Twins (task.withRemarks remarks') :=
  ⟨rfl, rfl, rfl, rfl, rfl⟩

end Task

/-- Whether a summary is kept does not depend on what it says. -/
theorem SummaryTable.commit_snd (table : SummaryTable) (key : String) (one two : Summary) :
    (table.commit key one).2 = (table.commit key two).2 := by
  unfold SummaryTable.commit
  split
  · rfl
  · rfl

/-- What becomes of the summary of a method does not depend on the remark about what it returns. -/
theorem Task.commit_eq_of_unremarked_eq {task : Task} {signature : Signature} {one two : Option Taint}
    (same : one.map Taint.unremarked = two.map Taint.unremarked) :
    ((task.offered? signature one).map
        fun offered => (task.context.summaries.commit task.method.key offered).2) =
      (task.offered? signature two).map
        fun offered => (task.context.summaries.commit task.method.key offered).2 := by
  cases one with
  | none =>
      cases two with
      | none => rfl
      | some theirs => cases same
  | some mine =>
      cases two with
      | none => cases same
      | some theirs =>
          have alike : mine.unremarked = theirs.unremarked := Option.some.inj same
          have worth : worthTelling task.context.policy signature mine =
              worthTelling task.context.policy signature theirs := by
            change worthTelling _ _ mine.unremarked = worthTelling _ _ theirs.unremarked
            rw [alike]
          have informative : (derivedSummary signature mine).isInformative =
              (derivedSummary signature theirs).isInformative := by
            change (derivedSummary _ mine.unremarked).isInformative =
              (derivedSummary _ theirs.unremarked).isInformative
            rw [alike]
          unfold Task.offered?
          rw [Option.filter_some, Option.filter_some, worth]
          split
          · rw [Option.map_some, Option.map_some, Option.filter_some, Option.filter_some, informative]
            split
            · exact congrArg some (SummaryTable.commit_snd _ _ _ _)
            · rfl
          · rfl

/-- Two analyses have found the same, up to remarks and to tags that do not last. -/
structure Analysis.SameVerdict (one two : Analysis) : Prop where
  /-- They have facts before the same locations, and of the same cores. -/
  frames : ∀ offset : Offset, one.frames[offset]?.map Frame.core = two.frames[offset]?.map Frame.core
  output : one.output.map Taint.core = two.output.map Taint.core
  /-- Frames whose tags all last differ in remarks only. -/
  lastingFrames : ∀ (offset : Offset) (frame frame' : Frame), one.frames[offset]? = some frame →
    two.frames[offset]? = some frame' → frame.All Taint.Durable → frame'.All Taint.Durable →
    frame.unremarked = frame'.unremarked
  /-- Outputs whose tags all last differ in remarks only, and the same becomes of both summaries. -/
  lastingOutput : (∀ taint ∈ one.output, taint.Durable) → (∀ taint ∈ two.output, taint.Durable) →
    one.output.map Taint.unremarked = two.output.map Taint.unremarked ∧ one.commit = two.commit

/-- Remarks change nothing of what an analysis finds, as long as they mislead no comparison of references
and all tags last. -/
theorem Task.remarks_keep_verdict {task : Task} {declared : Declarations} {plain remarked : Analysis}
    {summaries summaries' : SummaryTable} (declares : task.context.policy = declared.policy)
    (finished : (task.withRemarks false).run.result = .ok (plain, summaries))
    (finished' : (task.withRemarks true).run.result = .ok (remarked, summaries')) :
    (task.withRemarks false).Misjudges ∨ (task.withRemarks true).Misjudges ∨
      plain.SameVerdict remarked := by
  by_cases sound : (task.withRemarks false).Misjudges
  · exact Or.inl sound
  by_cases sound' : (task.withRemarks true).Misjudges
  · exact Or.inr (Or.inl sound')
  rcases run_eq_ok finished with ⟨signature, entry, solver, read, entered, solved, frames, output, -⟩
  rcases run_eq_ok finished' with ⟨signature', entry', solver', read', entered', solved', frames', output',
    -⟩
  rcases run_commits finished with ⟨offering, readAgain, commit, -⟩
  rcases run_commits finished' with ⟨offering', readAgain', commit', -⟩
  have agrees : solver.Agrees solver' := by
    -- Nothing is remarked on entry, so that both runs begin with the same facts.
    cases Except.ok.inj (read.symm.trans read')
    cases Except.ok.inj (entered.symm.trans entered')
    exact (task.twins_withRemarks false true).agree_of_drain declares (Solver.Agrees.refl _)
      (follows_start sound read entered) (follows_start sound' read' entered') solved solved'
  cases Except.ok.inj (readAgain.symm.trans readAgain')
  refine Or.inr (Or.inr ⟨?_, ?_, ?_, ?_⟩)
  · rw [frames, frames']
    exact agrees.frames
  · rw [output, output']
    exact agrees.output
  · intro offset frame frame' reached reached' durable durable'
    rw [frames] at reached
    rcases agrees.exists_frame reached with ⟨known, there, cores⟩
    rw [← frames', reached'] at there
    cases there
    exact Frame.unremarked_eq_of_core_eq cores durable durable'
  · intro durable durable'
    have same : plain.output.map Taint.unremarked = remarked.output.map Taint.unremarked := by
      have cores := agrees.output
      rw [← output, ← output'] at cores
      rwa [Option.map_congr fun taint member => (durable taint member).core_eq,
        Option.map_congr fun taint member => (durable' taint member).core_eq] at cores
    exact ⟨same, commit.trans ((commit_eq_of_unremarked_eq same).trans commit'.symm)⟩

/-- A method that keeps a reference to a new array on the stack while it stores a text and then a tainted
field in the array, and that returns this reference. -/
def collectingTwice : Task where
  context := { policy := Declarations.policy { fieldStates := [("Web.input", .tainted)] } }
  method := ⟨"Web", "collect", "()[Ljava/lang/String;", true, 1⟩
  body := .ofList [
    .constant (.int 1),
    .newArray 1,
    .store 0 .reference,
    .load 0 .reference,
    .constant .null,
    .load 0 .reference,
    .constant (.int 0),
    .constant (.string "x"),
    .arrayStore .reference,
    .stack .pop,
    .load 0 .reference,
    .constant (.int 1),
    .getField ⟨"Web", "input", "Ljava/lang/String;"⟩ true,
    .arrayStore .reference,
    .return (some .reference)]

/-- With remarks, the first store takes the remark about the array from the local, but not from the
reference on the stack, which the second store then does not recognise: the verdict changes from tainted to
safe. About a loop without stores to arrays the same is found with remarks and without. -/
theorem collectingTwice_misjudges :
    (∃ plain summaries remarked summaries',
      (collectingTwice.withRemarks false).run.result = .ok (plain, summaries) ∧
      (collectingTwice.withRemarks true).run.result = .ok (remarked, summaries') ∧
      plain.output.map Taint.state = some .tainted ∧ remarked.output.map Taint.state = some .safe ∧
      ((collectingTwice.withRemarks false).Misjudges ∨ (collectingTwice.withRemarks true).Misjudges)) ∧
    ∃ plain summaries remarked summaries',
      (appendingLoop.withRemarks false).run.result = .ok (plain, summaries) ∧
      (appendingLoop.withRemarks true).run.result = .ok (remarked, summaries') ∧
      plain.SameVerdict remarked := by
  have returns : ((collectingTwice.withRemarks false).run.result.toOption.bind fun (analysis, _) =>
      analysis.output.map Taint.state) = some .tainted := by
    decide +kernel
  have returns' : ((collectingTwice.withRemarks true).run.result.toOption.bind fun (analysis, _) =>
      analysis.output.map Taint.state) = some .safe := by
    decide +kernel
  have loops : (appendingLoop.withRemarks false).run.result.toOption.isSome := by decide +kernel
  have loops' : (appendingLoop.withRemarks true).run.result.toOption.isSome := by decide +kernel
  constructor
  · rcases Option.bind_eq_some_iff.1 returns with ⟨⟨plain, summaries⟩, ran, tainted⟩
    rcases Option.bind_eq_some_iff.1 returns' with ⟨⟨remarked, summaries'⟩, ran', safe⟩
    rw [toOption_eq_some_iff] at ran ran'
    refine ⟨plain, summaries, remarked, summaries', ran, ran', tainted, safe, ?_⟩
    rcases Task.remarks_keep_verdict rfl ran ran' with misjudges | misjudges | verdict
    · exact Or.inl misjudges
    · exact Or.inr misjudges
    · have states := congrArg (Option.map Taint.state) verdict.output
      rw [Option.map_map, Option.map_map] at states
      have different : some State.tainted = some State.safe := tainted.symm.trans (states.trans safe)
      cases different
  · rcases Option.isSome_iff_exists.1 loops with ⟨⟨plain, summaries⟩, ran⟩
    rcases Option.isSome_iff_exists.1 loops' with ⟨⟨remarked, summaries'⟩, ran'⟩
    rw [toOption_eq_some_iff] at ran ran'
    refine ⟨plain, summaries, remarked, summaries', ran, ran', ?_⟩
    have code : appendingLoop.body.isPlain := by decide
    rcases Task.remarks_keep_verdict rfl ran ran' with misjudges | misjudges | verdict
    · exact absurd misjudges (Task.not_misjudges_of_isPlain code)
    · exact absurd misjudges (Task.not_misjudges_of_isPlain code)
    · exact verdict

end TaintFlow
