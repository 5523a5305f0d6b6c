/-
Module: TaintFlow.Proofs.Isolation
Purpose: A method whose analysis fails is invisible to the rest of a sweep. The sweep is compared with a
  second one over the same classes without the methods that failed in the first one: the two run side by
  side in equal contexts, since what fails has put nothing into the table, so that every method that is left
  has the same outcome in both. Each failure of the first sweep goes on record once. Where the analysis
  itself breaks down, both sweeps end, at the same method.
Main exports: Outcome, Check.outcomes, Check.survivors, Check.sweepMethod_visits,
  Check.failures_are_invisible
-/
import TaintFlow.Detection.Sweep
import TaintFlow.Policy.Declarations
import TaintFlow.Proofs.Writes

namespace TaintFlow

/-- What became of a method in a sweep. -/
structure Outcome where
  code : MethodCode
  result : Except Failure Analysis

namespace Outcome

/-- The analysis of the method ended with a report of what is wrong. -/
def failed (outcome : Outcome) : Bool :=
  match outcome.result with
  | .ok _ => false
  | .error failure => !failure.fault.isBreakdown

/-- The analysis of the method broke down. -/
def broke (outcome : Outcome) : Bool :=
  match outcome.result with
  | .ok _ => false
  | .error failure => failure.fault.isBreakdown

/-- What goes on record about a method that failed. -/
def mishap? (outcome : Outcome) : Option Mishap :=
  match outcome.result with
  | .ok _ => none
  | .error failure =>
      if failure.fault.isBreakdown then none else some ⟨outcome.code.method.key, failure⟩

/-- What a check finds in a method. -/
def findings (outcome : Outcome) (check : Check) : List Finding :=
  match outcome.result with
  | .ok analysis => check.findings outcome.code.body analysis
  | .error _ => []

theorem mishap?_eq_none {outcome : Outcome} (unfailed : outcome.failed = false) :
    outcome.mishap? = none := by
  rcases outcome with ⟨code, failure | analysis⟩
  · have isBreakdown : failure.fault.isBreakdown = true := by simpa [failed] using unfailed
    exact if_pos isBreakdown
  · rfl

theorem findings_eq_nil {outcome : Outcome} (failed : outcome.failed = true) (check : Check) :
    outcome.findings check = [] := by
  rcases outcome with ⟨code, failure | analysis⟩
  · rfl
  · cases failed

theorem broke_eq_false {outcome : Outcome} (failed : outcome.failed = true) : outcome.broke = false := by
  rcases outcome with ⟨code, failure | analysis⟩
  · simpa [Outcome.failed, broke] using failed
  · cases failed

theorem filterMap_mishap?_unfailed (outcomes : List Outcome) :
    (outcomes.filter fun outcome => !outcome.failed).filterMap mishap? = [] := by
  rw [List.filterMap_eq_nil_iff]
  intro outcome member
  exact mishap?_eq_none (by simpa using (List.mem_filter.1 member).2)

end Outcome

namespace Check

/-- What becomes of a method that is analysed now. -/
def outcome (check : Check) (sweep : Sweep) (code : MethodCode) : Outcome :=
  ⟨code, (check.visitMethod sweep code).2⟩

/-- What becomes of methods that are analysed one after the other, as long as the analysis does not break
down. -/
def methodOutcomes (check : Check) : Sweep → List MethodCode → List Outcome
  | _, [] => []
  | sweep, code :: later =>
      if sweep.broken then []
      else check.outcome sweep code :: check.methodOutcomes (check.sweepMethod sweep code) later

/-- What becomes of the methods of a class; a class that is not covered has none to look at. -/
def classOutcomes (check : Check) (sweep : Sweep) (code : ClassCode) : List Outcome :=
  if check.covers code.name then check.methodOutcomes sweep code.methods else []

/-- What becomes of the methods of classes that are analysed one after the other. -/
def outcomes (check : Check) : Sweep → List ClassCode → List Outcome
  | _, [] => []
  | sweep, code :: later =>
      check.classOutcomes sweep code ++ check.outcomes (check.visitClass sweep code) later

/-- Methods without those that fail when they are analysed one after the other. -/
def methodSurvivors (check : Check) : Sweep → List MethodCode → List MethodCode
  | _, [] => []
  | sweep, code :: later =>
      let rest := check.methodSurvivors (check.sweepMethod sweep code) later
      if !sweep.broken && (check.outcome sweep code).failed then rest else code :: rest

/-- A class without the methods that fail when it is swept. -/
def survivor (check : Check) (sweep : Sweep) (code : ClassCode) : ClassCode :=
  if check.covers code.name then { code with methods := check.methodSurvivors sweep code.methods }
  else code

/-- Classes without the methods that fail when they are swept one after the other. -/
def survivors (check : Check) : Sweep → List ClassCode → List ClassCode
  | _, [] => []
  | sweep, code :: later =>
      check.survivor sweep code :: check.survivors (check.visitClass sweep code) later

end Check

/-! ### One method of a sweep -/

/-- All that the visit of a method does to a sweep, apart from what is said on the way. -/
structure Check.Visits (check : Check) (sweep : Sweep) (code : MethodCode) (outcome : Outcome)
    (after : Sweep) : Prop where
  context : after.session.context =
    { sweep.session.context with summaries := (sweep.session.analyze code).1.summaries }
  findings : after.findings = sweep.findings ++ outcome.findings check
  mishaps : after.mishaps = sweep.mishaps ++ outcome.mishap?.toList
  broken : after.broken = outcome.broke

namespace Check

variable {check : Check} {sweep : Sweep} {code : MethodCode}

theorem sweepMethod_of_broken (broken : sweep.broken = true) : check.sweepMethod sweep code = sweep :=
  if_pos broken

theorem visitClass_of_broken {code : ClassCode} (broken : sweep.broken = true) :
    check.visitClass sweep code = sweep :=
  if_pos broken

theorem sweepMethod_visits (check : Check) (code : MethodCode) (sound : sweep.broken = false) :
    check.Visits sweep code (check.outcome sweep code) (check.sweepMethod sweep code) := by
  unfold sweepMethod outcome visitMethod
  dsimp only
  rw [sound, if_neg Bool.false_ne_true]
  cases (sweep.session.analyze code).2 with
  | ok analysis =>
      dsimp only
      exact ⟨rfl, rfl, (List.append_nil _).symm, rfl⟩
  | error failure =>
      dsimp only
      split
      next breakdown =>
        refine ⟨rfl, (List.append_nil _).symm, ?_, breakdown.symm⟩
        simp [Outcome.mishap?, breakdown]
      next reported =>
        refine ⟨rfl, (List.append_nil _).symm, ?_, ?_⟩
        · simp [Outcome.mishap?, reported]
        · simpa [Outcome.broke] using reported

/-- What failed has put nothing into the table. -/
theorem context_of_failed (sound : sweep.broken = false) (failed : (check.outcome sweep code).failed = true) :
    (check.sweepMethod sweep code).session.context = sweep.session.context := by
  have unchanged : (sweep.session.analyze code).1.summaries = sweep.session.summaries := by
    match ran : (sweep.session.task code).run.result with
    | .ok finished =>
        simp [outcome, visitMethod, Session.analyze, ran, Except.map, Outcome.failed] at failed
    | .error failure => exact Session.summaries_analyze_of_error ran
  rw [(sweepMethod_visits check code sound).context, unchanged]
  rfl

/-! ### What goes on record -/

theorem foldl_sweepMethod_of_broken (broken : sweep.broken = true) (methods : List MethodCode) :
    methods.foldl check.sweepMethod sweep = sweep := by
  induction methods with
  | nil => rfl
  | cons code later inductionHypothesis =>
      rw [List.foldl_cons, sweepMethod_of_broken broken, inductionHypothesis]

theorem methodOutcomes_of_broken (broken : sweep.broken = true) (methods : List MethodCode) :
    check.methodOutcomes sweep methods = [] := by
  cases methods with
  | nil => rfl
  | cons code later => exact if_pos broken

theorem methodOutcomes_cons (sound : sweep.broken = false) (later : List MethodCode) :
    check.methodOutcomes sweep (code :: later) =
      check.outcome sweep code :: check.methodOutcomes (check.sweepMethod sweep code) later := by
  rw [methodOutcomes, sound, if_neg Bool.false_ne_true]

theorem visitClasses_of_broken (broken : sweep.broken = true) (classes : List ClassCode) :
    check.visitClasses sweep classes = sweep := by
  induction classes with
  | nil => rfl
  | cons code later inductionHypothesis =>
      rw [visitClasses, List.foldl_cons, visitClass_of_broken broken]
      exact inductionHypothesis

theorem outcomes_of_broken (broken : sweep.broken = true) (classes : List ClassCode) :
    check.outcomes sweep classes = [] := by
  induction classes with
  | nil => rfl
  | cons code later inductionHypothesis =>
      rw [outcomes, visitClass_of_broken broken, inductionHypothesis, classOutcomes,
        methodOutcomes_of_broken broken, ite_self]
      rfl

theorem mishaps_foldl_sweepMethod (check : Check) (sweep : Sweep) (methods : List MethodCode) :
    (methods.foldl check.sweepMethod sweep).mishaps =
      sweep.mishaps ++ (check.methodOutcomes sweep methods).filterMap Outcome.mishap? := by
  induction methods generalizing sweep with
  | nil => simp [methodOutcomes]
  | cons code later inductionHypothesis =>
      cases broken : sweep.broken with
      | true =>
          rw [foldl_sweepMethod_of_broken broken, methodOutcomes_of_broken broken]
          simp
      | false =>
          rw [List.foldl_cons, inductionHypothesis, methodOutcomes_cons broken,
            (check.sweepMethod_visits code broken).mishaps, List.filterMap_cons, List.append_assoc]
          cases (check.outcome sweep code).mishap? <;> rfl

theorem mishaps_visitClass (check : Check) (sweep : Sweep) (code : ClassCode) :
    (check.visitClass sweep code).mishaps =
      sweep.mishaps ++ (check.classOutcomes sweep code).filterMap Outcome.mishap? := by
  cases broken : sweep.broken with
  | true => simp [visitClass, classOutcomes, broken, methodOutcomes_of_broken]
  | false =>
      unfold visitClass classOutcomes
      rw [broken, if_neg Bool.false_ne_true]
      split
      · exact mishaps_foldl_sweepMethod check sweep code.methods
      · simp

/-- A sweep records the failures of its methods, one after the other. -/
theorem mishaps_visitClasses (check : Check) (sweep : Sweep) (classes : List ClassCode) :
    (check.visitClasses sweep classes).mishaps =
      sweep.mishaps ++ (check.outcomes sweep classes).filterMap Outcome.mishap? := by
  induction classes generalizing sweep with
  | nil => simp [visitClasses, outcomes]
  | cons code later inductionHypothesis =>
      have record := inductionHypothesis (check.visitClass sweep code)
      rw [mishaps_visitClass, List.append_assoc, ← List.filterMap_append] at record
      exact record

theorem code_methodOutcomes (check : Check) (sweep : Sweep) (methods : List MethodCode) :
    (check.methodOutcomes sweep methods).map (·.code) <+: methods ∧
      ((methods.foldl check.sweepMethod sweep).broken = false →
        (check.methodOutcomes sweep methods).map (·.code) = methods) := by
  induction methods generalizing sweep with
  | nil => exact ⟨List.nil_prefix, fun _ => rfl⟩
  | cons code later inductionHypothesis =>
      cases broken : sweep.broken with
      | true =>
          rw [foldl_sweepMethod_of_broken broken, methodOutcomes_of_broken broken, broken]
          exact ⟨List.nil_prefix, fun sound => by cases sound⟩
      | false =>
          rcases inductionHypothesis (check.sweepMethod sweep code) with ⟨begins, all⟩
          rw [methodOutcomes_cons broken, List.map_cons, List.foldl_cons]
          exact ⟨List.cons_prefix_cons.2 ⟨rfl, begins⟩, fun sound => congrArg _ (all sound)⟩

theorem code_classOutcomes (check : Check) (sweep : Sweep) (code : ClassCode) :
    (check.classOutcomes sweep code).map (·.code) <+:
        (if check.covers code.name then code.methods else []) ∧
      ((check.visitClass sweep code).broken = false →
        (check.classOutcomes sweep code).map (·.code) =
          if check.covers code.name then code.methods else []) := by
  unfold classOutcomes
  split
  next covered =>
    rcases check.code_methodOutcomes sweep code.methods with ⟨begins, all⟩
    refine ⟨begins, fun sound => all ?_⟩
    cases broken : sweep.broken with
    | true => rwa [foldl_sweepMethod_of_broken broken, ← visitClass_of_broken broken]
    | false => simpa [visitClass, broken, covered] using sound
  next => exact ⟨List.nil_prefix, fun _ => rfl⟩

/-- The methods of the classes that are covered have an outcome, in their order, up to the one over which the
analysis breaks down. -/
theorem code_outcomes (check : Check) (sweep : Sweep) (classes : List ClassCode) :
    (check.outcomes sweep classes).map (·.code) <+:
        (classes.filter fun code => check.covers code.name).flatMap (·.methods) ∧
      ((check.visitClasses sweep classes).broken = false →
        (check.outcomes sweep classes).map (·.code) =
          (classes.filter fun code => check.covers code.name).flatMap (·.methods)) := by
  induction classes generalizing sweep with
  | nil => exact ⟨List.nil_prefix, fun _ => rfl⟩
  | cons code later inductionHypothesis =>
      rcases check.code_classOutcomes sweep code with ⟨begins, all⟩
      rcases inductionHypothesis (check.visitClass sweep code) with ⟨beginsLater, allLater⟩
      have listed : ((code :: later).filter fun code => check.covers code.name).flatMap (·.methods) =
          (if check.covers code.name then code.methods else []) ++
            (later.filter fun code => check.covers code.name).flatMap (·.methods) := by
        cases covered : check.covers code.name <;> simp [covered]
      rw [outcomes, List.map_append, listed]
      cases broken : (check.visitClass sweep code).broken with
      | true =>
          rw [outcomes_of_broken broken, List.map_nil, List.append_nil]
          refine ⟨begins.trans (List.prefix_append _ _), fun sound => ?_⟩
          have ends : check.visitClasses sweep (code :: later) = check.visitClass sweep code :=
            visitClasses_of_broken broken later
          rw [ends, broken] at sound
          cases sound
      | false =>
          rw [all broken]
          exact ⟨(List.prefix_append_right_inj _).2 beginsLater, fun sound => congrArg _ (allLater sound)⟩

end Check

/-! ### Two sweeps side by side -/

/-- Two sweeps that have found the same and go on from the same table. What they have recorded and what
they have said may differ. -/
structure Sweep.Matches (one two : Sweep) : Prop where
  context : one.session.context = two.session.context
  findings : one.findings = two.findings
  broken : one.broken = two.broken

namespace Sweep.Matches

variable {check : Check} {one two : Sweep}

theorem refl (sweep : Sweep) : sweep.Matches sweep :=
  ⟨rfl, rfl, rfl⟩

/-- A method that both analyse has the same outcome in both, and leaves them alike. -/
theorem sweepMethod (check : Check) (alike : one.Matches two) (sound : one.broken = false) (code : MethodCode) :
    check.outcome one code = check.outcome two code ∧
      (check.sweepMethod one code).Matches (check.sweepMethod two code) := by
  have sameTask : one.session.task code = two.session.task code := by
    unfold Session.task
    rw [alike.context]
  have sameAnswer : (one.session.analyze code).2 = (two.session.analyze code).2 := by
    unfold Session.analyze
    rw [sameTask]
  have sameTable : (one.session.analyze code).1.summaries = (two.session.analyze code).1.summaries := by
    change one.session.context.summaries.replay (one.session.task code).run.notices =
      two.session.context.summaries.replay (two.session.task code).run.notices
    rw [sameTask, alike.context]
  have sameOutcome : check.outcome one code = check.outcome two code := by
    unfold Check.outcome Check.visitMethod
    dsimp only
    rw [sameAnswer]
    cases (two.session.analyze code).2 <;> rfl
  have visits := check.sweepMethod_visits code sound
  have visits' := check.sweepMethod_visits code (alike.broken ▸ sound)
  refine ⟨sameOutcome, ?_, ?_, ?_⟩
  · rw [visits.context, visits'.context, alike.context, sameTable]
  · rw [visits.findings, visits'.findings, alike.findings, sameOutcome]
  · rw [visits.broken, visits'.broken, sameOutcome]

/-- A method that fails in one of them need not be there for the other. -/
theorem sweepMethod_left (alike : one.Matches two) {code : MethodCode} (sound : one.broken = false)
    (failed : (check.outcome one code).failed = true) : (check.sweepMethod one code).Matches two := by
  have visits := check.sweepMethod_visits code sound
  refine ⟨?_, ?_, ?_⟩
  · rw [Check.context_of_failed sound failed, alike.context]
  · rw [visits.findings, Outcome.findings_eq_nil failed, List.append_nil, alike.findings]
  · rw [visits.broken, Outcome.broke_eq_false failed, ← alike.broken, sound]

/-- Where the second sweep leaves out the methods that fail in the first one, those that are left have the
same outcome in both. -/
theorem foldl_sweepMethod (alike : one.Matches two) (methods : List MethodCode) :
    (methods.foldl check.sweepMethod one).Matches
        ((check.methodSurvivors one methods).foldl check.sweepMethod two) ∧
      check.methodOutcomes two (check.methodSurvivors one methods) =
        (check.methodOutcomes one methods).filter fun outcome => !outcome.failed := by
  induction methods generalizing one two with
  | nil => exact ⟨alike, rfl⟩
  | cons code later inductionHypothesis =>
      cases broken : one.broken with
      | true =>
          have broken' : two.broken = true := alike.broken ▸ broken
          rw [Check.foldl_sweepMethod_of_broken broken, Check.foldl_sweepMethod_of_broken broken',
            Check.methodOutcomes_of_broken broken, Check.methodOutcomes_of_broken broken']
          exact ⟨alike, rfl⟩
      | false =>
          have broken' : two.broken = false := alike.broken ▸ broken
          rw [Check.methodSurvivors, broken, Check.methodOutcomes_cons broken, List.filter_cons]
          -- The second sweep takes a step only where the first one does not fail.
          cases failed : (check.outcome one code).failed with
          | true => exact inductionHypothesis (alike.sweepMethod_left broken failed)
          | false =>
              rcases alike.sweepMethod check broken code with ⟨sameOutcome, alikeNext⟩
              rcases inductionHypothesis alikeNext with ⟨alikeAfter, sameOutcomes⟩
              refine ⟨alikeAfter, ?_⟩
              change check.methodOutcomes two
                (code :: check.methodSurvivors (check.sweepMethod one code) later) =
                  check.outcome one code :: _
              rw [Check.methodOutcomes_cons broken', sameOutcomes, sameOutcome]

theorem visitClass (alike : one.Matches two) (code : ClassCode) :
    (check.visitClass one code).Matches (check.visitClass two (check.survivor one code)) ∧
      check.classOutcomes two (check.survivor one code) =
        (check.classOutcomes one code).filter fun outcome => !outcome.failed := by
  cases broken : one.broken with
  | true =>
      have broken' : two.broken = true := alike.broken ▸ broken
      rw [Check.visitClass_of_broken broken, Check.visitClass_of_broken broken']
      simp [Check.classOutcomes, Check.methodOutcomes_of_broken, broken, broken', alike]
  | false =>
      have broken' : two.broken = false := alike.broken ▸ broken
      unfold Check.visitClass Check.classOutcomes Check.survivor
      by_cases covered : check.covers code.name
      · simpa [covered, broken, broken'] using alike.foldl_sweepMethod code.methods
      · have heard : Sweep.Matches
            { one with session := one.session.hear [.skippedClass check.name code.name] }
            { two with session := two.session.hear [.skippedClass check.name code.name] } :=
          ⟨alike.context, alike.findings, alike.broken⟩
        simpa [covered, broken, broken'] using heard

theorem visitClasses (check : Check) (alike : one.Matches two) (classes : List ClassCode) :
    (check.visitClasses one classes).Matches
        (check.visitClasses two (check.survivors one classes)) ∧
      check.outcomes two (check.survivors one classes) =
        (check.outcomes one classes).filter fun outcome => !outcome.failed := by
  induction classes generalizing one two with
  | nil => exact ⟨alike, rfl⟩
  | cons code later inductionHypothesis =>
      rcases alike.visitClass code with ⟨alikeNext, sameOutcomes⟩
      rcases inductionHypothesis alikeNext with ⟨alikeAfter, sameLater⟩
      refine ⟨alikeAfter, ?_⟩
      rw [Check.survivors, Check.outcomes, Check.outcomes, sameOutcomes, sameLater,
        List.filter_append]

end Sweep.Matches

/-- A sweep of any classes with any check, from any table and however that is gone through, is compared with
one over the same classes without the methods that failed in it. Nothing fails in the second one, in which
the methods that are left have the same outcomes; it has the same findings in the same order, ends with the
same table, and breaks down exactly if the first one does. The first one has recorded each failure once, in
order, and has an outcome for each method that it covers, in order, up to the one over which the analysis
broke down, if there is any. -/
theorem Check.failures_are_invisible (check : Check) (sweep : Sweep) (classes : List ClassCode) :
    let whole := check.visitClasses sweep classes
    let reduced := check.visitClasses sweep (check.survivors sweep classes)
    let covered := (classes.filter fun code => check.covers code.name).flatMap (·.methods)
    reduced.findings = whole.findings ∧
      reduced.session.summaries = whole.session.summaries ∧
      reduced.broken = whole.broken ∧
      reduced.mishaps = sweep.mishaps ∧
      check.outcomes sweep (check.survivors sweep classes) =
        (check.outcomes sweep classes).filter (fun outcome => !outcome.failed) ∧
      whole.mishaps = sweep.mishaps ++ (check.outcomes sweep classes).filterMap Outcome.mishap? ∧
      (check.outcomes sweep classes).map (·.code) <+: covered ∧
      (whole.broken = false → (check.outcomes sweep classes).map (·.code) = covered) := by
  intro whole reduced covered
  rcases (Sweep.Matches.refl sweep).visitClasses check classes with ⟨alike, sameOutcomes⟩
  refine ⟨alike.findings.symm, congrArg Context.summaries alike.context.symm, alike.broken.symm, ?_,
    sameOutcomes, mishaps_visitClasses check sweep classes, code_outcomes check sweep classes⟩
  rw [mishaps_visitClasses, sameOutcomes, Outcome.filterMap_mishap?_unfailed, List.append_nil]

/-- A class whose second method takes from an empty stack. The third one shows its argument to another
method. -/
def brittleClass : ClassCode where
  name := "Text"
  methods := [
    ⟨⟨"Text", "label", "()Ljava/lang/String;", true, 0⟩,
      .ofList [.constant (.string "label"), .return (some .reference)]⟩,
    ⟨⟨"Text", "missing", "()Ljava/lang/String;", true, 0⟩, .ofList [.return (some .reference)]⟩,
    ⟨⟨"Text", "copy", "(Ljava/lang/String;)Ljava/lang/String;", true, 1⟩,
      .ofList [.load 0 .reference, .stack .dup, .invoke ⟨.static, "Log", "show", "(Ljava/lang/String;)V"⟩,
        .return (some .reference)]⟩]

/-- A class whose first method calls one that is said to return what lies at the largest stack index. -/
def overreachingClass : ClassCode where
  name := "Page"
  methods := [
    ⟨⟨"Page", "reach", "()Ljava/lang/String;", true, 0⟩,
      .ofList [.invoke ⟨.static, "Web", "far", "()Ljava/lang/String;"⟩, .return (some .reference)]⟩,
    ⟨⟨"Page", "rest", "()V", true, 0⟩, .ofList [.return none]⟩]

/-- Look for calls with a topmost word of which nothing is known. -/
def unknownWords : Check :=
  SinkRule.check { name := "unknown words", states := [.unknown] }

/-- A sweep that begins with the summary of that method. -/
def farReaching : Sweep where
  session := {
    context := {
      policy := Declarations.policy {}
      summaries := SummaryTable.empty.put "Web.far()Ljava/lang/String;"
        (.ofConfigured (.parametric [maxIndex])) } }

/-- Only the method that fails is left out. After the first class all its methods have an outcome; the second
one breaks the sweep off at its first method, with the same findings whether the failing method is there or
not. -/
theorem brittleClass_failure_is_invisible :
    (unknownWords.survivors farReaching [brittleClass, overreachingClass]).map
        (fun code => code.methods.map (·.method.name)) = [["label", "copy"], ["reach", "rest"]] ∧
      (unknownWords.visitClasses farReaching [brittleClass]).broken = false ∧
      (unknownWords.outcomes farReaching [brittleClass]).map (·.code) = brittleClass.methods ∧
      (unknownWords.visitClasses farReaching [brittleClass, overreachingClass]).broken = true ∧
      (unknownWords.visitClasses farReaching [brittleClass, overreachingClass]).mishaps.map (·.method) =
        ["Text.missing()Ljava/lang/String;"] ∧
      (unknownWords.visitClasses farReaching
        (unknownWords.survivors farReaching [brittleClass, overreachingClass])).findings.map (·.method) =
          ["Text.copy(Ljava/lang/String;)Ljava/lang/String;"] := by
  -- Evaluated together, the sweeps share what they begin with.
  have evaluated :
      (unknownWords.survivors farReaching [brittleClass, overreachingClass]).map
          (fun code => code.methods.map (·.method.name)) = [["label", "copy"], ["reach", "rest"]] ∧
        (unknownWords.visitClasses farReaching [brittleClass]).broken = false ∧
        (unknownWords.visitClasses farReaching [brittleClass, overreachingClass]).broken = true ∧
        (unknownWords.visitClasses farReaching [brittleClass, overreachingClass]).mishaps.map (·.method) =
          ["Text.missing()Ljava/lang/String;"] ∧
        (unknownWords.visitClasses farReaching [brittleClass, overreachingClass]).findings.map (·.method) =
          ["Text.copy(Ljava/lang/String;)Ljava/lang/String;"] := by
    decide +kernel
  rcases evaluated with ⟨left, sound, broken, mishaps, found⟩
  rcases Check.failures_are_invisible unknownWords farReaching [brittleClass] with
    ⟨-, -, -, -, -, -, -, all⟩
  rcases Check.failures_are_invisible unknownWords farReaching [brittleClass, overreachingClass] with
    ⟨sameFindings, -⟩
  refine ⟨left, sound, all sound, broken, mishaps, ?_⟩
  rw [sameFindings]
  exact found

end TaintFlow
