/-
Module: TaintFlow.Proofs.Commitments
Purpose: What the analysis of a method leaves in the table of summaries. A failure leaves nothing, and a
  success at most one entry, of which it is said here when it is made and what it says: only where the
  result of the method matters to callers, where nothing is known of the method yet, and where the summary
  tells something or takes the place of one that callers would inherit.
Main exports: Context.KnowsAbove, Context.Earns, Task.isOverriding_iff, Task.earns_iff,
  Task.run_commits_earned, Session.analyze_commits_earned
-/
import TaintFlow.Policy.Declarations
import TaintFlow.Proofs.Run
import TaintFlow.Proofs.Writes

namespace TaintFlow

/-! ### Summaries that are due -/

namespace Context

/-- A summary of the method with the given id is known in some class above the given one: the policy
declares it, or the table has it for another class, which the given one is below. The names of classes are
in internal form, without a dot. -/
inductive KnowsAbove (context : Context) (className methodId : String) : Prop where
  | declared {summary : Summary}
      (known : context.policy.inheritedCall? className methodId = some summary) :
      KnowsAbove context className methodId
  | stored {owner : String} {summary : Summary} (other : owner ≠ className)
      (internal : '.' ∉ owner.toList)
      (known : context.summaries.get? (methodKey owner methodId) = some summary)
      (below : context.policy.hierarchy.isSubtype className owner = .ok true) :
      KnowsAbove context className methodId

/-- A method that returns what the output tells earns a place in the table for a summary. -/
inductive Earns (context : Context) (method : Method) (output : Option Taint) (summary : Summary) :
    Prop where
  | intro {signature : Signature} {returned : Taint}
      (read : method.signature = .ok signature)
      (returns : signature.returnType ≠ "V")
      (given : output = some returned)
      (matters : ¬ context.policy.isSafe signature.returnType ∨ returned.state = .null)
      (absent : context.summaries.get? method.key = none)
      (useful : summary.isInformative ∨ context.KnowsAbove method.className method.id)
      (told : summary =
        { output := some
            { returned with
              runtimeClass :=
                if returned.runtimeClass = classOf? signature.returnType then none
                else returned.runtimeClass
              slot := none
              allocation := none }
          mutated := ∅
          configured := false }) :
      Earns context method output summary

end Context

theorem worthTelling_iff {policy : Policy} {signature : Signature} {returned : Taint} :
    worthTelling policy signature returned ↔
      signature.returnType ≠ "V" ∧ (¬ policy.isSafe signature.returnType ∨ returned.state = .null) := by
  simp [worthTelling, Signature.returnsVoid]

/-! ### Summaries that are offered -/

namespace Task

variable {task : Task} {signature : Signature} {output : Option Taint} {summary : Summary}

theorem isOverriding_iff :
    task.isOverriding ↔ task.context.KnowsAbove task.method.className task.method.id := by
  unfold isOverriding
  rw [Bool.or_eq_true, Option.isSome_iff_exists, List.any_eq_true]
  constructor
  · rintro (⟨summary, known⟩ | ⟨⟨owner, summary⟩, candidate, below⟩)
    · exact .declared known
    · obtain ⟨other, internal, known⟩ := SummaryTable.mem_candidates_iff.1 candidate
      exact .stored other internal known (Hierarchy.isBelow_iff.1 below)
  · rintro (⟨known⟩ | ⟨other, internal, known, below⟩)
    · exact Or.inl ⟨_, known⟩
    · exact Or.inr ⟨_, SummaryTable.mem_candidates_iff.2 ⟨other, internal, known⟩,
        Hierarchy.isBelow_iff.2 below⟩

/-- Where nothing is known of the method yet, the summary that is offered is the one that is due. -/
theorem earns_iff (read : task.method.signature = .ok signature) :
    task.context.Earns task.method output summary ↔
      task.context.summaries.get? task.method.key = none ∧
        task.offered? signature output = some summary := by
  rw [offered?_eq_some_iff]
  constructor
  · rintro ⟨readAgain, returns, given, matters, absent, useful, told⟩
    cases Except.ok.inj (read.symm.trans readAgain)
    rw [← isOverriding_iff] at useful
    exact ⟨absent, _, given, worthTelling_iff.2 ⟨returns, matters⟩, told, useful⟩
  · rintro ⟨absent, returned, given, worth, told, useful⟩
    obtain ⟨returns, matters⟩ := worthTelling_iff.1 worth
    rw [isOverriding_iff] at useful
    exact .intro read returns given matters absent useful told

/-- A finished analysis adds the summary that is due, or nothing. -/
theorem run_commits_earned {analysis : Analysis} {summaries : SummaryTable}
    (finished : task.run.result = .ok (analysis, summaries)) :
    (∀ summary, task.context.Earns task.method analysis.output summary →
      summaries = task.context.summaries.put task.method.key summary) ∧
    ((¬ ∃ summary, task.context.Earns task.method analysis.output summary) →
      summaries = task.context.summaries) := by
  obtain ⟨signature, read, -, rfl⟩ := run_commits finished
  refine ⟨?_, ?_⟩
  · intro summary earned
    obtain ⟨absent, offers⟩ := (earns_iff read).1 earned
    simp [offers, SummaryTable.commit, absent]
  · intro unearned
    cases offers : task.offered? signature analysis.output with
    | none => rfl
    | some summary =>
        cases known : task.context.summaries.get? task.method.key with
        | none => exact absurd ⟨summary, (earns_iff read).2 ⟨known, offers⟩⟩ unearned
        | some present => simp [SummaryTable.commit, known]

end Task

/-! ### The effect on the table -/

/-- Whatever the context, the method and its code are: an analysis that fails leaves the table as it was,
and one that succeeds adds exactly the summary that the method has earned, under its key, or leaves the
table as it was if there is none. -/
theorem Session.analyze_commits_earned (session : Session) (code : MethodCode) :
    (∀ failure, (session.analyze code).2 = .error failure →
      (session.analyze code).1.summaries = session.summaries) ∧
    (∀ analysis, (session.analyze code).2 = .ok analysis →
      (∀ summary, session.context.Earns code.method analysis.output summary →
        (session.analyze code).1.summaries = session.summaries.put code.method.key summary) ∧
      ((¬ ∃ summary, session.context.Earns code.method analysis.output summary) →
        (session.analyze code).1.summaries = session.summaries)) := by
  match ran : (session.task code).run.result with
  | .ok (analysis, summaries) =>
      have answered : (session.analyze code).2 = .ok analysis := by
        rw [Session.analyze, ran]
        rfl
      rw [answered, Session.summaries_analyze_of_ok ran]
      refine ⟨?_, ?_⟩
      · intro failure failed
        cases failed
      · intro reported same
        cases same
        exact Task.run_commits_earned ran
  | .error failure =>
      have answered : (session.analyze code).2 = .error failure := by
        rw [Session.analyze, ran]
        rfl
      rw [answered, Session.summaries_analyze_of_error ran]
      refine ⟨fun _ _ => rfl, ?_⟩
      intro reported same
      cases same

/-- A human has said of the titles of texts that they are tainted, and pages are texts. -/
def titledTexts : Session where
  context :=
    { policy := Declarations.policy { supertypes := [("Page", "Text")] }
      summaries := SummaryTable.empty.put "Text.title()Ljava/lang/String;" (.ofConfigured .tainted) }

/-- The title of a page is read from a field of which nothing is known. -/
def pageTitle : MethodCode where
  method := ⟨"Page", "title", "()Ljava/lang/String;", true, 0⟩
  body := .ofList [.getField ⟨"Page", "label", "Ljava/lang/String;"⟩ true, .return (some .reference)]

/-- The summary of the title of a page says nothing, and is stored only because callers would otherwise
fall back on the one for texts. -/
theorem pageTitle_commits_earned :
    ∃ analysis summary, (titledTexts.analyze pageTitle).2 = .ok analysis ∧
      titledTexts.context.Earns pageTitle.method analysis.output summary ∧
      summary.isInformative = false ∧
      (titledTexts.analyze pageTitle).1.summaries =
        titledTexts.summaries.put pageTitle.method.key summary := by
  have saysNothing : ((titledTexts.analyze pageTitle).2.toOption.bind fun analysis =>
      analysis.output.map fun returned =>
        (derivedSummary ⟨[], "Ljava/lang/String;"⟩ returned).isInformative) = some false := by
    decide +kernel
  obtain ⟨analysis, ran, told⟩ := Option.bind_eq_some_iff.1 saysNothing
  obtain ⟨returned, given, uninformative⟩ := Option.map_eq_some_iff.1 told
  rw [toOption_eq_some_iff] at ran
  have read : pageTitle.method.signature = .ok ⟨[], "Ljava/lang/String;"⟩ :=
    toOption_eq_some_iff.1 (by decide)
  have configured : titledTexts.summaries.get? (methodKey "Text" ".title()Ljava/lang/String;") =
      some (.ofConfigured .tainted) := by
    decide
  have below : titledTexts.context.policy.hierarchy.isSubtype "Page" "Text" = .ok true :=
    Hierarchy.isBelow_iff.1 (by decide +kernel)
  have above : titledTexts.context.KnowsAbove "Page" ".title()Ljava/lang/String;" :=
    .stored (by decide) (by decide) configured below
  have earned : titledTexts.context.Earns pageTitle.method analysis.output
      (derivedSummary ⟨[], "Ljava/lang/String;"⟩ returned) :=
    .intro read (by decide) given (Or.inl (by decide)) (by decide) (Or.inr above) rfl
  have committed := ((titledTexts.analyze_commits_earned pageTitle).2 analysis ran).1 _ earned
  exact ⟨analysis, _, ran, earned, uninformative, committed⟩

end TaintFlow
