/-
Module: TaintFlow.Proofs.ArgumentPositions
Purpose: Derived summaries name only arguments that their methods have. A call puts the arguments of the
  caller in the place of those that the summary of the callee names, so that no position of one method is
  taken for a position of another, in whatever order methods are analysed.
Main exports: Taint.Positioned, Taint.Positioned.admitted, Task.keeps_positioned, Task.run_stores,
  Session.analyzeAll, Attributed, Session.analyzeAll_attributed, Declarations.summaries_name_own_arguments
-/
import TaintFlow.Policy.Declarations
import TaintFlow.Proofs.Calls
import TaintFlow.Proofs.Inlining
import TaintFlow.Proofs.Writes

namespace TaintFlow

/-! ### Facts -/

namespace Taint

variable {taint : Taint} {indices : List Nat}

/-- Unless the value is certainly dangerous, only the given arguments flow into it, and while any does, it
is at least unknown. -/
def Positioned (indices : List Nat) (taint : Taint) : Prop :=
  .tainted ≤ taint.state ∨
    (taint.isParametric → .unknown ≤ taint.state) ∧ ∀ index ∈ taint.parameters, index ∈ indices

theorem positioned_of_parameters_eq_empty (none : taint.parameters = ∅) : taint.Positioned indices := by
  refine Or.inr ⟨?_, by simp [none]⟩
  intro parametric
  rw [isParametric_eq_false_iff.2 none] at parametric
  cases parametric

theorem Positioned.congr {other : Taint} (positioned : taint.Positioned indices)
    (sameState : other.state = taint.state) (sameParameters : other.parameters = taint.parameters) :
    other.Positioned indices := by
  unfold Positioned isParametric
  rw [sameState, sameParameters]
  exact positioned

theorem closed_positioned (indices : List Nat) : Closed (Positioned indices) where
  alike positioned like := positioned.congr like.state like.parameters
  joins := by
    intro one two first second
    rcases first with dangerous | ⟨unknownOne, namedOne⟩
    · exact Or.inl (State.le_trans dangerous (State.le_merge_left _ _))
    · rcases second with dangerous | ⟨unknownTwo, namedTwo⟩
      · exact Or.inl (State.le_trans dangerous (State.le_merge_right _ _))
      · refine Or.inr ⟨?_, ?_⟩
        · intro parametric
          rw [isParametric_join, Bool.or_eq_true] at parametric
          rcases parametric with parametric | parametric
          · exact State.le_trans (unknownOne parametric) (State.le_merge_left _ _)
          · exact State.le_trans (unknownTwo parametric) (State.le_merge_right _ _)
        · intro index named
          rcases Std.ExtTreeSet.mem_union_iff.1 named with named | named
          · exact namedOne index named
          · exact namedTwo index named

/-- As a template, such a fact is put together from the arguments of each call, or it names none of the
callee's, or it is certainly dangerous. Either way its own positions do not matter to a caller. -/
theorem Positioned.admitted (positioned : taint.Positioned indices) (others : List Nat) :
    (taint.state = .unknown ∧ taint.isParametric) ∨ taint.Positioned others := by
  rcases positioned with dangerous | ⟨unknown, -⟩
  · exact Or.inr (Or.inl dangerous)
  · cases parametric : taint.isParametric with
    | false => exact Or.inr (positioned_of_parameters_eq_empty (isParametric_eq_false_iff.1 parametric))
    | true =>
        have atLeast : .unknown ≤ taint.state := unknown parametric
        by_cases isUnknown : taint.state = .unknown
        · exact Or.inl ⟨isUnknown, rfl⟩
        · refine Or.inr (Or.inl ?_)
          cases state : taint.state <;> simp_all [State.le_def, State.danger]

theorem positioned_argumentTaint {method : Method} (name : String) (index : Nat)
    (known : index ∈ indices) : (argumentTaint method name index).Positioned indices := by
  refine Or.inr ⟨fun _ => State.le_refl _, ?_⟩
  intro other named
  rw [mem_parameters_argumentTaint.1 named]
  exact known

end Taint

/-- No instruction looks at the positions of arguments, or adds any. -/
theorem Site.carries_positioned (site : Site) (call : Call) (indices : List Nat) :
    site.Carries call (Taint.Positioned indices) where
  toClosed := Taint.closed_positioned indices
  bare _ := Taint.positioned_of_parameters_eq_empty rfl
  retags _ positioned := positioned.congr rfl rfl
  locates positioned := positioned.congr rfl rfl
  signs _ positioned := positioned.congr rfl rfl

/-! ### The analysis of a method -/

theorem entryFrame_positioned {policy : Policy} {method : Method} {signature : Signature} {entry : Frame}
    (entered : entryFrame policy method signature = .ok entry) :
    entry.All (Taint.Positioned (argumentIndices policy method signature)) :=
  calledFrame_all (fun _ _ positioned => positioned.congr rfl rfl)
    (Taint.positioned_of_parameters_eq_empty rfl)
    (forall_mem_entryTaints (Taint.positioned_of_parameters_eq_empty rfl)
      Taint.positioned_argumentTaint) entered

namespace Task

variable {task : Task} {signature : Signature} {indices : List Nat} {analysis : Analysis}
  {summaries : SummaryTable}

theorem keeps_positioned (admits : task.context.Admits (Taint.Positioned indices)) :
    task.Keeps (fun _ frame => frame.All (Taint.Positioned indices)) (Taint.Positioned indices) := by
  apply keeps_of_closed (Taint.closed_positioned indices)
  intro offset instruction frame step _ all acted
  refine Site.step_keeps (Taint.closed_positioned indices) ?_ ?_ admits all acted
  · intro taint made
    exact Taint.positioned_of_parameters_eq_empty (Site.bare_made made).1
  · exact fun call _ => Site.carries_positioned _ call indices

/-- What a method returns names only arguments that the method has. -/
theorem run_output_positioned (read : task.method.signature = .ok signature)
    (admits : task.context.Admits
      (Taint.Positioned (argumentIndices task.context.policy task.method signature)))
    (finished : task.run.result = .ok (analysis, summaries)) :
    ∀ output ∈ analysis.output,
      output.Positioned (argumentIndices task.context.policy task.method signature) := by
  rcases run_eq_ok finished with ⟨signature', entry, solver, read', entered, solved, -, outputs, -⟩
  rcases Except.ok.inj (read.symm.trans read')
  have satisfied := (keeps_positioned admits).reaches (satisfied_start (entryFrame_positioned entered))
    (drain_eq_ok solved).1
  rw [outputs]
  exact satisfied.output

/-- An analysis adds at most one summary to the table, that of its own method. -/
theorem run_stores {key : String} {summary : Summary}
    (finished : task.run.result = .ok (analysis, summaries))
    (stored : summaries.get? key = some summary) :
    task.context.summaries.get? key = some summary ∨
      task.method.key = key ∧ ∃ signature returned, task.method.signature = .ok signature ∧
        analysis.output = some returned ∧ summary = derivedSummary signature returned := by
  rcases run_commits finished with ⟨signature, read, -, rfl⟩
  cases offers : task.offered? signature analysis.output with
  | none =>
      rw [offers] at stored
      exact Or.inl stored
  | some fresh =>
      rcases (task.offered?_eq_some_iff signature).1 offers with ⟨returned, isOutput, -, rfl, -⟩
      rw [offers, Option.elim_some, SummaryTable.get?_commit] at stored
      split at stored
      next same =>
        subst same
        cases known : task.context.summaries.get? task.method.key with
        | none =>
            rw [known] at stored
            cases stored
            exact Or.inr ⟨rfl, signature, returned, read, isOutput, rfl⟩
        | some present =>
            rw [known] at stored
            exact Or.inl stored
      next => exact Or.inl stored

end Task

/-! ### Analyses that follow each other -/

/-- Analyse one method after the other. -/
def Session.analyzeAll (session : Session) (codes : List MethodCode) : Session :=
  codes.foldl (fun known code => (known.analyze code).1) session

/-- Every summary in the table is that of one of the methods, and names only arguments that this method
has. -/
def Attributed (policy : Policy) (codes : List MethodCode) (table : SummaryTable) : Prop :=
  ∀ key summary, table.get? key = some summary →
    ∃ code ∈ codes, ∃ signature output, code.method.key = key ∧
      code.method.signature = .ok signature ∧ summary.output = some output ∧
      output.Positioned (argumentIndices policy code.method signature)

variable {declared : Declarations} {codes : List MethodCode} {session : Session}

/-- Whatever the method is, calls can then be described by the table. -/
theorem Attributed.admits {context : Context} (declares : context.policy = declared.policy)
    (attributed : Attributed declared.policy codes context.summaries) (indices : List Nat) :
    context.Admits (Taint.Positioned indices) := by
  refine ⟨?_, ?_, ?_⟩
  · intro frame caller className methodId summary special
    rw [declares] at special
    cases special
  · intro className methodId summary inherited
    rw [declares] at inherited
    cases inherited
  · intro key summary stored template isTemplate
    rcases attributed key summary stored with ⟨code, _, signature, output, -, -, isOutput, positioned⟩
    rcases Option.some.inj (isOutput.symm.trans isTemplate)
    exact positioned.admitted indices

namespace Session

/-- One more analysis leaves every summary with a method. -/
theorem analyze_attributed (declares : session.context.policy = declared.policy)
    (attributed : Attributed declared.policy codes session.summaries) (code : MethodCode) :
    (session.analyze code).1.context.policy = declared.policy ∧
      Attributed declared.policy (codes ++ [code]) (session.analyze code).1.summaries := by
  have among {other : MethodCode} (member : other ∈ codes) : other ∈ codes ++ [code] :=
    List.mem_append_left _ member
  refine ⟨declares, ?_⟩
  intro key summary stored
  match finished : (session.task code).run.result with
  | .ok (analysis, summaries) =>
      rw [summaries_analyze_of_ok finished] at stored
      rcases Task.run_stores finished stored with before | ⟨own, signature, returned, read, output, rfl⟩
      · rcases attributed key summary before with ⟨other, member, told⟩
        exact ⟨other, among member, told⟩
      · have admits := attributed.admits declares
          (argumentIndices declared.policy code.method signature)
        have positioned : returned.Positioned
            (argumentIndices declared.policy code.method signature) := by
          rw [← declares] at admits ⊢
          exact Task.run_output_positioned read admits finished returned output
        exact ⟨code, by simp, signature, _, own, read, rfl, positioned.congr rfl rfl⟩
  | .error failure =>
      rw [summaries_analyze_of_error finished] at stored
      rcases attributed key summary stored with ⟨other, member, told⟩
      exact ⟨other, among member, told⟩

theorem analyzeAll_attributed (declares : session.context.policy = declared.policy)
    (attributed : Attributed declared.policy codes session.summaries) (later : List MethodCode) :
    Attributed declared.policy (codes ++ later) (session.analyzeAll later).summaries := by
  induction later generalizing session codes with
  | nil => simpa [analyzeAll] using attributed
  | cons code rest inductionHypothesis =>
      rcases analyze_attributed declares attributed code with ⟨declaresNext, attributedNext⟩
      have attributedRest := inductionHypothesis declaresNext attributedNext
      rw [List.append_assoc] at attributedRest
      exact attributedRest

end Session

/-- Under any declarations, beginning with an empty table, any methods are analysed in any order, and some
of the analyses may fail. Every summary in the table is then that of one of the methods, and what it says
about the result is that it is tainted or invalid, or else it names only stack indices of the receiver and
of parameters that can carry taint, of a result that is at least unknown if it names any. -/
theorem Declarations.summaries_name_own_arguments {declared : Declarations} {session : Session}
    {codes : List MethodCode} {key : String} {summary : Summary}
    (declares : session.context.policy = declared.policy) (empty : session.summaries = .empty)
    (stored : (session.analyzeAll codes).summaries.get? key = some summary) :
    ∃ code ∈ codes, ∃ signature output, code.method.key = key ∧
      code.method.signature = .ok signature ∧ summary.output = some output ∧
      (output.state = .tainted ∨ output.state = .invalid ∨
        (output.isParametric → .unknown ≤ output.state) ∧
          ∀ index ∈ output.parameters,
            index ∈ argumentIndices declared.policy code.method signature) := by
  have nothing : Attributed declared.policy [] session.summaries := by
    intro other known storedNow
    rw [empty, SummaryTable.get?_empty] at storedNow
    cases storedNow
  rcases Session.analyzeAll_attributed declares nothing codes key summary stored with
    ⟨code, member, signature, output, own, read, isOutput, positioned⟩
  refine ⟨code, member, signature, output, own, read, isOutput, ?_⟩
  rcases positioned with dangerous | named
  · cases state : output.state <;> simp_all [State.le_def, State.danger]
  · exact Or.inr (Or.inr named)

/-- A method that returns the first of two texts. -/
def firstText : MethodCode where
  method := ⟨"Text", "first", "(Ljava/lang/String;Ljava/lang/String;)Ljava/lang/String;", true, 2⟩
  body := .ofList [.load 0 .reference, .return (some .reference)]

/-- A method that calls it with its only argument that can carry taint, which is at another position. -/
def labelledText : MethodCode where
  method := ⟨"Text", "labelled", "(ILjava/lang/String;)Ljava/lang/String;", false, 3⟩
  body := .ofList [
    .load 2 .reference,
    .constant (.string "label"),
    .invoke ⟨.static, "Text", "first", "(Ljava/lang/String;Ljava/lang/String;)Ljava/lang/String;"⟩,
    .return (some .reference)]

/-- The callee names its argument at index one, and the caller its own at index zero. -/
theorem labelledText_names_own_arguments :
    ∃ summary output, ((Session.mk { policy := Declarations.policy {} } ∅ []).analyzeAll
        [firstText, labelledText]).summaries.get? labelledText.method.key = some summary ∧
      summary.output = some output ∧ output.parameters.toList = [0] ∧ output.state = .unknown ∧
      ∃ code ∈ [firstText, labelledText], ∃ signature, code.method.key = labelledText.method.key ∧
        code.method.signature = .ok signature ∧
        0 ∈ argumentIndices (Declarations.policy {}) code.method signature := by
  have derived : ((((Session.mk { policy := Declarations.policy {} } ∅ []).analyzeAll
      [firstText, labelledText]).summaries.get? labelledText.method.key).bind
      fun summary => summary.output.map fun output => (output.parameters.toList, output.state)) =
      some ([0], .unknown) := by
    decide +kernel
  rcases Option.bind_eq_some_iff.1 derived with ⟨summary, stored, told⟩
  rcases Option.map_eq_some_iff.1 told with ⟨output, isOutput, same⟩
  rcases Prod.mk.inj same with ⟨parameters, state⟩
  have named : 0 ∈ output.parameters := by
    rw [← Std.ExtTreeSet.mem_toList, parameters]
    simp
  rcases Declarations.summaries_name_own_arguments rfl rfl stored with
    ⟨code, member, signature, output', own, read, isOutput', tainted | invalid | positions⟩
  · rcases Option.some.inj (isOutput.symm.trans isOutput')
    rw [state] at tainted
    cases tainted
  · rcases Option.some.inj (isOutput.symm.trans isOutput')
    rw [state] at invalid
    cases invalid
  · rcases Option.some.inj (isOutput.symm.trans isOutput')
    exact ⟨summary, output, stored, isOutput, parameters, state, code, member, signature, own, read,
      positions.2 0 named⟩

end TaintFlow
