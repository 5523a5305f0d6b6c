/-
Module: TaintFlow.Proofs.Templates
Purpose: Templates of results that are joined. A template is put together from the arguments of a call, or
  taken as it is, and a join may turn one kind into the other. What a call makes of the join is still the
  merge of what it makes of both sides: the state that the join has whatever the arguments are makes up for
  the side that changed its kind.
Main exports: Taint.Applicable, Taint.Applicable.outcomeUnder_join, Site.state_resultTaint_join
-/
import TaintFlow.Policy.Declarations
import TaintFlow.Proofs.Substitution

namespace TaintFlow

namespace State

theorem tainted_le_or_le_unknown (state : State) : .tainted ≤ state ∨ state ≤ .unknown := by
  cases state <;> decide

/-- Only a contradiction is worse than tainted. -/
theorem le_tainted_iff {state : State} : state ≤ .tainted ↔ state ≠ .invalid := by
  cases state <;> decide

theorem le_merge_iff {bound one two : State} : bound ≤ one.merge two ↔ bound ≤ one ∨ bound ≤ two := by
  simp only [le_def, danger_merge]
  omega

end State

namespace Taint

variable {one two template : Taint} {assigned : Nat → State}

/-! ### One template -/

/-- A template is at least unknown while arguments flow into it, and what it is without them is no
contradiction. -/
structure Applicable (template : Taint) : Prop where
  unknown : template.isParametric → .unknown ≤ template.state
  valid : template.baseState ≠ .invalid

/-- A template that is certainly dangerous is taken as it is. -/
theorem outcomeUnder_of_tainted_le (dangerous : .tainted ≤ template.state) :
    template.outcomeUnder assigned = template.state := by
  unfold outcomeUnder
  rw [if_neg]
  rintro ⟨unknown, -⟩
  rw [unknown] at dangerous
  revert dangerous
  decide

/-- Any other template has its value, whether it is put together from arguments or not. -/
theorem outcomeUnder_of_le_unknown (unknown : template.isParametric → .unknown ≤ template.state)
    (harmless : template.state ≤ .unknown) :
    template.outcomeUnder assigned = template.valueUnder assigned := by
  unfold outcomeUnder
  cases parametric : template.isParametric with
  | true => rw [if_pos ⟨State.le_antisymm harmless (unknown parametric), rfl⟩]
  | false =>
      rw [if_neg (by simp), valueUnder_of_parameters_eq_empty (isParametric_eq_false_iff.1 parametric)]

/-- Valid arguments make a template at most tainted, if it is not more than that by itself. -/
theorem Applicable.valueUnder_le (applicable : template.Applicable) (harmless : template.state ≤ .unknown)
    (valid : ∀ index ∈ template.parameters, assigned index ≠ .invalid) :
    template.valueUnder assigned ≤ .tainted := by
  rw [valueUnder_le_iff]
  refine ⟨?_, fun index named => State.le_tainted_iff.2 (valid index named)⟩
  unfold contribution
  split
  · exact State.le_tainted_iff.2 applicable.valid
  · exact State.le_trans harmless (by decide)

/-- Up to tainted, what a call makes of a template does not differ from what the template says. -/
theorem Applicable.outcomeUnder_merge_tainted (applicable : template.Applicable)
    (valid : ∀ index ∈ template.parameters, assigned index ≠ .invalid) :
    (template.outcomeUnder assigned).merge .tainted = template.state.merge .tainted := by
  rcases State.tainted_le_or_le_unknown template.state with dangerous | harmless
  · rw [outcomeUnder_of_tainted_le dangerous]
  · have value := applicable.valueUnder_le harmless valid
    have state : template.state ≤ .tainted := State.le_trans harmless (by decide)
    rw [outcomeUnder_of_le_unknown applicable.unknown harmless, State.merge_comm,
      State.merge_eq_left_iff.2 value, State.merge_comm, State.merge_eq_left_iff.2 state]

/-! ### Two templates -/

/-- If one of two templates is certainly dangerous, then so is the join, and it is taken as it is: the other
template, even if it is put together from arguments, adds nothing that its state does not say. -/
theorem Applicable.merge_outcomeUnder (first : one.Applicable) (second : two.Applicable)
    (validOne : ∀ index ∈ one.parameters, assigned index ≠ .invalid)
    (validTwo : ∀ index ∈ two.parameters, assigned index ≠ .invalid)
    (dangerous : .tainted ≤ one.state.merge two.state) :
    (one.outcomeUnder assigned).merge (two.outcomeUnder assigned) = one.state.merge two.state := by
  have outcomeDangerous : .tainted ≤ (one.outcomeUnder assigned).merge (two.outcomeUnder assigned) := by
    rw [State.le_merge_iff] at dangerous ⊢
    refine dangerous.imp ?_ ?_
    · intro dangerousOne
      rwa [outcomeUnder_of_tainted_le dangerousOne]
    · intro dangerousTwo
      rwa [outcomeUnder_of_tainted_le dangerousTwo]
  have sameOne := congrArg State.danger (first.outcomeUnder_merge_tainted validOne)
  have sameTwo := congrArg State.danger (second.outcomeUnder_merge_tainted validTwo)
  apply State.danger_inj
  simp only [State.le_def, State.danger_merge] at *
  omega

/-- What a call makes of a join is the merge of what it makes of both sides. -/
theorem Applicable.outcomeUnder_join (first : one.Applicable) (second : two.Applicable)
    (validOne : ∀ index ∈ one.parameters, assigned index ≠ .invalid)
    (validTwo : ∀ index ∈ two.parameters, assigned index ≠ .invalid) :
    (one.join two).outcomeUnder assigned =
      (one.outcomeUnder assigned).merge (two.outcomeUnder assigned) := by
  rcases State.tainted_le_or_le_unknown (one.join two).state with dangerous | harmless
  · rw [outcomeUnder_of_tainted_le dangerous]
    exact (first.merge_outcomeUnder second validOne validTwo dangerous).symm
  · have unknown (parametric : (one.join two).isParametric) : .unknown ≤ (one.join two).state := by
      rw [isParametric_join, Bool.or_eq_true] at parametric
      exact State.le_merge_iff.2 (parametric.imp first.unknown second.unknown)
    -- Neither side is more than unknown, so that all three have their values.
    rcases State.merge_le_iff.1 harmless with ⟨harmlessOne, harmlessTwo⟩
    rw [outcomeUnder_of_le_unknown unknown harmless,
      outcomeUnder_of_le_unknown first.unknown harmlessOne,
      outcomeUnder_of_le_unknown second.unknown harmlessTwo, valueUnder_join]

end Taint

/-! ### Calls -/

/-- The state of the word at a stack index, and safe where there is none. -/
def Frame.stateAt (frame : Frame) (index : Nat) : State :=
  frame.stack[index]?.elim .safe Taint.state

theorem Frame.stateAt_ne_invalid {frame : Frame} (valid : ∀ word ∈ frame.stack, word.state ≠ .invalid)
    (index : Nat) : frame.stateAt index ≠ .invalid := by
  unfold Frame.stateAt
  cases found : frame.stack[index]? with
  | none => simp
  | some word => exact valid word (List.mem_of_getElem? found)

namespace Site

variable {frame : Frame} {template one two : Taint} {summary : Summary}

/-- The result of a call that a template describes is what the words on the stack make of the template. -/
theorem state_resultTaint (site : Site) (output : summary.output = some template)
    (there : ∀ index ∈ template.parameters, index < frame.depth) :
    ∃ result, site.resultTaint frame (some summary) = .ok result ∧
      result.state = template.outcomeUnder frame.stateAt := by
  have words (index : Nat) (named : index ∈ template.parameters) :
      ∃ word, frame.peek index = .ok word ∧ word.state = frame.stateAt index := by
    have found := List.getElem?_eq_getElem (there index named)
    exact ⟨_, Frame.peek_eq_ok_iff.2 found, by rw [Frame.stateAt, found]; rfl⟩
  unfold resultTaint
  rw [Option.bind_some, output]
  exact Taint.state_instantiate words site.location

/-- A call whose result is described by the join of two templates has a result as dangerous as the results
that the two templates describe together. -/
theorem state_resultTaint_join (site : Site) {summaryOne summaryTwo : Summary}
    (outputOne : summaryOne.output = some one) (outputTwo : summaryTwo.output = some two)
    (output : summary.output = some (one.join two))
    (applicableOne : one.Applicable) (applicableTwo : two.Applicable)
    (there : ∀ index, index ∈ one.parameters ∨ index ∈ two.parameters → index < frame.depth)
    (valid : ∀ word ∈ frame.stack, word.state ≠ .invalid) :
    ∃ resultOne resultTwo result, site.resultTaint frame (some summaryOne) = .ok resultOne ∧
      site.resultTaint frame (some summaryTwo) = .ok resultTwo ∧
      site.resultTaint frame (some summary) = .ok result ∧
      result.state = resultOne.state.merge resultTwo.state := by
  rcases site.state_resultTaint outputOne fun index named => there index (Or.inl named) with
    ⟨resultOne, resultedOne, stateOne⟩
  rcases site.state_resultTaint outputTwo fun index named => there index (Or.inr named) with
    ⟨resultTwo, resultedTwo, stateTwo⟩
  rcases site.state_resultTaint output fun index named =>
    there index (Std.ExtTreeSet.mem_union_iff.1 named) with ⟨result, resulted, state⟩
  refine ⟨resultOne, resultTwo, result, resultedOne, resultedTwo, resulted, ?_⟩
  rw [state, stateOne, stateTwo]
  exact applicableOne.outcomeUnder_join applicableTwo
    (fun index _ => Frame.stateAt_ne_invalid valid index)
    fun index _ => Frame.stateAt_ne_invalid valid index

end Site

/-- A place at which a method is called that returns its argument, or something of which nothing is known. -/
def echoingSite : Site :=
  ⟨{ policy := Declarations.policy {} }, ⟨"Web", "reply", "()Ljava/lang/String;", true, 0⟩, 1⟩

/-- A frame in which the argument is a literal. -/
def echoedLiteral : Frame :=
  ⟨[], [.constant "x"]⟩

/-- Joined with a template of which nothing is known, the literal no longer makes the result safe, although
the join is still put together from the argument. -/
theorem echoingSite_joins_templates :
    ∃ resultOne resultTwo result,
      echoingSite.resultTaint echoedLiteral (some (.derived (.parametric [0]))) = .ok resultOne ∧
      echoingSite.resultTaint echoedLiteral (some (.derived .unknown)) = .ok resultTwo ∧
      echoingSite.resultTaint echoedLiteral (some (.derived ((Taint.parametric [0]).join .unknown))) =
        .ok result ∧
      resultOne.state = .safe ∧ resultTwo.state = .unknown ∧ result.state = .unknown := by
  have output (template : Taint) : (Summary.derived template).output = some template := rfl
  have applicable : (Taint.parametric [0]).Applicable := ⟨fun _ => State.le_refl _, by decide⟩
  have applicable' : Taint.unknown.Applicable := ⟨fun _ => State.le_refl _, by decide⟩
  have there (index : Nat) (named : index ∈ (Taint.parametric [0]).parameters ∨
      index ∈ Taint.unknown.parameters) : index < echoedLiteral.depth := by
    have only : 0 = index := by simpa [Taint.parametric, Taint.unknown, Taint.of] using named
    rw [← only]
    decide
  have valid : ∀ word ∈ echoedLiteral.stack, word.state ≠ .invalid := by decide
  rcases Site.state_resultTaint_join echoingSite (output _) (output _) (output _) applicable applicable'
    there valid with ⟨resultOne, resultTwo, result, resultedOne, resultedTwo, resulted, state⟩
  have safe : (echoingSite.resultTaint echoedLiteral
      (some (.derived (.parametric [0])))).toOption.map Taint.state = some .safe := by
    decide
  have unknown : (echoingSite.resultTaint echoedLiteral (some (.derived .unknown))).toOption.map
      Taint.state = some .unknown := by
    decide
  rw [resultedOne] at safe
  rw [resultedTwo] at unknown
  have stateOne : resultOne.state = .safe := Option.some.inj safe
  have stateTwo : resultTwo.state = .unknown := Option.some.inj unknown
  refine ⟨resultOne, resultTwo, result, resultedOne, resultedTwo, resulted, stateOne, stateTwo, ?_⟩
  rw [state, stateOne, stateTwo]
  rfl

end TaintFlow
