/-
Module: TaintFlow.Proofs.Inlining
Purpose: A summary means what inlining means. Code without calls and stores to arrays is analysed twice,
  with symbolic arguments and with arguments in given states; putting these states into the symbolic
  result gives the other one, whatever the loops in the code are.
Main exports: Body.isPlain, Task.keeps_all, Task.solve_below, Task.summary_means_inlining
-/
import TaintFlow.Proofs.Equations
import TaintFlow.Proofs.Substitution

namespace TaintFlow

/-! ### Code without calls -/

/-- No instruction of the body calls a method or stores to an array. -/
def Body.isPlain (body : Body) : Bool :=
  body.nodes.toList.all fun (_, node) => node.instruction.isPlain

theorem Body.isPlain_instruction {body : Body} {offset : Offset} {instruction : Instruction}
    (plain : body.isPlain) (code : body.instruction? offset = some instruction) :
    instruction.isPlain := by
  obtain ⟨node, found, rfl⟩ := Option.map_eq_some_iff.1 code
  have listed : (offset, node) ∈ body.nodes.toList :=
    Std.ExtTreeMap.mem_toList_iff_getElem?_eq_some.2 found
  exact List.all_eq_true.1 plain (offset, node) listed

/-- No argument flows into what an instruction makes out of nothing, and nothing vouches for it. -/
theorem Site.bare_made {site : Site} {instruction : Instruction} {taint : Taint}
    (made : taint ∈ site.made instruction) : taint.parameters = ∅ ∧ taint.tags = ∅ := by
  have remarked (words : Unit → String) (known : Taint) :
      (site.remark words known).parameters = known.parameters ∧
        (site.remark words known).tags = known.tags := by
    unfold Site.remark
    split
    · exact ⟨rfl, rfl⟩
    · exact ⟨rfl, rfl⟩
  cases instruction <;> cases made
  case constant.refl literal =>
    rw [Site.constantTaint, (remarked _ _).1, (remarked _ _).2]
    cases literal <;> exact ⟨rfl, rfl⟩
  case getField.refl field isStatic =>
    rw [Site.fieldTaint, (remarked _ _).1, (remarked _ _).2]
    dsimp only [Taint.addSource]
    split
    · exact ⟨rfl, rfl⟩
    · exact ⟨rfl, rfl⟩
  case new.refl className => exact remarked _ _
  case newArray.refl => exact remarked _ _
  case checkCast.refl => exact remarked _ _
  all_goals exact ⟨rfl, rfl⟩

namespace Task

variable {task : Task} {entry entry' : Frame} {solver solver' : Solver} {holds : Taint → Prop}

/-- What single facts keep, the frames of plain code keep. -/
theorem keeps_all (plain : task.body.isPlain) (closed : Closed holds)
    (makes : ∀ taint, taint.parameters = ∅ → taint.tags = ∅ → holds taint) :
    task.Keeps (fun _ frame => frame.All holds) holds := by
  apply keeps_of_closed closed
  intro offset instruction frame step code all acted
  have madeHolds (taint : Taint) (made : taint ∈ (task.site offset).made instruction) : holds taint :=
    makes taint (Site.bare_made made).1 (Site.bare_made made).2
  exact Site.step_all closed (Body.isPlain_instruction plain code) madeHolds all acted

/-! ### Two analyses of the same code -/

/-- What one analysis ends with is a bound for every step of another one. -/
theorem keeps_below {assigned : Nat → State} {bound : Solver} (plain : task.body.isPlain)
    (consistent : task.Consistent bound) (nothingPending : bound.pending = ∅) :
    task.Keeps
      (fun offset frame => ∃ upper, bound.frames[offset]? = some upper ∧ frame.Below assigned upper)
      (fun taint => ∃ upper, bound.output = some upper ∧ taint.Below assigned upper) := by
  have stepped {offset : Offset} {instruction : Instruction} {frame upper : Frame} {step : Step}
      (code : task.body.instruction? offset = some instruction)
      (reached : bound.frames[offset]? = some upper) (below : frame.Below assigned upper)
      (acted : ((task.site offset).step instruction frame).result = .ok step) :
      ∃ upperStep, task.SolvedAt bound offset instruction upperStep upper ∧
        step.frame.Below assigned upperStep.frame ∧
        Option.Rel (Taint.Below assigned) step.returned upperStep.returned := by
    obtain ⟨instruction', upperStep, solvedAt⟩ :=
      consistent offset upper reached (by simp [nothingPending])
    obtain rfl : instruction = instruction' := Option.some.inj (code.symm.trans solvedAt.code)
    have related := Site.step_related (congruence_below assigned).respected
      (Body.isPlain_instruction plain code) (fun taint _ => Taint.below_of_eq rfl) below acted
      solvedAt.acted
    exact ⟨upperStep, solvedAt, related⟩
  constructor
  · rintro offset frame other joined changed ⟨upper, reached, below⟩ ⟨upper', reached', below'⟩ met
    obtain rfl : upper = upper' := Option.some.inj (reached.symm.trans reached')
    exact ⟨upper, reached, below.join below' met⟩
  · rintro offset instruction frame step code ⟨upper, reached, below⟩ acted target member
    obtain ⟨upperStep, solvedAt, belowStep, -⟩ := stepped code reached below acted
    obtain ⟨next, reachedNext, covers⟩ := solvedAt.covered target member
    exact ⟨next, reachedNext, belowStep.trans covers.below⟩
  · rintro offset instruction frame step code ⟨upper, reached, below⟩ acted taint returned
    obtain ⟨upperStep, solvedAt, -, belowReturned⟩ := stepped code reached below acted
    rw [Option.mem_def.1 returned] at belowReturned
    obtain ⟨upperTaint, given, belowTaint⟩ := Site.exists_of_returned belowReturned
    obtain ⟨output, known, covers⟩ := solvedAt.given upperTaint given
    exact ⟨output, known, belowTaint.trans covers.below⟩
  · rintro one two ⟨upper, known, first⟩ ⟨upper', known', second⟩
    obtain rfl : upper = upper' := Option.some.inj (known.symm.trans known')
    exact ⟨upper, known, first.join second⟩

/-- Facts on entry that are no more dangerous lead to results that are no more dangerous, although the
two analyses may visit locations in different orders and different numbers of times. -/
theorem solve_below {assigned : Nat → State} (plain : task.body.isPlain)
    (below : entry.Below assigned entry') (solved : (task.solve entry).result = .ok solver)
    (solved' : (task.solve entry').result = .ok solver') :
    ∀ output ∈ solver.output,
      ∃ output', solver'.output = some output' ∧ output.Below assigned output' := by
  obtain ⟨reaches, -⟩ := drain_eq_ok solved
  obtain ⟨reaches', nothingPending⟩ := drain_eq_ok solved'
  have consistent : task.Consistent solver' := reaches'.consistent (consistent_start _ _)
  obtain ⟨upper, reached, ascends⟩ := reaches'.entry_ascends
  have entryBelow : entry.Below assigned upper := below.trans ascends.covers.below
  have satisfied := (keeps_below plain consistent nothingPending).reaches
    (satisfied_start ⟨upper, reached, entryBelow⟩) reaches
  exact satisfied.output

/-- Only arguments that are known on entry flow into what an analysis of plain code ends with. -/
theorem solve_symbolic {indices : List Nat} (plain : task.body.isPlain)
    (entered : entry.All (Taint.Symbolic indices)) (solved : (task.solve entry).result = .ok solver) :
    ∀ output ∈ solver.output, output.Symbolic indices := by
  obtain ⟨reaches, -⟩ := drain_eq_ok solved
  have keeps := task.keeps_all plain (Taint.closed_symbolic indices)
    fun _ noArgument _ => Taint.symbolic_of_parameters_eq_empty noArgument
  exact (keeps.reaches (satisfied_start entered) reaches).output

end Task

/-! ### Arguments on entry -/

section Arguments

variable {policy : Policy} {method : Method} {signature : Signature} {assigned : Nat → State}
  {entry entry' : Frame}

theorem mem_parameters_argumentTaint {name : String} {index other : Nat} :
    other ∈ (argumentTaint method name index).parameters ↔ other = index := by
  have members : other ∈ (argumentTaint method name index).parameters ↔ [index].contains other :=
    Std.ExtTreeSet.mem_ofList
  simpa using members

theorem isParametric_argumentTaint (name : String) (index : Nat) :
    (argumentTaint method name index).isParametric = true := by
  rw [← Bool.not_eq_false, Taint.isParametric_eq_false_iff]
  intro nothing
  have member : index ∈ (argumentTaint method name index).parameters :=
    mem_parameters_argumentTaint.2 rfl
  simp [nothing] at member

/-- A symbolic argument has the value that is assigned to it. -/
theorem valueUnder_argumentTaint (name : String) (index : Nat) :
    (argumentTaint method name index).valueUnder assigned = assigned index := by
  have contributed : (argumentTaint method name index).contribution = .safe := by
    rw [Taint.contribution, if_pos (isParametric_argumentTaint name index)]
    rfl
  apply State.eq_of_le_iff
  intro bound
  rw [Taint.valueUnder_le_iff, contributed]
  simp [mem_parameters_argumentTaint, State.le_def, State.danger]

theorem symbolic_argumentTaint {indices : List Nat} (name : String) (index : Nat)
    (known : index ∈ indices) :
    (argumentTaint method name index).Symbolic indices where
  known other member := by
    rw [mem_parameters_argumentTaint.1 member]
    exact known
  state parametric := by
    rw [Taint.contribution, if_pos parametric]
    rfl

theorem entryFrame_symbolic (entered : entryFrame policy method signature = .ok entry) :
    entry.All (Taint.Symbolic (argumentIndices policy method signature)) :=
  calledFrame_all (fun _ _ symbolic => symbolic.alike Taint.alike_relabel)
    (Taint.symbolic_of_parameters_eq_empty rfl)
    (forall_mem_entryTaints (Taint.symbolic_of_parameters_eq_empty rfl) symbolic_argumentTaint) entered

/-- No argument is symbolic if each is known by its state. -/
theorem calledFrame_plain
    (called : calledFrame policy method signature (fun _ index => .of (assigned index)) = .ok entry) :
    entry.All (Taint.Symbolic []) :=
  calledFrame_all (fun _ _ symbolic => symbolic.alike Taint.alike_relabel)
    (Taint.symbolic_of_parameters_eq_empty rfl)
    (forall_mem_entryTaints (Taint.symbolic_of_parameters_eq_empty rfl)
      fun _ _ _ => Taint.symbolic_of_parameters_eq_empty rfl)
    called

/-- The two ways to enter a method have the same values in all cells. -/
theorem entryFrame_below (entered : entryFrame policy method signature = .ok entry)
    (called : calledFrame policy method signature (fun _ index => .of (assigned index)) = .ok entry') :
    entry.Below assigned entry' ∧ entry'.Below assigned entry := by
  have bound (one two : Taint) (slot : Nat) (below : one.Below assigned two) :
      Taint.Below assigned { one with slot := some slot } { two with slot := some slot } :=
    (congruence_below assigned).alike below Taint.alike_relabel Taint.alike_relabel
  have same (name : String) (index : Nat) :
      (argumentTaint method name index).valueUnder assigned =
        (Taint.of (assigned index)).valueUnder assigned := by
    rw [valueUnder_argumentTaint, Taint.valueUnder_of_parameters_eq_empty rfl]
    rfl
  refine ⟨calledFrame_related bound (Taint.below_of_eq rfl) (forall₂_entryTaints ?_ ?_) entered called,
    calledFrame_related bound (Taint.below_of_eq rfl) (forall₂_entryTaints ?_ ?_) called entered⟩
  · exact Taint.below_of_eq rfl
  · exact fun name index _ => Taint.below_of_eq (same name index)
  · exact Taint.below_of_eq rfl
  · exact fun name index _ => Taint.below_of_eq (same name index).symm

end Arguments

/-! ### Summaries and inlining -/

/-- Code without calls and stores to arrays is analysed with symbolic arguments, and again with
arguments of given states, none of them invalid. If both analyses succeed, then both or neither return
something, and a call that is described by what the first one returned, at which the words have these
states, has a result in the very state that the second one returned. -/
theorem Task.summary_means_inlining {task : Task} {signature : Signature} {assigned : Nat → State}
    {entry entry' : Frame} {solver solver' : Solver} (plain : task.body.isPlain)
    (valid : ∀ index ∈ argumentIndices task.context.policy task.method signature,
      assigned index ≠ .invalid)
    (entered : entryFrame task.context.policy task.method signature = .ok entry)
    (called : calledFrame task.context.policy task.method signature
      (fun _ index => .of (assigned index)) = .ok entry')
    (solved : (task.solve entry).result = .ok solver)
    (solved' : (task.solve entry').result = .ok solver') :
    (solver.output.isSome ↔ solver'.output.isSome) ∧
      ∀ output ∈ solver.output, ∀ inlined ∈ solver'.output,
        ∀ (site : Site) (caller : Frame) (summary : Summary), summary.output = some output →
        (∀ index ∈ argumentIndices task.context.policy task.method signature,
          ∃ word, caller.peek index = .ok word ∧ word.state = assigned index) →
        ∃ result, site.resultTaint caller (some summary) = .ok result ∧
          result.state = inlined.state := by
  obtain ⟨below, above⟩ := entryFrame_below entered called
  have bounded := solve_below plain below solved solved'
  have bounding := solve_below plain above solved' solved
  refine ⟨⟨?_, ?_⟩, ?_⟩
  · intro present
    obtain ⟨output, known⟩ := Option.isSome_iff_exists.1 present
    obtain ⟨inlined, knownInlined, -⟩ := bounded output known
    simp [knownInlined]
  · intro present
    obtain ⟨inlined, known⟩ := Option.isSome_iff_exists.1 present
    obtain ⟨output, knownOutput, -⟩ := bounding inlined known
    simp [knownOutput]
  · intro output known inlined knownInlined site caller summary summarized words
    have value : output.valueUnder assigned = inlined.valueUnder assigned := by
      obtain ⟨inlined', known', lower⟩ := bounded output known
      obtain ⟨output', known'', upper⟩ := bounding inlined knownInlined
      obtain rfl : inlined = inlined' := Option.some.inj (knownInlined.symm.trans known')
      obtain rfl : output = output' := Option.some.inj (known.symm.trans known'')
      exact State.le_antisymm lower upper
    have inlinedState : inlined.valueUnder assigned = inlined.state :=
      (solve_symbolic plain (calledFrame_plain called) solved' inlined
        knownInlined).valueUnder_eq_state
    have symbolic := solve_symbolic plain (entryFrame_symbolic entered) solved output known
    obtain ⟨result, instantiated, resultState⟩ := symbolic.instantiate valid words site.location
    refine ⟨result, ?_, ?_⟩
    · simp [Site.resultTaint, summarized, instantiated]
    · rw [resultState, value, inlinedState]

/-- A method that puts its first argument behind its second one again and again. -/
def fillingLoop : Task where
  context := { policy := Declarations.policy {} }
  method := ⟨"Text", "fill", "(Ljava/lang/String;Ljava/lang/String;)Ljava/lang/String;", true, 2⟩
  body := Body.addEdge (.ofList [
    .load 1 .reference,
    .load 0 .reference,
    .concat 2,
    .store 1 .reference,
    .load 1 .reference,
    .return (some .reference)]) 3 0

/-- The signature of that method. -/
def fillingSignature : Signature :=
  ⟨["Ljava/lang/String;", "Ljava/lang/String;"], "Ljava/lang/String;"⟩

/-- What an analysis returns, from the facts that hold on entry. -/
def Task.outputFrom (task : Task) (entered : Except Fault Frame) : Option Taint :=
  entered.toOption.bind fun entry => (task.solve entry).result.toOption.bind Solver.output

theorem Task.outputFrom_eq_some_iff {task : Task} {entered : Except Fault Frame} {output : Taint} :
    task.outputFrom entered = some output ↔
      ∃ entry, entered = .ok entry ∧ ∃ solver, (task.solve entry).result = .ok solver ∧
        solver.output = some output := by
  simp [outputFrom, Option.bind_eq_some_iff, toOption_eq_some_iff]

/-- Called with a tainted text and null, the loop returns a tainted text, and so says its summary. -/
theorem fillingLoop_summary_means_inlining :
    ∃ output inlined result,
      fillingLoop.outputFrom (entryFrame fillingLoop.context.policy fillingLoop.method
        fillingSignature) = some output ∧
      fillingLoop.outputFrom (calledFrame fillingLoop.context.policy fillingLoop.method
        fillingSignature fun _ index => .of (if index = 0 then .null else .tainted)) = some inlined ∧
      (fillingLoop.site 0).resultTaint ⟨[], [.null, .tainted]⟩ (some (.derived output)) = .ok result ∧
      result.state = inlined.state ∧ inlined.state = .tainted := by
  have symbolicReturns : (fillingLoop.outputFrom (entryFrame fillingLoop.context.policy
      fillingLoop.method fillingSignature)).isSome := by
    decide +kernel
  have inlinedReturns : (fillingLoop.outputFrom (calledFrame fillingLoop.context.policy
      fillingLoop.method fillingSignature
      fun _ index => .of (if index = 0 then .null else .tainted))).map Taint.state = some .tainted := by
    decide +kernel
  have words : ∀ index ∈ argumentIndices fillingLoop.context.policy fillingLoop.method fillingSignature,
      ∃ word, Frame.peek ⟨[], [.null, .tainted]⟩ index = .ok word ∧
        word.state = if index = 0 then .null else .tainted := by
    have indices : argumentIndices fillingLoop.context.policy fillingLoop.method fillingSignature =
        [1, 0] := by
      decide
    rw [indices, List.forall_mem_cons, List.forall_mem_singleton]
    exact ⟨⟨.tainted, rfl, rfl⟩, ⟨.null, rfl, rfl⟩⟩
  obtain ⟨output, returned⟩ := Option.isSome_iff_exists.1 symbolicReturns
  obtain ⟨inlined, returned', tainted⟩ := Option.map_eq_some_iff.1 inlinedReturns
  obtain ⟨entry, entered, solver, solved, known⟩ := Task.outputFrom_eq_some_iff.1 returned
  obtain ⟨entry', called, solver', solved', known'⟩ := Task.outputFrom_eq_some_iff.1 returned'
  obtain ⟨result, resulted, sameState⟩ := (Task.summary_means_inlining (by decide) (by decide) entered
    called solved solved').2 output known inlined known' (fillingLoop.site 0) ⟨[], [.null, .tainted]⟩
    (.derived output) rfl words
  exact ⟨output, inlined, result, returned, returned', resulted, sameState, tainted⟩

end TaintFlow
