/-
Module: TaintFlow.Proofs.Outputs
Purpose: What the output of an analysis is made of. Every visit of a return adds the word on top of the stack
  as it is then, also on visits whose facts are not the final ones. Frames only grow, so that all these words
  are covered by the ones in the final frames: the output is the join of these, in whatever order.
Main exports: Taint.combineAll, Taint.Covers.antisymm, Body.ListsReturns, Task.OutputCovered,
  Task.Reaches.outputCovered, Task.output_is_join_of_returns
-/
import TaintFlow.Proofs.Reachability

namespace TaintFlow

/-! ### Joins of many facts -/

namespace Taint

variable {one two upper fact : Taint} {facts : List Taint}

/-- Two facts that add nothing to each other differ only in tags that do not last. -/
theorem Covers.antisymm (first : one.Covers two) (second : two.Covers one) :
    one.join one ≈ two.join two :=
  calc one.join one
    _ ≈ one.join two := Equiv.symm first
    _ ≈ two.join one := join_comm _ _
    _ ≈ two.join two := second

/-- Facts that add nothing one by one add nothing together. -/
theorem Covers.join (first : upper.Covers one) (second : upper.Covers two) :
    upper.Covers (one.join two) :=
  calc upper.join (one.join two)
    _ ≈ (upper.join one).join two := Equiv.symm (join_assoc _ _ _)
    _ ≈ (upper.join upper).join two := Equiv.join first (Equiv.refl _)
    _ ≈ upper.join two := join_self_join _ _
    _ ≈ upper.join upper := second

theorem Covers.combine {known more : Option Taint} (before : ∀ taint ∈ known, upper.Covers taint)
    (added : ∀ taint ∈ more, upper.Covers taint) : ∀ taint ∈ combine known more, upper.Covers taint := by
  cases known with
  | none => exact added
  | some first =>
      cases more with
      | none => exact before
      | some second =>
          rintro taint ⟨⟩
          exact (before first rfl).join (added second rfl)

/-- The join of some facts, if there are any. -/
def combineAll : List Taint → Option Taint
  | [] => none
  | fact :: others => combine (some fact) (combineAll others)

/-- To the join of some facts, none of them adds anything. -/
theorem exists_combineAll_covers (member : fact ∈ facts) :
    ∃ joined, combineAll facts = some joined ∧ joined.Covers fact := by
  induction facts with
  | nil => cases member
  | cons first others inductionHypothesis =>
      rcases List.mem_cons.1 member with rfl | later
      · exact combine_covers_left (combineAll others) rfl
      · rcases inductionHypothesis later with ⟨joined, found, covers⟩
        rcases combine_covers_right (some first) joined with ⟨combined, combines, coversJoined⟩
        refine ⟨combined, ?_, coversJoined.trans covers⟩
        rw [combineAll, found]
        exact combines

theorem covers_combineAll (covers : ∀ fact ∈ facts, upper.Covers fact) :
    ∀ joined ∈ combineAll facts, upper.Covers joined := by
  induction facts with
  | nil =>
      intro joined member
      cases member
  | cons first others inductionHypothesis =>
      rw [List.forall_mem_cons] at covers
      refine Covers.combine ?_ (inductionHypothesis covers.2)
      rintro taint ⟨⟩
      exact covers.1

end Taint

/-! ### What locations return -/

/-- The instruction ends the method with a value. -/
def Instruction.returnsValue : Instruction → Bool
  | .return (some _) => true
  | _ => false

/-- Control can come to the location, and leaves the method there with a value. -/
def Body.ReturnsAt (body : Body) (offset : Offset) : Prop :=
  body.Reachable offset ∧ (body.instruction? offset).any Instruction.returnsValue

/-- The locations are the ones at which control leaves the method with a value, in some order. -/
def Body.ListsReturns (body : Body) (offsets : List Offset) : Prop :=
  ∀ offset, offset ∈ offsets ↔ body.ReturnsAt offset

theorem Body.exists_listsReturns (body : Body) : ∃ offsets, body.ListsReturns offsets := by
  classical
  refine ⟨(body.nodes.toList.map Prod.fst).filter fun offset => body.ReturnsAt offset, ?_⟩
  intro offset
  rw [List.mem_filter, decide_eq_true_iff]
  refine ⟨And.right, fun returnsAt => ⟨?_, returnsAt⟩⟩
  rcases (Option.any_eq_true _ _).1 returnsAt.2 with ⟨instruction, code, -⟩
  rcases Option.map_eq_some_iff.1 code with ⟨node, found, -⟩
  exact List.mem_map.2 ⟨(offset, node), Std.ExtTreeMap.mem_toList_iff_getElem?_eq_some.2 found, rfl⟩

/-- The word on top of the stack right before a location. -/
def topAt? (frames : Std.ExtTreeMap Offset Frame) (offset : Offset) : Option Taint :=
  frames[offset]?.bind fun frame => frame.stack[0]?

/-- An instruction returns the word on top of the stack, or nothing. -/
theorem Site.step_returns {site : Site} {instruction : Instruction} {frame : Frame} {step : Step}
    (acted : (site.step instruction frame).result = .ok step) :
    (instruction.returnsValue = true ∧ ∃ top, frame.stack[0]? = some top ∧ step.returned = some top) ∨
      (instruction.returnsValue = false ∧ step.returned = none) := by
  rw [result_step] at acted
  cases instruction with
  | constant literal =>
      cases acted
      exact Or.inr ⟨rfl, rfl⟩
  | new className =>
      cases acted
      exact Or.inr ⟨rfl, rfl⟩
  | «return» kind =>
      cases kind with
      | none =>
          cases acted
          exact Or.inr ⟨rfl, rfl⟩
      | some kind =>
          rcases giveBack_eq_ok_iff.1 acted with ⟨top, peeked, words, rest, -, rfl⟩
          exact Or.inl ⟨rfl, top, Frame.peek_eq_ok_iff.1 peeked, rfl⟩
  | _ =>
      rcases act_eq_ok acted with ⟨after, -, rfl⟩
      exact Or.inr ⟨rfl, rfl⟩

namespace Task

variable {task : Task} {offset : Offset} {entry : Frame} {solver before after : Solver} {word : Taint}

/-- With the facts of the solver, some location returns the given word. -/
inductive Hands (task : Task) (solver : Solver) (word : Taint) : Prop where
  | intro {offset : Offset} (returns : (task.body.instruction? offset).any Instruction.returnsValue)
      (top : topAt? solver.frames offset = some word) : Hands task solver word

/-- What has been returned so far says no more than what would be returned with the facts that there are
now: whatever covers all that these facts return covers the output. -/
def OutputCovered (task : Task) (solver : Solver) : Prop :=
  ∀ upper : Taint, (∀ word, task.Hands solver word → upper.Covers word) →
    ∀ taint ∈ solver.output, upper.Covers taint

theorem outputCovered_start (entry : Offset) (frame : Frame) :
    task.OutputCovered (.start entry frame) := by
  intro upper _ taint member
  cases member

/-- What would be returned before more facts are taken in is covered by what would be returned then. -/
theorem Hands.grows (hands : task.Hands before word) (grows : before.Grows after) :
    ∃ later, task.Hands after later ∧ later.Covers word := by
  rcases hands with ⟨returns, top⟩
  rcases Option.bind_eq_some_iff.1 top with ⟨frame, reached, there⟩
  rcases grows.frames _ frame reached with ⟨later, reachedLater, ascends⟩
  rcases forall₂_exists_getElem? ascends.covers.flip.stack there with ⟨above, thereLater, covers⟩
  exact ⟨above, .intro returns (Option.bind_eq_some_iff.2 ⟨later, reachedLater, thereLater⟩), covers⟩

/-- A visit adds to the output what its location returns, and the frames from which that and everything
before it was returned have only grown. -/
theorem OutputCovered.visits (covered : task.OutputCovered before)
    (visits : task.Visits offset before after) : task.OutputCovered after := by
  rcases visits with @⟨instruction, frame, step, code, reached, acted, -, received⟩
  intro upper coversAll
  have coversBefore (word : Taint) (hands : task.Hands before word) : upper.Covers word := by
    have taken : task.Hands ((before.take offset).giveBack step.returned) word :=
      hands.casesOn fun returns top => .intro returns top
    rcases taken.grows received.grows with ⟨later, handsLater, covers⟩
    exact (coversAll later handsLater).trans covers
  rw [received.grows.output]
  refine Taint.Covers.combine (covered upper coversBefore) ?_
  intro taint returned
  rcases Site.step_returns acted with ⟨returns, top, there, given⟩ | ⟨-, nothing⟩
  · rw [given] at returned
    cases returned
    exact coversBefore taint (.intro (by rw [code]; exact returns)
      (Option.bind_eq_some_iff.2 ⟨frame, reached, there⟩))
  · rw [nothing] at returned
    cases returned

theorem Reaches.outputCovered (covered : task.OutputCovered before) (reaches : task.Reaches before after) :
    task.OutputCovered after := by
  induction reaches with
  | refl => exact covered
  | tail _ advances inductionHypothesis =>
      rcases advances with ⟨offset, -, visits⟩
      exact inductionHypothesis.visits visits

/-- Something is returned only at locations that control can reach. -/
theorem keeps_returns (task : Task) :
    task.Keeps (fun offset _ => task.body.Reachable offset)
      (fun _ => ∃ offset, task.body.ReturnsAt offset) where
  meets reachable _ _ := reachable
  flows _ reachable _ _ edge := reachable.successor edge
  returns {offset _ _ _} code reachable acted taint returned := by
    rcases Site.step_returns acted with ⟨returns, -⟩ | ⟨-, nothing⟩
    · exact ⟨offset, reachable, by rw [code]; exact returns⟩
    · rw [nothing] at returned
      cases returned
  combines first _ := first

/-! ### Finished runs -/

/-- In the end, every location that control can leave the method from has a word to return. -/
theorem Finishes.exists_top (finishes : task.Finishes entry solver)
    (returnsAt : task.body.ReturnsAt offset) : ∃ top, topAt? solver.frames offset = some top := by
  rcases returnsAt with ⟨reachable, returns⟩
  rcases (finishes.reached_iff offset).2 reachable with ⟨frame, reached⟩
  rcases finishes.solved reached with ⟨instruction, step, solved⟩
  rw [solved.code] at returns
  rcases Site.step_returns solved.acted with ⟨-, top, there, -⟩ | ⟨nothing, -⟩
  · exact ⟨top, Option.bind_eq_some_iff.2 ⟨frame, reached, there⟩⟩
  · have returnsNothing : false = true := nothing.symm.trans returns
    cases returnsNothing

theorem Finishes.hands_iff (finishes : task.Finishes entry solver) :
    task.Hands solver word ↔
      ∃ offset, task.body.ReturnsAt offset ∧ topAt? solver.frames offset = some word := by
  constructor
  · rintro @⟨offset, returns, top⟩
    rcases Option.bind_eq_some_iff.1 top with ⟨frame, reached, -⟩
    exact ⟨offset, ⟨(finishes.reached_iff offset).1 ⟨frame, reached⟩, returns⟩, top⟩
  · rintro ⟨offset, ⟨-, returns⟩, top⟩
    exact .intro returns top

/-- The output covers whatever is returned in the end. -/
theorem Finishes.output_covers (finishes : task.Finishes entry solver) (hands : task.Hands solver word) :
    ∃ output, solver.output = some output ∧ output.Covers word := by
  rcases hands with @⟨offset, returns, top⟩
  rcases Option.bind_eq_some_iff.1 top with ⟨frame, reached, there⟩
  rcases finishes.solved reached with ⟨instruction, step, solved⟩
  rw [solved.code] at returns
  rcases Site.step_returns solved.acted with ⟨-, given, isTop, returned⟩ | ⟨nothing, -⟩
  · cases Option.some.inj (there.symm.trans isTop)
    exact solved.given _ returned
  · have returnsNothing : false = true := nothing.symm.trans returns
    cases returnsNothing

theorem Finishes.output_eq_none_iff (finishes : task.Finishes entry solver) :
    solver.output = none ↔ ∀ offset, ¬ task.body.ReturnsAt offset := by
  constructor
  · intro nothing offset returnsAt
    rcases finishes.exists_top returnsAt with ⟨top, isTop⟩
    rcases finishes.output_covers (finishes.hands_iff.2 ⟨offset, returnsAt, isTop⟩) with ⟨output, known, -⟩
    rw [nothing] at known
    cases known
  · intro nowhere
    have satisfied := task.keeps_returns.reaches (satisfied_start task.body.reachable_entry)
      finishes.reaches
    cases known : solver.output with
    | none => rfl
    | some output =>
        rcases satisfied.output output known with ⟨offset, returnsAt⟩
        exact absurd returnsAt (nowhere offset)

section Tops

variable {offsets : List Offset} {tops : List Taint}

theorem Finishes.exists_tops (finishes : task.Finishes entry solver)
    (returns : ∀ offset ∈ offsets, task.body.ReturnsAt offset) :
    ∃ tops : List Taint, offsets.map (topAt? solver.frames) = tops.map some := by
  induction offsets with
  | nil => exact ⟨[], rfl⟩
  | cons offset others inductionHypothesis =>
      rw [List.forall_mem_cons] at returns
      rcases finishes.exists_top returns.1 with ⟨top, found⟩
      rcases inductionHypothesis returns.2 with ⟨tops, foundOthers⟩
      exact ⟨top :: tops, by rw [List.map_cons, found, foundOthers, List.map_cons]⟩

/-- The words on top where control can leave the method are what is returned in the end. -/
theorem Finishes.mem_tops_iff (finishes : task.Finishes entry solver)
    (lists : task.body.ListsReturns offsets)
    (found : offsets.map (topAt? solver.frames) = tops.map some) :
    word ∈ tops ↔ task.Hands solver word := by
  have listed : word ∈ tops ↔ some word ∈ offsets.map (topAt? solver.frames) := by simp [found]
  rw [listed, finishes.hands_iff, List.mem_map]
  simp only [lists _]

/-- The output and the join of all that is returned in the end cover each other. -/
theorem Finishes.output_equiv_combineAll (finishes : task.Finishes entry solver)
    (handed : ∀ word, word ∈ tops ↔ task.Hands solver word) :
    Summary.OutputEquiv (solver.output.map fun output => output.join output)
      ((Taint.combineAll tops).map fun joined => joined.join joined) := by
  cases tops with
  | nil =>
      have nowhere (offset : Offset) (returnsAt : task.body.ReturnsAt offset) : False := by
        rcases finishes.exists_top returnsAt with ⟨top, isTop⟩
        cases (handed top).2 (finishes.hands_iff.2 ⟨offset, returnsAt, isTop⟩)
      rw [finishes.output_eq_none_iff.2 nowhere]
      trivial
  | cons first others =>
      have listed : first ∈ first :: others := List.mem_cons_self
      rcases finishes.output_covers ((handed first).1 listed) with ⟨output, isOutput, -⟩
      rcases Taint.exists_combineAll_covers listed with ⟨joined, isJoin, -⟩
      have outputCovers : output.Covers joined := by
        refine Taint.covers_combineAll ?_ joined isJoin
        intro word member
        rcases finishes.output_covers ((handed word).1 member) with ⟨output', isOutput', covers⟩
        cases Option.some.inj (isOutput.symm.trans isOutput')
        exact covers
      have joinCovers : joined.Covers output := by
        refine finishes.reaches.outputCovered (outputCovered_start _ _) joined ?_ output isOutput
        intro word hands
        rcases Taint.exists_combineAll_covers ((handed word).2 hands) with ⟨joined', isJoin', covers⟩
        cases Option.some.inj (isJoin.symm.trans isJoin')
        exact covers
      rw [isOutput, isJoin]
      exact outputCovers.antisymm joinCovers

end Tops

/-- A finished analysis has no output exactly if control can leave the method with a value nowhere. Otherwise,
in whatever order the locations are listed at which it can, the output is the join of the words on top of the
final frames there, up to tags on values that are not safe. -/
theorem output_is_join_of_returns {analysis : Analysis} {summaries : SummaryTable}
    (finished : task.run.result = .ok (analysis, summaries)) :
    (analysis.output = none ↔ ∀ offset, ¬ task.body.ReturnsAt offset) ∧
      (∃ offsets, task.body.ListsReturns offsets) ∧
      ∀ offsets, task.body.ListsReturns offsets →
        ∃ tops : List Taint, offsets.map (topAt? analysis.frames) = tops.map some ∧
          Summary.OutputEquiv (analysis.output.map fun output => output.join output)
            ((Taint.combineAll tops).map fun joined => joined.join joined) := by
  rcases run_eq_ok finished with ⟨signature, entry, solver, -, -, solved, frames, output, -⟩
  have finishes := finishes_of_solve solved
  rw [frames, output]
  refine ⟨finishes.output_eq_none_iff, task.body.exists_listsReturns, ?_⟩
  intro offsets lists
  rcases finishes.exists_tops fun offset listed => (lists offset).1 listed with ⟨tops, found⟩
  exact ⟨tops, found, finishes.output_equiv_combineAll fun word => finishes.mem_tops_iff lists found⟩

end Task

/-- A method that returns its argument, or puts a field behind it and begins again, until it returns a
literal. -/
def retellingLoop : Task where
  context := { policy := Declarations.policy { fieldStates := [("Log.line", .tainted)] } }
  method := ⟨"Log", "retell", "(Ljava/lang/String;)Ljava/lang/String;", true, 1⟩
  body := ((Body.ofList [
    .load 0 .reference,
    .return (some .reference),
    .getField ⟨"Log", "line", "Ljava/lang/String;"⟩ true,
    .concat 2,
    .store 0 .reference,
    .constant (.string "end"),
    .return (some .reference)]).addEdge 0 2).addEdge 4 0

/-- On its first visit the first return hands out the argument alone, which is not tainted. -/
theorem retellingLoop_joins_returns :
    ∃ analysis summaries tops, retellingLoop.run.result = .ok (analysis, summaries) ∧
      analysis.output.map Taint.state = some .tainted ∧ analysis.visitCount 1 = 2 ∧
      [6, 1].map (topAt? analysis.frames) = List.map some tops ∧
      Summary.OutputEquiv (analysis.output.map fun output => output.join output)
        ((Taint.combineAll tops).map fun joined => joined.join joined) := by
  have lists : retellingLoop.body.ListsReturns [6, 1] := by
    intro offset
    constructor
    · have first : retellingLoop.body.ReturnsAt 1 := ⟨⟨[0], .step (by decide) (.here 1)⟩, by decide⟩
      have last : retellingLoop.body.ReturnsAt 6 :=
        ⟨⟨[0, 2, 3, 4, 5], .step (by decide) (.step (by decide) (.step (by decide) (.step (by decide)
          (.step (by decide) (.here 6)))))⟩, by decide⟩
      simp only [List.mem_cons, List.not_mem_nil, or_false]
      rintro (rfl | rfl)
      · exact last
      · exact first
    · rintro ⟨-, returns⟩
      have only : ∀ node ∈ retellingLoop.body.nodes.toList, node.2.instruction.returnsValue →
          node.1 ∈ [6, 1] := by
        decide
      rcases (Option.any_eq_true _ _).1 returns with ⟨instruction, code, returnsValue⟩
      rcases Option.map_eq_some_iff.1 code with ⟨node, found, rfl⟩
      exact only (offset, node) (Std.ExtTreeMap.mem_toList_iff_getElem?_eq_some.2 found) returnsValue
  have ends : (retellingLoop.run.result.toOption.map fun (analysis, _) =>
      (analysis.output.map Taint.state, analysis.visitCount 1)) = some (some .tainted, 2) := by
    decide +kernel
  rcases Option.map_eq_some_iff.1 ends with ⟨⟨analysis, summaries⟩, ran, told⟩
  rw [toOption_eq_some_iff] at ran
  rw [Prod.mk.injEq] at told
  rcases (Task.output_is_join_of_returns ran).2.2 [6, 1] lists with ⟨tops, found, same⟩
  exact ⟨analysis, summaries, tops, ran, told.1, told.2, found, same⟩

end TaintFlow
