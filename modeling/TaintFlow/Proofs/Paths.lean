/-
Module: TaintFlow.Proofs.Paths
Purpose: What an analysis ends with is a bound for every way through the body. Running the instructions
  along a way, through however many rounds of loops, succeeds, and every fact on the way is at most
  the one that the analysis has for the same cell.
Main exports: Taint.AtMost, Site.exists_step, Body.Way, Task.follow, Task.run_bounds_ways
-/
import TaintFlow.Proofs.Aliases
import TaintFlow.Proofs.Inlining
import TaintFlow.Proofs.Rank

namespace TaintFlow

/-! ### Facts -/

namespace Taint

variable {one two three lower upper : Taint}

/-- The first fact is no more dangerous than the second one, which names all its sources, locations and
arguments. -/
structure AtMost (lower upper : Taint) : Prop where
  state : lower.state ≤ upper.state
  enclosed : upper.Encloses lower

theorem AtMost.refl (taint : Taint) : taint.AtMost taint :=
  ⟨State.le_refl _, fun _ => id, fun _ => id, fun _ => id⟩

theorem AtMost.trans (first : one.AtMost two) (second : two.AtMost three) : one.AtMost three :=
  ⟨State.le_trans first.state second.state, first.enclosed.trans second.enclosed⟩

/-- A fact that adds nothing is at most the one that it adds nothing to. -/
theorem Covers.atMost (covers : upper.Covers lower) : lower.AtMost upper := by
  have state : upper.state.merge lower.state = upper.state := by
    rw [← state_join, Equiv.state covers, state_join, State.merge_self]
  refine ⟨State.merge_eq_left_iff.1 state, ?_, ?_, ?_⟩
  · intro key named
    have joined := (sameSources_iff.1 (Equiv.sources covers) key).1 (mem_sources_join.2 (Or.inr named))
    exact (mem_sources_join.1 joined).elim id id
  · intro location named
    have joined := (sameLocations_iff.1 (Equiv.locations covers) location).1
      (mem_locations_join.2 (Or.inr named))
    exact (mem_locations_join.1 joined).elim id id
  · intro index named
    have parameters : upper.parameters ∪ lower.parameters = upper.parameters ∪ upper.parameters :=
      Equiv.parameters covers
    rw [setUnion_self] at parameters
    rw [← parameters]
    exact Std.ExtTreeSet.mem_union_iff.2 (Or.inr named)

end Taint

/-- Instructions respect how much facts say. -/
theorem congruence_atMost : Congruence Taint.AtMost where
  alike := by
    intro one two one' two' atMost likeOne likeTwo
    refine ⟨?_, ?_⟩
    · rw [likeOne.state, likeTwo.state]
      exact atMost.state
    · have enclosed : two.Encloses one' := (Taint.closed_encloses two).alike atMost.enclosed likeOne
      refine ⟨?_, ?_, ?_⟩
      · rw [likeTwo.sources]
        exact enclosed.sources
      · rw [likeTwo.locations]
        exact enclosed.locations
      · rw [likeTwo.parameters]
        exact enclosed.parameters
  joins := by
    intro one two three four first second
    refine ⟨State.merge_mono first.state second.state, ?_⟩
    apply Taint.Encloses.join
    · exact first.enclosed.trans (Taint.encloses_join_left two four)
    · exact second.enclosed.trans (Taint.encloses_join_right two four)

/-- A frame that is covered is at most the one that covers it, cell by cell. -/
theorem Frame.Covers.atMost {upper lower : Frame} (covers : upper.Covers lower) :
    Frame.Related Taint.AtMost lower upper := by
  have below : Frame.Related (fun upper lower => Taint.AtMost lower upper) upper lower :=
    Frame.Related.imp (fun _ _ => Taint.Covers.atMost) covers
  exact below.flip

theorem Congruence.flip {relation : Taint → Taint → Prop} (congruence : Congruence relation) :
    Congruence fun one two => relation two one where
  alike related likeOne likeTwo := congruence.alike related likeTwo likeOne
  joins first second := congruence.joins first second

/-! ### Acting on a frame of the same shape

Whether a plain instruction can act depends on how many locals and words there are, and on nothing that
is known about them, except that a load checks its local. -/

namespace Frame

variable {one two after : Frame} {relation : Taint → Taint → Prop} {taint : Taint} {words : List Taint}
  {index count : Nat}

theorem Related.exists_pop (related : Related relation one two) (popped : one.pop = .ok (taint, after)) :
    ∃ taint' after', two.pop = .ok (taint', after') ∧ relation taint taint' ∧
      Related relation after after' := by
  have cells := related.stack
  rw [(pop_eq_ok_iff.1 popped).1] at cells
  cases shape : two.stack with
  | nil =>
      rw [shape] at cells
      cases cells
  | cons top below =>
      have popped' : two.pop = .ok (top, ⟨two.locals, below⟩) := pop_eq_ok_iff.2 ⟨shape, rfl⟩
      exact ⟨top, _, popped', related.pop popped popped'⟩

theorem Related.exists_popMany (related : Related relation one two)
    (popped : one.popMany count = .ok (words, after)) :
    ∃ words' after', two.popMany count = .ok (words', after') ∧ Related relation after after' := by
  have enough : count ≤ two.depth := by
    have sameDepth : one.depth = two.depth := related.stack.length_eq
    rw [← sameDepth]
    exact (popMany_eq_ok_iff.1 popped).1
  have popped' : two.popMany count = .ok (two.stack.take count, ⟨two.locals, two.stack.drop count⟩) :=
    popMany_eq_ok_iff.2 ⟨enough, rfl, rfl⟩
  exact ⟨_, _, popped', (related.popMany popped popped').2⟩

theorem Related.exists_peek (related : Related relation one two) (peeked : one.peek index = .ok taint) :
    ∃ taint', two.peek index = .ok taint' ∧ relation taint taint' := by
  obtain ⟨taint', read, value⟩ := forall₂_exists_getElem? related.stack (peek_eq_ok_iff.1 peeked)
  exact ⟨taint', peek_eq_ok_iff.2 read, value⟩

theorem Related.exists_setLocal {taint' : Taint} (related : Related relation one two)
    (value : relation taint taint') (set : one.setLocal index taint = .ok after) :
    ∃ after', two.setLocal index taint' = .ok after' ∧ Related relation after after' := by
  have inside : index < two.locals.length :=
    related.locals.length_eq ▸ (setLocal_eq_ok_iff.1 set).1
  have set' : two.setLocal index taint' = .ok ⟨two.locals.set index taint', two.stack⟩ :=
    setLocal_eq_ok_iff.2 ⟨inside, rfl⟩
  exact ⟨_, set', related.setLocal value set set'⟩

theorem Related.exists_storeWords (congruence : Congruence relation) (related : Related relation one two)
    (stored : one.storeWords index count = .ok after) : ∃ after', two.storeWords index count = .ok after' := by
  induction count generalizing one two index with
  | zero => exact ⟨two, rfl⟩
  | succ count inductionHypothesis =>
      simp only [Frame.storeWords, bind_eq_ok_iff] at stored ⊢
      obtain ⟨⟨value, rest⟩, popped, next, set, stored⟩ := stored
      obtain ⟨value', rest', popped', related', below⟩ := related.exists_pop popped
      have bound : relation { value with slot := some index } { value' with slot := some index } :=
        congruence.alike related' Taint.alike_relabel Taint.alike_relabel
      obtain ⟨next', set', belowNext⟩ := below.exists_setLocal bound set
      obtain ⟨after', stored'⟩ := inductionHypothesis belowNext stored
      exact ⟨after', (value', rest'), popped', next', set', stored'⟩

theorem Related.exists_loadWords (related : Related relation one two) (own : two.OwnBound)
    (loaded : one.loadWords index count = .ok after) : ∃ after', two.loadWords index count = .ok after' := by
  induction count generalizing one two with
  | zero => exact ⟨two, rfl⟩
  | succ count inductionHypothesis =>
      simp only [Frame.loadWords, bind_eq_ok_iff] at loaded ⊢
      obtain ⟨value, got, loaded⟩ := loaded
      obtain ⟨value', held, related'⟩ :=
        forall₂_exists_getElem? related.locals (getLocal_eq_ok_iff.1 (getBound_eq_ok got))
      have got' : two.getBound (index + count) = .ok value' := by
        rw [getBound, getLocal_eq_ok_iff.2 held]
        exact if_pos (own _ _ held)
      obtain ⟨after', loaded'⟩ := inductionHypothesis (related.push related') own loaded
      exact ⟨after', value', got', loaded'⟩

theorem Related.exists_shuffle {shuffle : Shuffle} (related : Related relation one two)
    (shuffled : one.shuffle shuffle = .ok after) : ∃ after', two.shuffle shuffle = .ok after' := by
  cases shuffle with
  | pop =>
      simp only [Frame.shuffle, bind_eq_ok_iff] at shuffled ⊢
      obtain ⟨⟨top, rest⟩, popped, -⟩ := shuffled
      obtain ⟨top', rest', popped', -⟩ := related.exists_pop popped
      exact ⟨_, _, popped', rfl⟩
  | pop2 =>
      simp only [Frame.shuffle, bind_eq_ok_iff] at shuffled ⊢
      obtain ⟨⟨words, rest⟩, popped, -⟩ := shuffled
      obtain ⟨words', rest', popped', -⟩ := related.exists_popMany popped
      exact ⟨_, _, popped', rfl⟩
  | dup =>
      simp only [Frame.shuffle, bind_eq_ok_iff] at shuffled ⊢
      obtain ⟨top, peeked, -⟩ := shuffled
      obtain ⟨top', peeked', -⟩ := related.exists_peek peeked
      exact ⟨_, _, peeked', rfl⟩
  | dup2 =>
      simp only [Frame.shuffle, bind_eq_ok_iff] at shuffled ⊢
      obtain ⟨top, peeked, below, peekedBelow, -⟩ := shuffled
      obtain ⟨top', peeked', -⟩ := related.exists_peek peeked
      obtain ⟨below', peekedBelow', -⟩ := related.exists_peek peekedBelow
      exact ⟨_, _, peeked', _, peekedBelow', rfl⟩
  | dupX1 | swap =>
      simp only [Frame.shuffle, bind_eq_ok_iff] at shuffled ⊢
      obtain ⟨⟨top, withoutTop⟩, popped, ⟨below, rest⟩, poppedBelow, -⟩ := shuffled
      obtain ⟨top', withoutTop', popped', -, without⟩ := related.exists_pop popped
      obtain ⟨below', rest', poppedBelow', -⟩ := without.exists_pop poppedBelow
      exact ⟨_, _, popped', _, poppedBelow', rfl⟩

end Frame

namespace Site

variable {site : Site} {frame frame' : Frame} {step : Step} {instruction : Instruction}
  {relation : Taint → Taint → Prop}

theorem exists_act {moved : Traced Fault Frame} (moves : ∃ after, moved.result = .ok after) :
    ∃ step, (moved >>= fun after => pure (⟨after, none⟩ : Step)).result = .ok step := by
  obtain ⟨after, moves⟩ := moves
  refine ⟨⟨after, none⟩, ?_⟩
  rw [Traced.result_bind, moves]
  rfl

/-- A plain instruction that can act on a frame can act on every related one in which locals are bound to
themselves. -/
theorem exists_step (congruence : Congruence relation) (plain : instruction.isPlain)
    (related : Frame.Related relation frame frame') (own : frame'.OwnBound)
    (acted : (site.step instruction frame).result = .ok step) :
    ∃ step', (site.step instruction frame').result = .ok step' := by
  rw [result_step] at acted
  simp only [result_step]
  cases instruction with
  | constant literal => exact ⟨_, rfl⟩
  | getField field isStatic =>
      obtain ⟨after, got, -⟩ := act_eq_ok acted
      obtain ⟨owner, rest, popped, -⟩ := getField_eq_ok_iff.1 got
      obtain ⟨owner', rest', popped', -⟩ := related.exists_popMany popped
      exact exists_act ⟨_, getField_eq_ok_iff.2 ⟨owner', rest', popped', rfl⟩⟩
  | putField field isStatic =>
      obtain ⟨after, put, -⟩ := act_eq_ok acted
      obtain ⟨top, peeked, words, popped⟩ := putField_eq_ok_iff.1 put
      obtain ⟨top', peeked', -⟩ := related.exists_peek peeked
      obtain ⟨words', rest', popped', -⟩ := related.exists_popMany popped
      exact exists_act ⟨rest', putField_eq_ok_iff.2 ⟨top', peeked', words', popped'⟩⟩
  | load index kind =>
      obtain ⟨after, loaded, -⟩ := act_eq_ok acted
      obtain ⟨after', loaded'⟩ := related.exists_loadWords own (load_eq_ok_iff.1 loaded)
      exact exists_act ⟨after', load_eq_ok_iff.2 loaded'⟩
  | store index kind =>
      obtain ⟨after, stored, -⟩ := act_eq_ok acted
      exact exists_act (related.exists_storeWords congruence stored)
  | new className => exact ⟨_, rfl⟩
  | newArray dimensions =>
      obtain ⟨after, sized, -⟩ := act_eq_ok acted
      obtain ⟨sizes, rest, popped, -⟩ := newArray_eq_ok_iff.1 sized
      obtain ⟨sizes', rest', popped', -⟩ := related.exists_popMany popped
      exact exists_act ⟨_, newArray_eq_ok_iff.2 ⟨sizes', rest', popped', rfl⟩⟩
  | arrayStore kind => simp [Instruction.isPlain] at plain
  | arrayLoad kind =>
      obtain ⟨after, loaded, -⟩ := act_eq_ok acted
      obtain ⟨index, withoutIndex, popped, array, rest, poppedArray, -⟩ :=
        Frame.arrayLoad_eq_ok_iff.1 loaded
      obtain ⟨index', withoutIndex', popped', -, without⟩ := related.exists_pop popped
      obtain ⟨array', rest', poppedArray', -⟩ := without.exists_pop poppedArray
      exact exists_act ⟨_, Frame.arrayLoad_eq_ok_iff.2
        ⟨index', withoutIndex', popped', array', rest', poppedArray', rfl⟩⟩
  | checkCast className =>
      obtain ⟨after, checked, -⟩ := act_eq_ok acted
      apply exists_act
      simp only [Traced.result_liftM, checkCast_eq_ok_iff] at checked ⊢
      split at checked
      next isSafe =>
        obtain ⟨value, rest, popped, -⟩ := checked
        obtain ⟨value', rest', popped', -⟩ := related.exists_pop popped
        simp only [if_pos isSafe]
        exact ⟨_, value', rest', popped', rfl⟩
      next isUnsafe =>
        simp only [if_neg isUnsafe]
        exact ⟨frame', rfl⟩
  | «return» kind =>
      cases kind with
      | none => exact ⟨_, rfl⟩
      | some kind =>
          obtain ⟨top, peeked, words, rest, popped, -⟩ := giveBack_eq_ok_iff.1 acted
          obtain ⟨top', peeked', -⟩ := related.exists_peek peeked
          obtain ⟨words', rest', popped', -⟩ := related.exists_popMany popped
          exact ⟨_, giveBack_eq_ok_iff.2 ⟨top', peeked', words', rest', popped', rfl⟩⟩
  | invoke call => simp [Instruction.isPlain] at plain
  | concat operands =>
      obtain ⟨after, put, -⟩ := act_eq_ok acted
      obtain ⟨texts, rest, popped, -⟩ := Frame.concatTop_eq_ok_iff.1 put
      obtain ⟨texts', rest', popped', -⟩ := related.exists_popMany popped
      exact exists_act ⟨_, Frame.concatTop_eq_ok_iff.2 ⟨texts', rest', popped', rfl⟩⟩
  | stack shuffle =>
      obtain ⟨after, shuffled, -⟩ := act_eq_ok acted
      exact exists_act (related.exists_shuffle shuffled)
  | other consumed produced =>
      obtain ⟨after, replaced, -⟩ := act_eq_ok acted
      obtain ⟨values, rest, popped, -⟩ := Frame.replaceTop_eq_ok_iff.1 replaced
      obtain ⟨values', rest', popped', -⟩ := related.exists_popMany popped
      exact exists_act ⟨_, Frame.replaceTop_eq_ok_iff.2 ⟨values', rest', popped', rfl⟩⟩

end Site

/-! ### Ways through a body -/

/-- Control can go from the first location along the way, and is then before the last location. A way may
pass a location any number of times. -/
inductive Body.Way (body : Body) : Offset → List Offset → Offset → Prop where
  | here (offset : Offset) : Way body offset [] offset
  | step {start next offset : Offset} {way : List Offset} (edge : next ∈ body.successors start)
      (rest : Way body next way offset) : Way body start (start :: way) offset

namespace Task

variable {task : Task} {solver : Solver} {start offset : Offset} {way : List Offset}
  {frame known : Frame} {instruction : Instruction} {step : Step}

/-- The facts after the instruction at a location. -/
def pass (task : Task) (frame : Frame) (offset : Offset) : Except Fault Frame :=
  match task.body.instruction? offset with
  | some instruction => Step.frame <$> ((task.site offset).step instruction frame).result
  | none => .error (.unknownLocation offset)

/-- The facts after the instructions along a way, where nothing else comes in. -/
def follow (task : Task) (frame : Frame) (way : List Offset) : Except Fault Frame :=
  way.foldlM task.pass frame

theorem follow_cons (code : task.body.instruction? offset = some instruction)
    (acted : ((task.site offset).step instruction frame).result = .ok step) :
    task.follow frame (offset :: way) = task.follow step.frame way := by
  rw [follow, List.foldlM_cons, pass, code]
  simp only [acted]
  rfl

/-! ### Every way is bounded -/

/-- Where the equations hold of the frame before a location, they bound the step from any lower frame in
which locals are bound to themselves; in particular there is such a step. -/
theorem SolvedAt.bounds (plain : task.body.isPlain)
    (solvedAt : task.SolvedAt solver offset instruction step known) (own : frame.OwnBound)
    (atMost : Frame.Related Taint.AtMost frame known) :
    ∃ lower, ((task.site offset).step instruction frame).result = .ok lower ∧
      Frame.Related Taint.AtMost lower.frame step.frame ∧
      Option.Rel Taint.AtMost lower.returned step.returned := by
  have plainHere : instruction.isPlain := Body.isPlain_instruction plain solvedAt.code
  obtain ⟨lower, acted⟩ := Site.exists_step congruence_atMost.flip plainHere atMost.flip own solvedAt.acted
  have makes : ∀ taint ∈ (task.site offset).made instruction, taint.AtMost taint :=
    fun taint _ => Taint.AtMost.refl taint
  exact ⟨lower, acted,
    Site.step_related congruence_atMost.respected plainHere makes atMost acted solvedAt.acted⟩

/-- The induction is on the way. What it carries along besides the bound is that locals are bound to
themselves, without which a load could fail on the way although it does not in the analysis. -/
theorem follow_bounded {count : Nat} (plain : task.body.isPlain)
    (solved : ∀ (offset : Offset) (known : Frame), solver.frames[offset]? = some known →
      ∃ instruction step, task.SolvedAt solver offset instruction step known)
    (goes : task.body.Way start way offset) (wellBound : frame.WellBound count fun _ => True)
    (reached : solver.frames[start]? = some known) (atMost : Frame.Related Taint.AtMost frame known) :
    ∃ last knownLast, task.follow frame way = .ok last ∧ last.WellBound count (fun _ => True) ∧
      solver.frames[offset]? = some knownLast ∧ Frame.Related Taint.AtMost last knownLast := by
  induction goes generalizing frame known with
  | here offset => exact ⟨frame, known, rfl, wellBound, reached, atMost⟩
  | step edge rest inductionHypothesis =>
      obtain ⟨instruction, step, solvedAt⟩ := solved _ known reached
      obtain ⟨lower, acted, atMostAfter, -⟩ := solvedAt.bounds plain wellBound.own atMost
      obtain ⟨next, reachedNext, coversNext⟩ := solvedAt.covered _ edge
      rw [follow_cons solvedAt.code acted]
      apply inductionHypothesis _ reachedNext
      · have composes (one two three : Taint) (first : one.AtMost two) (second : two.AtMost three) :
            one.AtMost three := first.trans second
        exact atMostAfter.trans composes coversNext.atMost
      · exact Site.step_wellBound (fun _ => trivial) wellBound acted

/-- In code without calls and stores to arrays, what a finished analysis has before a location bounds
every way there, whatever loops it goes through and however often: the instructions along the way can
act one after the other on the facts that hold on entry, and they leave a frame of the same shape in
which no cell is more dangerous or names anything that the analysis does not. What a return hands out at
the end of a way is no more dangerous than the output. -/
theorem run_bounds_ways {analysis : Analysis} {summaries : SummaryTable} (plain : task.body.isPlain)
    (finished : task.run.result = .ok (analysis, summaries)) :
    ∃ signature entry, task.method.signature = .ok signature ∧
      entryFrame task.context.policy task.method signature = .ok entry ∧
      ∀ way offset, task.body.Way task.body.entry way offset →
        ∃ frame known, task.follow entry way = .ok frame ∧ analysis.frames[offset]? = some known ∧
          Frame.Related Taint.AtMost frame known ∧
          ∀ kind, task.body.instruction? offset = some (.return (some kind)) →
            ∃ step returned output,
              ((task.site offset).step (.return (some kind)) frame).result = .ok step ∧
              step.returned = some returned ∧ analysis.output = some output ∧
              returned.state ≤ output.state := by
  obtain ⟨signature, entry, solver, read, entered, solves, frames, outputs, -⟩ := run_eq_ok finished
  obtain ⟨reaches, nothingPending⟩ := drain_eq_ok solves
  have solved (offset : Offset) (known : Frame) (reached : solver.frames[offset]? = some known) :
      ∃ instruction step, task.SolvedAt solver offset instruction step known :=
    reaches.consistent (consistent_start _ _) offset known reached (by simp [nothingPending])
  obtain ⟨atEntry, reachedEntry, ascends⟩ := reaches.entry_ascends
  have wellBound : entry.WellBound task.method.maxLocals fun _ => True :=
    calledFrame_wellBound (fun _ _ => ⟨rfl, rfl⟩) entered
  refine ⟨signature, entry, read, entered, ?_⟩
  intro way offset goes
  obtain ⟨frame, known, followed, wellBoundHere, reached, atMost⟩ :=
    follow_bounded plain solved goes wellBound reachedEntry ascends.covers.atMost
  refine ⟨frame, known, followed, frames ▸ reached, atMost, ?_⟩
  intro kind code
  obtain ⟨instruction, step, solvedAt⟩ := solved offset known reached
  obtain rfl : instruction = .return (some kind) := Option.some.inj (solvedAt.code.symm.trans code)
  obtain ⟨lower, acted, -, returns⟩ := solvedAt.bounds plain wellBoundHere.own atMost
  obtain ⟨top, -, given⟩ := returned_of_step solvedAt.acted
  obtain ⟨output, outputIs, covers⟩ := solvedAt.given top given
  rw [given] at returns
  cases handed : lower.returned with
  | none =>
      rw [handed] at returns
      cases returns
  | some returned =>
      rw [handed] at returns
      cases returns with
      | some value =>
          refine ⟨lower, returned, output, acted, handed, outputs.trans outputIs, ?_⟩
          exact State.le_trans value.state (Taint.Covers.atMost covers).state

end Task

/-- The bound covers the way that goes twice round the loop, on which a tainted text is returned. -/
theorem appendingLoop_bounds_ways :
    appendingLoop.body.isPlain ∧ appendingLoop.body.Way 0 [0, 1, 2, 3, 0, 1, 2, 3, 4] 5 ∧
      ∃ analysis summaries entry frame known,
        appendingLoop.run.result = .ok (analysis, summaries) ∧
        appendingLoop.follow entry [0, 1, 2, 3, 0, 1, 2, 3, 4] = .ok frame ∧
        analysis.frames[5]? = some known ∧ Frame.Related Taint.AtMost frame known ∧
        ∃ output, analysis.output = some output ∧ output.state = .tainted := by
  have plain : appendingLoop.body.isPlain := by decide
  have twice : appendingLoop.body.Way 0 [0, 1, 2, 3, 0, 1, 2, 3, 4] 5 :=
    .step (by decide) (.step (by decide) (.step (by decide) (.step (by decide) (.step (by decide)
      (.step (by decide) (.step (by decide) (.step (by decide) (.step (by decide) (.here 5)))))))))
  have returns : (appendingLoop.run.result.toOption.bind fun (analysis, _) =>
      analysis.output.map Taint.state) = some .tainted := by
    decide +kernel
  obtain ⟨⟨analysis, summaries⟩, ran, tainted⟩ := Option.bind_eq_some_iff.1 returns
  rw [toOption_eq_some_iff] at ran
  obtain ⟨signature, entry, -, -, bounds⟩ := Task.run_bounds_ways plain ran
  obtain ⟨frame, known, followed, reached, atMost, -⟩ := bounds _ _ twice
  exact ⟨plain, twice, analysis, summaries, entry, frame, known, ran, followed, reached, atMost,
    Option.map_eq_some_iff.1 tainted⟩

end TaintFlow
