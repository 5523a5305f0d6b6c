/-
Module: TaintFlow.Proofs.LeastSolution
Purpose: For code without calls and stores to arrays an analysis ends with the least frames that its
  instructions allow, whatever the order is in which pending locations are taken. Two orders that both come
  to an end therefore end with the same facts.
Main exports: Taint.Beneath, Frame.Beneath, respected_beneath, Task.Permits, Task.Permits.keeps,
  Task.Finishes.permits, Task.plain_run_is_least
-/
import Mathlib.Data.Option.NAry
import TaintFlow.Proofs.Reachability

namespace TaintFlow

/-! ### The order of facts -/

namespace Taint

variable {one two three four lower upper bound : Taint}

/-- The lower fact adds nothing to the upper one. -/
def Beneath (lower upper : Taint) : Prop :=
  upper.Absorbs lower

theorem Durable.beneath_self (durable : one.Durable) : one.Beneath one :=
  durable.join_self

theorem Beneath.trans (first : one.Beneath two) (second : two.Beneath three) : one.Beneath three :=
  calc three.join one
    _ ≈ (three.join two).join one := (Equiv.symm second).join (Equiv.refl _)
    _ ≈ three.join (two.join one) := join_assoc _ _ _
    _ ≈ three.join two := (Equiv.refl _).join first
    _ ≈ three := second

/-- Facts that add nothing to each other say the same. -/
theorem Beneath.antisymm (first : one.Beneath two) (second : two.Beneath one) : one ≈ two :=
  calc one
    _ ≈ one.join two := Equiv.symm second
    _ ≈ two.join one := join_comm _ _
    _ ≈ two := first

/-- A join adds nothing where neither side does. -/
theorem Beneath.join (first : one.Beneath bound) (second : two.Beneath bound) :
    (one.join two).Beneath bound :=
  calc bound.join (one.join two)
    _ ≈ (bound.join one).join two := (join_assoc _ _ _).symm
    _ ≈ bound.join two := Equiv.join first (Equiv.refl _)
    _ ≈ bound := second

theorem Beneath.absorb (first : one.Beneath bound) (second : two.Beneath bound) :
    (one.absorb two).Beneath bound :=
  ((Equiv.refl bound).join (absorb_equiv_join one two)).trans (first.join second)

theorem Beneath.join_join (first : one.Beneath two) (second : three.Beneath four) :
    (one.join three).Beneath (two.join four) := by
  have firstJoin : one.Beneath (two.join four) :=
    calc (two.join four).join one
      _ ≈ (four.join two).join one := (join_comm _ _).join (Equiv.refl _)
      _ ≈ four.join (two.join one) := join_assoc _ _ _
      _ ≈ four.join two := (Equiv.refl _).join first
      _ ≈ two.join four := join_comm _ _
  have secondJoin : three.Beneath (two.join four) :=
    calc (two.join four).join three
      _ ≈ two.join (four.join three) := join_assoc _ _ _
      _ ≈ two.join four := (Equiv.refl _).join second
  exact firstJoin.join secondJoin

/-- What identifies the values, and what is remarked about them, may be replaced on both sides, as long
as the upper one goes on saying only what the lower one says. -/
theorem Beneath.relabel {literal literal' runtimeClass runtimeClass' note note' : Option String}
    {slot slot' : Option Nat} {allocation allocation' : Option Offset} (beneath : lower.Beneath upper)
    (literals : agreed literal literal' = literal)
    (classes : agreed runtimeClass runtimeClass' = runtimeClass) (slots : agreed slot slot' = slot)
    (allocations : agreed allocation allocation' = allocation) (notes : agreed note note' = note) :
    Beneath
      { lower with
        literal := literal', runtimeClass := runtimeClass', slot := slot', allocation := allocation'
        note := note' }
      { upper with literal, runtimeClass, slot, allocation, note } := by
  rcases beneath with ⟨state, tags, strippedTags, sources, locations, parameters, baseState, -⟩
  exact ⟨state, tags, strippedTags, sources, locations, parameters, baseState, literals, classes, slots,
    allocations, notes⟩

/-- Where the upper side knows a literal, the lower side knows the same one. -/
theorem Beneath.literal_eq (beneath : lower.Beneath upper) {text : String}
    (known : upper.literal = some text) : lower.literal = some text := by
  have agrees : agreed upper.literal lower.literal = some text := (Equiv.literal beneath).trans known
  exact (agreed_eq_some_iff.1 agrees).2

theorem Beneath.concat (first : one.Beneath two) (second : three.Beneath four) :
    (one.concat three).Beneath (two.concat four) := by
  have joined := first.join_join second
  have literals : agreed (two.concat four).literal (one.concat three).literal =
      (two.concat four).literal := by
    cases known : (two.concat four).literal with
    | none =>
        unfold agreed
        split
        · rfl
        · rfl
    | some text =>
        rw [literal_concat, Option.map₂_eq_some_iff] at known
        rcases known with ⟨left, right, leftKnown, rightKnown, rfl⟩
        rw [literal_concat, first.literal_eq leftKnown, second.literal_eq rightKnown]
        exact agreed_self _
  rw [concat_eq one, concat_eq two]
  exact joined.relabel literals (Equiv.runtimeClass joined) (Equiv.slot joined)
    (Equiv.allocation joined) (Equiv.note joined)

end Taint

/-- Plain instructions respect the order of facts. -/
theorem respected_beneath : Respected Taint.Beneath where
  binds beneath _ := beneath.relabel (Taint.Equiv.literal beneath) (Taint.Equiv.runtimeClass beneath)
    (agreed_self _) (Taint.Equiv.allocation beneath) (Taint.Equiv.note beneath)
  elements beneath := beneath.relabel (Taint.Equiv.literal beneath) (agreed_self _)
    (Taint.Equiv.slot beneath) (agreed_self _) (Taint.Equiv.note beneath)
  concats first second := first.concat second
  texts beneath := beneath.relabel (Taint.Equiv.literal beneath) (agreed_self _) (agreed_self _)
    (agreed_self _) (Taint.Equiv.note beneath)

/-! ### The order of frames -/

namespace Frame

variable {frame other joined lower upper : Frame} {changed : Bool}

/-- Frames of one shape, where no cell of the lower one adds anything to that of the upper one. -/
def Beneath : Frame → Frame → Prop :=
  Related Taint.Beneath

theorem Beneath.trans (first : lower.Beneath frame) (second : frame.Beneath upper) :
    lower.Beneath upper := by
  have composes (one two three : Taint) (lower : one.Beneath two) (upper : two.Beneath three) :
      one.Beneath three := lower.trans upper
  exact Related.trans composes first second

theorem Beneath.join (first : frame.Beneath upper) (second : other.Beneath upper)
    (met : frame.join other = .ok (joined, changed)) : joined.Beneath upper := by
  have least (one two bound : Taint) (lower : one.Beneath bound) (other : two.Beneath bound) :
      (one.absorb two).Beneath bound := lower.absorb other
  exact Related.join least first second met

/-- What is covered by facts that keep their tags lies beneath them. -/
theorem Covers.beneath (covers : upper.Covers lower) (durable : upper.All Taint.Durable) :
    lower.Beneath upper := by
  have above : Related Taint.Absorbs upper lower := Frame.Covers.absorbs covers durable
  exact above.flip

private theorem cellsEquiv_of_beneath {ones twos : List Taint}
    (first : List.Forall₂ Taint.Beneath ones twos) (second : List.Forall₂ Taint.Beneath twos ones) :
    CellsEquiv ones twos := by
  induction first with
  | nil => trivial
  | cons head tail inductionHypothesis =>
      cases second with
      | cons headBack tailBack => exact ⟨head.antisymm headBack, inductionHypothesis tailBack⟩

theorem Beneath.antisymm (first : lower.Beneath upper) (second : upper.Beneath lower) :
    lower ≈ upper :=
  ⟨cellsEquiv_of_beneath first.locals second.locals, cellsEquiv_of_beneath first.stack second.stack⟩

end Frame

/-! ### Frames that the instructions allow -/

namespace Task

variable {task : Task} {entry : Frame} {assigned : Offset → Frame} {given : Taint → Prop}
  {solver one two : Solver}

/-- Frames before the locations that control can reach solve the inequations of the body: the facts on
entry lie beneath those at the entry, each instruction can act on the facts before it, and what it leaves
lies beneath the facts before its successors. -/
structure Permits (task : Task) (entry : Frame) (assigned : Offset → Frame) : Prop where
  entered : entry.Beneath (assigned task.body.entry)
  flows : ∀ offset, task.body.Reachable offset → ∃ instruction step,
    task.body.instruction? offset = some instruction ∧
      ((task.site offset).step instruction (assigned offset)).result = .ok step ∧
      ∀ target ∈ task.body.successors offset, step.frame.Beneath (assigned target)

/-- What an instruction makes out of nothing lies beneath itself. -/
theorem made_beneath_self {site : Site} {instruction : Instruction} {taint : Taint}
    (made : taint ∈ site.made instruction) : taint.Beneath taint :=
  Taint.Durable.beneath_self (Or.inr (Site.bare_made made).2)

/-- A run stays beneath any frames that the instructions allow, and what it returns beneath what is
returned from these. -/
theorem Permits.keeps (permits : task.Permits entry assigned) (plain : task.body.isPlain)
    (returns : ∀ {offset instruction step taint lower}, task.body.Reachable offset →
      task.body.instruction? offset = some instruction →
      ((task.site offset).step instruction (assigned offset)).result = .ok step →
      step.returned = some taint → lower.Beneath taint → given lower)
    (combines : ∀ {one two}, given one → given two → given (one.join two)) :
    task.Keeps (fun offset frame => task.body.Reachable offset ∧ frame.Beneath (assigned offset))
      given := by
  -- An instruction acts on the smaller frame as it does on the assigned one.
  have stepped {offset : Offset} {instruction : Instruction} {frame : Frame} {step : Step}
      (code : task.body.instruction? offset = some instruction)
      (good : task.body.Reachable offset ∧ frame.Beneath (assigned offset))
      (acted : ((task.site offset).step instruction frame).result = .ok step) :
      ∃ upper, ((task.site offset).step instruction (assigned offset)).result = .ok upper ∧
        (∀ target ∈ task.body.successors offset, step.frame.Beneath (assigned target)) ∧
        Option.Rel Taint.Beneath step.returned upper.returned := by
    rcases permits.flows offset good.1 with ⟨instruction', upper, code', actedUpper, flows⟩
    rcases Option.some.inj (code.symm.trans code')
    have plainHere : instruction.isPlain := Body.isPlain_instruction plain code
    rcases Site.step_related respected_beneath plainHere (fun _ => made_beneath_self) good.2 acted
      actedUpper with ⟨frames, values⟩
    have further (target : Offset) (edge : target ∈ task.body.successors offset) :
        step.frame.Beneath (assigned target) :=
      Frame.Beneath.trans frames (flows target edge)
    exact ⟨upper, actedUpper, further, values⟩
  constructor
  · rintro offset frame other joined changed ⟨reachable, beneath⟩ ⟨-, otherBeneath⟩ met
    exact ⟨reachable, beneath.join otherBeneath met⟩
  · intro offset instruction frame step code good acted target edge
    rcases stepped code good acted with ⟨-, -, flows, -⟩
    exact ⟨good.1.successor edge, flows target edge⟩
  · intro offset instruction frame step code good acted taint returned
    rcases stepped code good acted with ⟨upper, actedUpper, -, values⟩
    rw [Option.mem_def.1 returned] at values
    rcases Site.exists_of_returned values with ⟨upperTaint, upperReturned, beneath⟩
    exact returns good.1 code actedUpper upperReturned beneath
  · exact combines

/-- However a run has come to its end, its frames are the least ones that the instructions allow. -/
theorem Permits.beneath (permits : task.Permits entry assigned) (plain : task.body.isPlain)
    (finishes : task.Finishes entry solver) {offset : Offset} {frame : Frame}
    (reached : solver.frames[offset]? = some frame) : frame.Beneath (assigned offset) := by
  have keeps : task.Keeps
      (fun offset frame => task.body.Reachable offset ∧ frame.Beneath (assigned offset))
      (fun _ => True) :=
    permits.keeps plain (fun _ _ _ _ _ => trivial) fun _ _ => trivial
  have satisfied := keeps.reaches (satisfied_start ⟨task.body.reachable_entry, permits.entered⟩)
    finishes.reaches
  exact (satisfied.frames offset frame reached).2

/-! ### Frames that a run ends with -/

/-- Plain code does not come to vouch for anything. -/
theorem closed_untagged : Closed fun taint => taint.tags = ∅ where
  alike untagged like := like.tags.trans untagged
  joins := by
    intro one two first second
    simp [Taint.join, first, second]

theorem entryFrame_untagged {policy : Policy} {method : Method} {signature : Signature}
    (entered : entryFrame policy method signature = .ok entry) :
    entry.All fun taint => taint.tags = ∅ :=
  calledFrame_all (fun _ _ untagged => untagged) rfl
    (forall_mem_entryTaints rfl fun _ _ _ => rfl) entered

/-- Hence whatever a run of plain code ends with is durable. -/
theorem Finishes.durable (finishes : task.Finishes entry solver) (plain : task.body.isPlain)
    (untagged : entry.All fun taint => taint.tags = ∅) :
    Satisfied (fun _ frame => frame.All Taint.Durable) Taint.Durable solver := by
  have keeps := task.keeps_all plain closed_untagged fun _ _ untagged => untagged
  have satisfied := keeps.reaches (satisfied_start untagged) finishes.reaches
  refine ⟨?_, fun taint returned => Or.inr (satisfied.output taint returned)⟩
  intro offset frame reached
  have all := satisfied.frames offset frame reached
  exact ⟨fun cell member => Or.inr (all.locals cell member),
    fun cell member => Or.inr (all.stack cell member)⟩

end Task

/-- The frames that have been reached, as an assignment to all locations. -/
def Solver.assigned (solver : Solver) (offset : Offset) : Frame :=
  solver.frames[offset]?.getD default

theorem Solver.assigned_eq {solver : Solver} {offset : Offset} {frame : Frame}
    (reached : solver.frames[offset]? = some frame) : solver.assigned offset = frame := by
  rw [assigned, reached]
  rfl

namespace Task

variable {task : Task} {entry : Frame} {solver one two : Solver}

/-- The frames of a finished run are among those that the instructions allow. -/
theorem Finishes.permits (finishes : task.Finishes entry solver) (plain : task.body.isPlain)
    (untagged : entry.All fun taint => taint.tags = ∅) : task.Permits entry solver.assigned := by
  have durable := finishes.durable plain untagged
  constructor
  · rcases finishes.reaches.entry_ascends with ⟨known, reached, ascends⟩
    rw [Solver.assigned_eq reached]
    exact ascends.covers.beneath (durable.frames _ known reached)
  · intro offset reachable
    rcases (finishes.reached_iff offset).2 reachable with ⟨frame, reached⟩
    rcases finishes.solved reached with ⟨instruction, step, solved⟩
    rw [Solver.assigned_eq reached]
    refine ⟨instruction, step, solved.code, solved.acted, ?_⟩
    intro target edge
    rcases solved.covered target edge with ⟨next, reachedNext, covers⟩
    rw [Solver.assigned_eq reachedNext]
    exact covers.beneath (durable.frames target next reachedNext)

/-- What one finished run ends with lies beneath what any other one ends with. -/
theorem Finishes.beneath (finishes : task.Finishes entry one) (plain : task.body.isPlain)
    (untagged : entry.All fun taint => taint.tags = ∅) (other : task.Finishes entry two) :
    Satisfied (fun offset frame => task.body.Reachable offset ∧ frame.Beneath (two.assigned offset))
      (fun taint => ∃ output, two.output = some output ∧ taint.Beneath output) one := by
  have permits := other.permits plain untagged
  have durable := other.durable plain untagged
  refine (permits.keeps plain ?_ ?_).reaches
    (satisfied_start ⟨task.body.reachable_entry, permits.entered⟩) finishes.reaches
  · intro offset instruction step taint lower reachable code acted returned beneath
    rcases (other.reached_iff offset).2 reachable with ⟨frame, reached⟩
    rcases other.solved reached with ⟨instruction', step', solved⟩
    rcases Option.some.inj (code.symm.trans solved.code)
    rw [Solver.assigned_eq reached, solved.acted] at acted
    cases acted
    rcases solved.given taint returned with ⟨output, known, covers⟩
    exact ⟨output, known, beneath.trans (covers.absorbs (durable.output output known))⟩
  · rintro first second ⟨output, known, firstBeneath⟩ ⟨output', known', secondBeneath⟩
    rcases Option.some.inj (known.symm.trans known')
    exact ⟨output, known, firstBeneath.join secondBeneath⟩

/-- Two finished runs have the same facts before the same locations. -/
theorem Finishes.frames_equiv (first : task.Finishes entry one) (plain : task.body.isPlain)
    (untagged : entry.All fun taint => taint.tags = ∅) (second : task.Finishes entry two)
    (offset : Offset) : Option.Rel (· ≈ ·) one.frames[offset]? two.frames[offset]? := by
  cases reached : one.frames[offset]? with
  | none =>
      cases reached' : two.frames[offset]? with
      | none => exact .none
      | some frame =>
          have reachable := (second.reached_iff offset).1 ⟨frame, reached'⟩
          rcases (first.reached_iff offset).2 reachable with ⟨known, reachedOne⟩
          rw [reached] at reachedOne
          cases reachedOne
  | some frame =>
      have reachable := (first.reached_iff offset).1 ⟨frame, reached⟩
      rcases (second.reached_iff offset).2 reachable with ⟨frame', reached'⟩
      have below := ((first.beneath plain untagged second).frames offset frame reached).2
      have above := ((second.beneath plain untagged first).frames offset frame' reached').2
      rw [Solver.assigned_eq reached'] at below
      rw [Solver.assigned_eq reached] at above
      rw [reached']
      exact .some (below.antisymm above)

/-- Two finished runs return the same, or neither returns anything. -/
theorem Finishes.output_equiv (first : task.Finishes entry one) (plain : task.body.isPlain)
    (untagged : entry.All fun taint => taint.tags = ∅) (second : task.Finishes entry two) :
    Option.Rel (· ≈ ·) one.output two.output := by
  have below := (first.beneath plain untagged second).output
  have above := (second.beneath plain untagged first).output
  cases known : one.output with
  | none =>
      cases known' : two.output with
      | none => exact .none
      | some output =>
          rcases above output known' with ⟨returned, knownOne, -⟩
          rw [known] at knownOne
          cases knownOne
  | some output =>
      rcases below output known with ⟨output', known', beneath⟩
      rcases above output' known' with ⟨returned, knownOne, beneathBack⟩
      rcases Option.some.inj (known.symm.trans knownOne)
      rw [known']
      exact .some (beneath.antisymm beneathBack)

/-- Code without calls and stores to arrays is analysed from the facts that hold on entry, in any order of
visits. The frames that a finished run ends with solve the inequations of the body, and lie beneath all
frames that do, so that all such runs end with the same facts; the analysis is one of them. -/
theorem plain_run_is_least {signature : Signature} (plain : task.body.isPlain)
    (entered : entryFrame task.context.policy task.method signature = .ok entry) :
    (∀ solver, task.Finishes entry solver →
      task.Permits entry solver.assigned ∧
      ∀ assigned, task.Permits entry assigned → ∀ offset, task.body.Reachable offset →
        ∃ frame, solver.frames[offset]? = some frame ∧ frame.Beneath (assigned offset)) ∧
    (∀ one two, task.Finishes entry one → task.Finishes entry two →
      (∀ offset : Offset, Option.Rel (· ≈ ·) one.frames[offset]? two.frames[offset]?) ∧
      Option.Rel (· ≈ ·) one.output two.output) ∧
    ∀ analysis summaries, task.method.signature = .ok signature →
      task.run.result = .ok (analysis, summaries) →
      ∃ solver, task.Finishes entry solver ∧ analysis.frames = solver.frames ∧
        analysis.output = solver.output := by
  have untagged := entryFrame_untagged entered
  refine ⟨?_, ?_, ?_⟩
  · intro solver finishes
    refine ⟨finishes.permits plain untagged, ?_⟩
    intro assigned permits offset reachable
    rcases (finishes.reached_iff offset).2 reachable with ⟨frame, reached⟩
    exact ⟨frame, reached, permits.beneath plain finishes reached⟩
  · intro one two first second
    exact ⟨first.frames_equiv plain untagged second, first.output_equiv plain untagged second⟩
  · intro analysis summaries read finished
    rcases run_eq_ok finished with ⟨signature', entry', solver, read', entered', solved, frames, output, -⟩
    rcases Except.ok.inj (read.symm.trans read')
    rcases Except.ok.inj (entered.symm.trans entered')
    exact ⟨solver, finishes_of_solve solved, frames, output⟩

end Task

/-- However often and in whatever order the locations of the loop are taken, a tainted text is returned,
and the frames of the analysis are among the ones that the instructions allow. -/
theorem appendingLoop_is_least :
    appendingLoop.body.isPlain ∧
      ∃ entry analysis summaries solver,
        entryFrame appendingLoop.context.policy appendingLoop.method
          ⟨["Ljava/lang/String;"], "Ljava/lang/String;"⟩ = .ok entry ∧
        appendingLoop.run.result = .ok (analysis, summaries) ∧ appendingLoop.Finishes entry solver ∧
        analysis.frames = solver.frames ∧ appendingLoop.Permits entry solver.assigned ∧
        ∀ other, appendingLoop.Finishes entry other →
          ∃ output, other.output = some output ∧ output.state = .tainted := by
  have plain : appendingLoop.body.isPlain := by decide
  have enters : (entryFrame appendingLoop.context.policy appendingLoop.method
      ⟨["Ljava/lang/String;"], "Ljava/lang/String;"⟩).toOption.isSome := by
    decide
  have returns : (appendingLoop.run.result.toOption.bind fun (analysis, _) =>
      analysis.output.map Taint.state) = some .tainted := by
    decide +kernel
  rcases Option.isSome_iff_exists.1 enters with ⟨entry, entered⟩
  rcases Option.bind_eq_some_iff.1 returns with ⟨⟨analysis, summaries⟩, ran, tainted⟩
  rcases Option.map_eq_some_iff.1 tainted with ⟨output, known, isTainted⟩
  rw [toOption_eq_some_iff] at entered ran
  rcases Task.plain_run_is_least plain entered with ⟨least, same, analysed⟩
  rcases analysed analysis summaries (by decide) ran with ⟨solver, finishes, frames, outputs⟩
  refine ⟨plain, entry, analysis, summaries, solver, entered, ran, finishes, frames,
    (least solver finishes).1, ?_⟩
  intro other finishesToo
  have equiv := (same solver other finishes finishesToo).2
  rw [← outputs, known] at equiv
  rcases Site.exists_of_returned equiv with ⟨returned, knownToo, sameOutput⟩
  exact ⟨returned, knownToo, sameOutput.state.symm.trans isTainted⟩

end TaintFlow
