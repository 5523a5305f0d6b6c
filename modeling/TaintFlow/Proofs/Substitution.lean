/-
Module: TaintFlow.Proofs.Substitution
Purpose: A fact about a value into which arguments flow, read as a function of the states of these
  arguments. Joins commute with that reading, and it is what a call puts in place of a template.
Main exports: Taint.valueUnder, Taint.valueUnder_join, Taint.Symbolic, Taint.outcomeUnder,
  Taint.state_instantiate, Taint.Symbolic.instantiate
-/
import TaintFlow.Call.Effect
import TaintFlow.Proofs.Covering
import TaintFlow.Proofs.Results
import TaintFlow.Proofs.Steps

namespace TaintFlow

namespace State

/-- The most dangerous of some states, and safe if there are none. -/
def mergeAll (states : List State) : State :=
  states.foldr merge safe

theorem mergeAll_le_iff {states : List State} {bound : State} :
    mergeAll states ≤ bound ↔ ∀ state ∈ states, state ≤ bound := by
  induction states with
  | nil => simp [mergeAll, le_def, danger]
  | cons state rest inductionHypothesis =>
      rw [List.forall_mem_cons, ← inductionHypothesis]
      exact merge_le_iff

/-- States with the same bounds are equal. -/
theorem eq_of_le_iff {one two : State} (sameBounds : ∀ bound, one ≤ bound ↔ two ≤ bound) :
    one = two := by
  have first : one ≤ two := (sameBounds two).2 (State.le_refl two)
  have second : two ≤ one := (sameBounds one).1 (State.le_refl one)
  exact State.le_antisymm first second

theorem merge_eq_left_iff {one two : State} : one.merge two = one ↔ two ≤ one := by
  constructor
  · intro same
    rw [← same]
    exact le_merge_right one two
  · intro below
    exact State.le_antisymm (merge_le_iff.2 ⟨State.le_refl one, below⟩) (le_merge_left one two)

theorem merge_mono {one two three four : State} (first : one ≤ two) (second : three ≤ four) :
    one.merge three ≤ two.merge four :=
  merge_le_iff.2
    ⟨State.le_trans first (le_merge_left two four), State.le_trans second (le_merge_right two four)⟩

end State

namespace Taint

variable {one two upper lower taint template : Taint} {assigned : Nat → State} {bound : State}

/-! ### The value of a fact -/

/-- The state of a value if the arguments at the given stack indices have the given states. -/
def valueUnder (assigned : Nat → State) (taint : Taint) : State :=
  taint.contribution.merge (.mergeAll (taint.parameters.toList.map assigned))

theorem valueUnder_le_iff :
    taint.valueUnder assigned ≤ bound ↔
      taint.contribution ≤ bound ∧ ∀ index ∈ taint.parameters, assigned index ≤ bound := by
  rw [valueUnder, State.merge_le_iff, State.mergeAll_le_iff]
  simp [Std.ExtTreeSet.mem_toList]

/-- Joining and putting states in place of arguments can be done in either order. -/
theorem valueUnder_join (one two : Taint) :
    (one.join two).valueUnder assigned = (one.valueUnder assigned).merge (two.valueUnder assigned) := by
  apply State.eq_of_le_iff
  intro bound
  have members (index : Nat) :
      index ∈ (one.join two).parameters ↔ index ∈ one.parameters ∨ index ∈ two.parameters :=
    Std.ExtTreeSet.mem_union_iff
  rw [State.merge_le_iff, valueUnder_le_iff, valueUnder_le_iff, valueUnder_le_iff, contribution_join,
    State.merge_le_iff]
  constructor
  · rintro ⟨⟨first, second⟩, arguments⟩
    exact ⟨⟨first, fun index member => arguments index ((members index).2 (Or.inl member))⟩,
      ⟨second, fun index member => arguments index ((members index).2 (Or.inr member))⟩⟩
  · rintro ⟨⟨first, firstArguments⟩, ⟨second, secondArguments⟩⟩
    refine ⟨⟨first, second⟩, ?_⟩
    intro index member
    rcases (members index).1 member with inOne | inTwo
    · exact firstArguments index inOne
    · exact secondArguments index inTwo

theorem Equiv.valueUnder (same : one ≈ two) : one.valueUnder assigned = two.valueUnder assigned := by
  rw [Taint.valueUnder, Taint.valueUnder, Equiv.contribution same, Equiv.parameters same]

/-- A value is no more dangerous than another one if the arguments have the given states. -/
def Below (assigned : Nat → State) (lower upper : Taint) : Prop :=
  lower.valueUnder assigned ≤ upper.valueUnder assigned

theorem below_of_eq (same : one.valueUnder assigned = two.valueUnder assigned) :
    one.Below assigned two := by
  unfold Below
  rw [same]
  exact State.le_refl _

theorem Below.trans {three : Taint} (first : one.Below assigned two)
    (second : two.Below assigned three) : one.Below assigned three :=
  State.le_trans first second

/-- A fact that adds nothing adds nothing to the value either. -/
theorem Covers.below (covers : upper.Covers lower) : lower.Below assigned upper := by
  have same : (upper.join lower).valueUnder assigned = (upper.join upper).valueUnder assigned :=
    Equiv.valueUnder covers
  rw [valueUnder_join, valueUnder_join, State.merge_self] at same
  exact State.merge_eq_left_iff.1 same

theorem Below.join (first : one.Below assigned upper) (second : two.Below assigned upper) :
    (one.join two).Below assigned upper := by
  unfold Below
  rw [valueUnder_join]
  exact State.merge_le_iff.2 ⟨first, second⟩

theorem Below.absorb (first : one.Below assigned upper) (second : two.Below assigned upper) :
    (one.absorb two).Below assigned upper := by
  unfold Taint.absorb
  split
  · exact first
  · exact first.join second

end Taint

/-- Instructions respect the order of values. -/
theorem congruence_below (assigned : Nat → State) : Congruence (Taint.Below assigned) where
  alike := by
    intro one two one' two' below likeOne likeTwo
    have same {taint taint' : Taint} (like : taint'.Alike taint) :
        taint'.valueUnder assigned = taint.valueUnder assigned := by
      unfold Taint.valueUnder Taint.contribution Taint.isParametric
      rw [like.state, like.parameters, like.baseState]
    unfold Taint.Below
    rw [same likeOne, same likeTwo]
    exact below
  joins := by
    intro one two three four first second
    unfold Taint.Below
    rw [Taint.valueUnder_join, Taint.valueUnder_join]
    exact State.merge_mono first second

namespace Frame

variable {frame other joined upper lower : Frame} {changed : Bool} {assigned : Nat → State}

/-- A frame of which every cell is below the one of another frame. -/
def Below (assigned : Nat → State) : Frame → Frame → Prop :=
  Related (Taint.Below assigned)

theorem Below.trans (first : lower.Below assigned frame) (second : frame.Below assigned upper) :
    lower.Below assigned upper := by
  have composes (one two three : Taint) (lower : one.Below assigned two)
      (upper : two.Below assigned three) : one.Below assigned three :=
    lower.trans upper
  exact Related.trans composes first second

theorem Covers.below (covers : upper.Covers lower) : lower.Below assigned upper :=
  (Related.imp (fun _ _ onTop => Taint.Covers.below onTop) covers).flip

theorem Below.join (first : frame.Below assigned upper) (second : other.Below assigned upper)
    (met : frame.join other = .ok (joined, changed)) : joined.Below assigned upper := by
  have least (one two bound : Taint) (lower : one.Below assigned bound)
      (other : two.Below assigned bound) : (one.absorb two).Below assigned bound :=
    lower.absorb other
  exact Related.join least first second met

end Frame

namespace Taint

variable {one two taint template : Taint} {assigned : Nat → State} {indices : List Nat}

/-! ### Facts that are symbolic in some arguments -/

/-- Only the given arguments flow into the value, and while any does, the state says no more than that
and what the value is in any case. -/
structure Symbolic (indices : List Nat) (taint : Taint) : Prop where
  known : ∀ index ∈ taint.parameters, index ∈ indices
  state : taint.isParametric → taint.state = State.unknown.merge taint.contribution

theorem isParametric_eq_false_iff : taint.isParametric = false ↔ taint.parameters = ∅ := by
  simp [isParametric, Std.ExtTreeSet.isEmpty_iff]

theorem contribution_of_not_isParametric (plain : taint.isParametric = false) :
    taint.contribution = taint.state := by
  simp [contribution, plain]

/-- Without arguments, a value is what its state says. -/
theorem valueUnder_of_parameters_eq_empty (nothing : taint.parameters = ∅) :
    taint.valueUnder assigned = taint.state := by
  have plain := isParametric_eq_false_iff.2 nothing
  have noArguments : taint.parameters.toList = [] := Std.ExtTreeSet.toList_eq_nil_iff.2 nothing
  simp [valueUnder, contribution_of_not_isParametric plain, noArguments, State.mergeAll]

theorem symbolic_of_parameters_eq_empty (nothing : taint.parameters = ∅) :
    taint.Symbolic indices where
  known index member := by simp [nothing] at member
  state parametric := by
    rw [isParametric_eq_false_iff.2 nothing] at parametric
    cases parametric

theorem Symbolic.alike {taint' : Taint} (symbolic : taint.Symbolic indices)
    (like : taint'.Alike taint) : taint'.Symbolic indices := by
  have parametric : taint'.isParametric = taint.isParametric := by
    rw [isParametric, isParametric, like.parameters]
  have contributed : taint'.contribution = taint.contribution := by
    rw [contribution, contribution, parametric, like.state, like.baseState]
  refine ⟨?_, ?_⟩
  · rw [like.parameters]
    exact symbolic.known
  · rw [parametric, like.state, contributed]
    exact symbolic.state

theorem Symbolic.join (first : one.Symbolic indices) (second : two.Symbolic indices) :
    (one.join two).Symbolic indices where
  known index member := by
    rcases Std.ExtTreeSet.mem_union_iff.1 member with inOne | inTwo
    · exact first.known index inOne
    · exact second.known index inTwo
  state parametric := by
    rw [state_join, contribution_join]
    apply State.danger_inj
    -- A side into which no argument flows contributes its state; there is another side then.
    cases parametricOne : one.isParametric with
    | true =>
        rw [first.state parametricOne]
        cases parametricTwo : two.isParametric with
        | true =>
            rw [second.state parametricTwo]
            simp only [State.danger_merge]
            omega
        | false =>
            rw [← contribution_of_not_isParametric parametricTwo]
            simp only [State.danger_merge]
            omega
    | false =>
        rw [isParametric_join, parametricOne, Bool.false_or] at parametric
        rw [← contribution_of_not_isParametric parametricOne, second.state parametric]
        simp only [State.danger_merge]
        omega

theorem closed_symbolic (indices : List Nat) : Closed (Symbolic indices) where
  alike := Symbolic.alike
  joins := Symbolic.join

theorem Symbolic.valueUnder_eq_state (symbolic : taint.Symbolic []) :
    taint.valueUnder assigned = taint.state := by
  have nothing : taint.parameters = ∅ := by
    apply Std.ExtTreeSet.ext_mem
    intro index
    simpa using symbolic.known index
  exact valueUnder_of_parameters_eq_empty nothing

/-! ### Templates at a call -/

/-- Gathering words merges their states. -/
theorem gather_state {frame : Frame} (start : Option Taint)
    (words : ∀ index ∈ indices, ∃ word, frame.peek index = .ok word ∧ word.state = assigned index) :
    ∃ gathered, indices.foldlM (fun gathered index => do
        let word ← frame.peek index
        return Taint.combine gathered (some word)) start = Except.ok gathered ∧
      gathered.elim .safe state =
        (start.elim .safe state).merge (.mergeAll (indices.map assigned)) := by
  induction indices generalizing start with
  | nil => exact ⟨start, rfl, by simp [State.mergeAll]⟩
  | cons index later inductionHypothesis =>
      obtain ⟨⟨word, peeked, wordState⟩, others⟩ := List.forall_mem_cons.1 words
      obtain ⟨gathered, collected, merged⟩ := inductionHypothesis (combine start (some word)) others
      have combined : (combine start (some word)).elim .safe state =
          (start.elim .safe state).merge (assigned index) := by
        rw [← wordState]
        cases start with
        | none => simp [combine]
        | some known => rfl
      refine ⟨gathered, ?_, ?_⟩
      · rw [List.foldlM_cons, peeked]
        exact collected
      · rw [merged, combined, State.merge_assoc]
        rfl

/-- The state of what a call puts in the place of a template, if the words at the given stack indices have
the given states. Only an unknown template is put together from its arguments, any other one is taken as it
is. -/
def outcomeUnder (assigned : Nat → State) (template : Taint) : State :=
  if template.state = .unknown ∧ template.isParametric then template.valueUnder assigned
  else template.state

theorem state_resolved {frame : Frame}
    (words : ∀ index ∈ template.parameters,
      ∃ word, frame.peek index = .ok word ∧ word.state = assigned index) :
    ∃ taint, template.resolved frame = .ok taint ∧ taint.state = template.outcomeUnder assigned := by
  unfold Taint.resolved outcomeUnder
  split
  next unresolved =>
    obtain ⟨gathered, collected, merged⟩ := gather_state none fun index listed =>
      words index (Std.ExtTreeSet.mem_toList.1 listed)
    have value : template.valueUnder assigned =
        template.baseState.merge (gathered.elim .safe Taint.state) := by
      rw [merged, valueUnder, contribution, if_pos unresolved.2, Option.elim_none, State.safe_merge]
    have found : frame.gather template.parameters.toList = .ok gathered := collected
    rw [found, value]
    cases gathered with
    | none => exact ⟨_, rfl, by simp [Taint.of]⟩
    | some arguments => exact ⟨_, rfl, rfl⟩
  next settled => exact ⟨template, rfl, rfl⟩

/-- What is noted on the result of a call does not change its state. -/
theorem state_instantiate {frame : Frame}
    (words : ∀ index ∈ template.parameters,
      ∃ word, frame.peek index = .ok word ∧ word.state = assigned index) (location : Location) :
    ∃ taint, template.instantiate location frame = .ok taint ∧
      taint.state = template.outcomeUnder assigned := by
  obtain ⟨taint, resolved, outcome⟩ := state_resolved words
  unfold Taint.instantiate
  rw [resolved]
  refine ⟨_, rfl, ?_⟩
  dsimp only
  split
  · exact outcome
  · exact outcome

/-- A symbolic template is more than unknown only if its value is so in any case, so that no valid argument
makes a difference. -/
theorem Symbolic.outcomeUnder_eq (symbolic : template.Symbolic indices)
    (valid : ∀ index ∈ indices, assigned index ≠ .invalid) :
    template.outcomeUnder assigned = template.valueUnder assigned := by
  unfold outcomeUnder
  split
  next => rfl
  next settled =>
    cases parametric : template.isParametric with
    | false =>
        have nothing := isParametric_eq_false_iff.1 parametric
        exact (valueUnder_of_parameters_eq_empty nothing).symm
    | true =>
        have stated := symbolic.state parametric
        have more : State.tainted ≤ template.contribution := by
          have notUnknown : template.state ≠ .unknown := fun unknown => settled ⟨unknown, parametric⟩
          rw [stated] at notUnknown
          revert notUnknown
          cases template.contribution <;> decide
        have arguments : State.mergeAll (template.parameters.toList.map assigned) ≤ .tainted := by
          rw [State.mergeAll_le_iff]
          intro argument member
          obtain ⟨index, listed, rfl⟩ := List.mem_map.1 member
          have notInvalid := valid index (symbolic.known index (Std.ExtTreeSet.mem_toList.1 listed))
          revert notInvalid
          cases assigned index <;> decide
        rw [valueUnder, State.merge_eq_left_iff.2 (State.le_trans arguments more), stated,
          State.merge_comm, State.merge_eq_left_iff]
        exact State.le_trans (by decide) more

/-- What a call puts in place of a symbolic template has the value that the template has under the states of
the words on the stack. -/
theorem Symbolic.instantiate {frame : Frame} (symbolic : template.Symbolic indices)
    (valid : ∀ index ∈ indices, assigned index ≠ .invalid)
    (words : ∀ index ∈ indices, ∃ word, frame.peek index = .ok word ∧ word.state = assigned index)
    (location : Location) :
    ∃ taint, template.instantiate location frame = .ok taint ∧
      taint.state = template.valueUnder assigned := by
  rw [← symbolic.outcomeUnder_eq valid]
  exact state_instantiate (fun index named => words index (symbolic.known index named)) location

end Taint

end TaintFlow
