/-
Module: TaintFlow.Proofs.Rank
Purpose: A fact can change only finitely often. Whenever meeting another fact changes it, it climbs in
  rank, and as long as its provenance stays within that of some fixed fact, its rank is bounded.
Main exports: Taint.rank, Taint.rank_lt_join, Taint.Encloses, Taint.Encloses.rank_le, Frame.slack,
  Frame.slack_lt_of_join
-/
import Mathlib.Algebra.GroupWithZero.Nat
import TaintFlow.Proofs.Cells
import TaintFlow.Proofs.JoinLaws
import TaintFlow.Proofs.Steps

namespace TaintFlow

/-! ### Counting -/

section Counting

variable {α : Type} {cmp : α → α → Ordering} [Std.TransCmp cmp] [Std.LawfulEqCmp cmp]
  {one two : Std.ExtTreeSet α cmp}

theorem nodup_toList (set : Std.ExtTreeSet α cmp) : set.toList.Nodup := by
  refine Std.ExtTreeSet.distinct_toList.imp ?_
  rintro item _ different rfl
  exact different Std.ReflCmp.compare_self

theorem size_le_of_subset (subset : ∀ item ∈ one, item ∈ two) : one.size ≤ two.size := by
  have listed : one.toList ⊆ two.toList := by
    intro item member
    exact Std.ExtTreeSet.mem_toList.2 (subset item (Std.ExtTreeSet.mem_toList.1 member))
  have counted := (List.subperm_of_subset (nodup_toList one) listed).length_le
  simpa only [Std.ExtTreeSet.length_toList] using counted

/-- A set that grows without gaining members has not changed. -/
theorem union_eq_left_of_size_le (notMore : (one ∪ two).size ≤ one.size) : one ∪ two = one := by
  have listed : one.toList ⊆ (one ∪ two).toList := by
    intro item member
    rw [Std.ExtTreeSet.mem_toList] at member ⊢
    exact Std.ExtTreeSet.mem_union_iff.2 (Or.inl member)
  have permuted := (List.subperm_of_subset (nodup_toList one) listed).perm_of_length_le
    (by simpa only [Std.ExtTreeSet.length_toList] using notMore)
  apply Std.ExtTreeSet.ext_mem
  intro item
  rw [← Std.ExtTreeSet.mem_toList, ← Std.ExtTreeSet.mem_toList]
  exact permuted.mem_iff.symm

end Counting

/-- There are no more tags than those that are listed. -/
theorem size_tagSet_le (tags : TagSet) : tags.size ≤ 5 := by
  have listed : tags.toList ⊆ Tag.all := fun tag _ => Tag.mem_all tag
  rw [← Std.ExtTreeSet.length_toList]
  exact (List.subperm_of_subset (nodup_toList tags) listed).length_le

/-- One if something about a value is not known any more. -/
def lost {α : Type} : Option α → Nat
  | some _ => 0
  | none => 1

theorem lost_le_one {α : Type} (known : Option α) : lost known ≤ 1 := by
  cases known <;> simp [lost]

section Lost

variable {α : Type} [DecidableEq α] {one two : Option α}

theorem lost_le_agreed (one two : Option α) : lost one ≤ lost (agreed one two) := by
  unfold agreed
  split
  · exact Nat.le_refl _
  · exact lost_le_one one

theorem agreed_eq_left_of_lost_le (notMore : lost (agreed one two) ≤ lost one) :
    agreed one two = one := by
  unfold agreed at notMore ⊢
  split at notMore
  next same => rw [if_pos same]
  next different =>
    rw [if_neg different]
    cases one with
    | none => rfl
    | some value => simp [lost] at notMore

end Lost

namespace State

theorem danger_le_four (state : State) : state.danger ≤ 4 := by
  cases state <;> decide

end State

namespace Taint

variable {one two taint bound : Taint}

/-! ### The rank of a fact -/

/-- The part of the rank that tags make up. They accumulate while a value is safe; as soon as it is not,
the next join drops them, which is the end. -/
def tagRank (taint : Taint) : Nat :=
  if taint.state = .safe then taint.tags.size else if taint.tags.isEmpty then 6 else 0

theorem tagRank_le_six (taint : Taint) : taint.tagRank ≤ 6 := by
  have few := size_tagSet_le taint.tags
  unfold tagRank
  split
  · omega
  · split <;> omega

/-- The part of the rank that the state without arguments makes up. It starts anew when the first
argument flows into a value. -/
def baseRank (taint : Taint) : Nat :=
  if taint.isParametric then 5 + taint.baseState.danger else taint.baseState.danger

/-- The part of the rank that comes from what is not known of a value any more. -/
def lostRank (taint : Taint) : Nat :=
  lost taint.literal + lost taint.runtimeClass + lost taint.slot + lost taint.allocation +
    lost taint.note

/-- How far a fact has come from the first one that could stand in its place. -/
def rank (taint : Taint) : Nat :=
  taint.state.danger + taint.sources.length + taint.locations.length + taint.parameters.size +
    taint.strippedTags.size + taint.tagRank + taint.baseRank + taint.lostRank

/-! ### Each part climbs

For each part of the rank there are two lemmas: a join does not lower it, and a join that leaves it
where it is leaves what it counts as it is. -/

theorem state_le_join (one two : Taint) : one.state.danger ≤ (one.join two).state.danger := by
  rw [state_join, State.danger_merge]
  exact Nat.le_max_left _ _

theorem state_eq_of_le (notMore : (one.join two).state.danger ≤ one.state.danger) :
    (one.join two).state = one.state :=
  State.danger_inj (Nat.le_antisymm notMore (state_le_join one two))

private theorem sources_subset_join (one two : Taint) :
    one.sources.map Source.key ⊆ (one.join two).sources.map Source.key :=
  fun _ member => mem_sources_join.2 (Or.inl member)

theorem sources_le_join (one two : Taint) : one.sources.length ≤ (one.join two).sources.length := by
  simpa using (List.subperm_of_subset one.sourcesDistinct (sources_subset_join one two)).length_le

theorem sources_same_of_le (notMore : (one.join two).sources.length ≤ one.sources.length) :
    SameBy Source.key (one.join two).sources one.sources := by
  have permuted := (List.subperm_of_subset one.sourcesDistinct
    (sources_subset_join one two)).perm_of_length_le (by simpa using notMore)
  exact sameSources_iff.2 fun wanted => permuted.mem_iff.symm

private theorem locations_subset_join (one two : Taint) :
    one.locations.map id ⊆ (one.join two).locations.map id :=
  fun _ member => mem_locations_join.2 (Or.inl member)

theorem locations_le_join (one two : Taint) :
    one.locations.length ≤ (one.join two).locations.length := by
  simpa using (List.subperm_of_subset one.locationsDistinct (locations_subset_join one two)).length_le

theorem locations_same_of_le (notMore : (one.join two).locations.length ≤ one.locations.length) :
    SameBy id (one.join two).locations one.locations := by
  have permuted := (List.subperm_of_subset one.locationsDistinct
    (locations_subset_join one two)).perm_of_length_le (by simpa using notMore)
  exact sameLocations_iff.2 fun wanted => permuted.mem_iff.symm

theorem tagRank_le_join (one two : Taint) : one.tagRank ≤ (one.join two).tagRank := by
  by_cases safe : (one.join two).state = .safe
  · have safeOne : one.state = .safe := (State.merge_eq_safe_iff.1 safe).1
    have tags : (one.join two).tags = one.tags ∪ two.tags := if_pos safe
    rw [tagRank, tagRank, if_pos safe, if_pos safeOne, tags]
    exact Std.ExtTreeSet.size_left_le_size_union
  · have dropped : (one.join two).tags = ∅ := if_neg safe
    have highest : (one.join two).tagRank = 6 := by
      rw [tagRank, if_neg safe, dropped]
      rfl
    rw [highest]
    exact tagRank_le_six one

theorem tags_eq_of_tagRank_le (notMore : (one.join two).tagRank ≤ one.tagRank) :
    (one.join two).tags = one.tags := by
  by_cases safe : (one.join two).state = .safe
  · have safeOne : one.state = .safe := (State.merge_eq_safe_iff.1 safe).1
    have tags : (one.join two).tags = one.tags ∪ two.tags := if_pos safe
    rw [tagRank, tagRank, if_pos safe, if_pos safeOne, tags] at notMore
    rw [tags]
    exact union_eq_left_of_size_le notMore
  · have dropped : (one.join two).tags = ∅ := if_neg safe
    have few := size_tagSet_le one.tags
    rw [tagRank, if_neg safe, dropped, if_pos Std.ExtTreeSet.isEmpty_empty, tagRank] at notMore
    rw [dropped]
    split at notMore
    next => omega
    next =>
      split at notMore
      next empty => exact (Std.ExtTreeSet.isEmpty_iff.1 empty).symm
      next => omega

/-- Once an argument flows into a value, one always does, and the state without it only climbs. -/
theorem baseRank_le_join (one two : Taint) : one.baseRank ≤ (one.join two).baseRank := by
  unfold baseRank
  rw [isParametric_join, baseState_join]
  have few := State.danger_le_four one.baseState
  cases parametricOne : one.isParametric with
  | true =>
      have contributed : one.contribution = one.baseState := if_pos parametricOne
      simp only [Bool.true_or, if_true, State.danger_merge, contributed]
      omega
  | false =>
      cases parametricTwo : two.isParametric <;>
        simp only [Bool.or_true, Bool.or_self, Bool.false_eq_true, if_true, if_false,
          State.danger_merge] <;>
        omega

theorem baseState_eq_of_baseRank_le (notMore : (one.join two).baseRank ≤ one.baseRank) :
    (one.join two).baseState = one.baseState := by
  unfold baseRank at notMore
  rw [isParametric_join, baseState_join] at notMore
  rw [baseState_join]
  have few := State.danger_le_four one.baseState
  apply State.danger_inj
  cases parametricOne : one.isParametric with
  | true =>
      have contributed : one.contribution = one.baseState := if_pos parametricOne
      simp only [parametricOne, Bool.true_or, if_true, State.danger_merge, contributed] at notMore ⊢
      omega
  | false =>
      cases parametricTwo : two.isParametric <;>
        simp only [parametricOne, parametricTwo, Bool.or_true, Bool.or_self, Bool.false_eq_true,
          if_true, if_false, State.danger_merge] at notMore ⊢ <;>
        omega

theorem lostRank_le_join (one two : Taint) : one.lostRank ≤ (one.join two).lostRank := by
  have literal := lost_le_agreed one.literal two.literal
  have runtimeClass := lost_le_agreed one.runtimeClass two.runtimeClass
  have slot := lost_le_agreed one.slot two.slot
  have allocation := lost_le_agreed one.allocation two.allocation
  have note := lost_le_agreed one.note two.note
  simp only [lostRank, join]
  omega

/-! ### The rank climbs -/

/-- A join that does not raise the rank adds nothing. -/
theorem absorbs_of_rank_le (notMore : (one.join two).rank ≤ one.rank) : one.Absorbs two := by
  have state := state_le_join one two
  have sources := sources_le_join one two
  have locations := locations_le_join one two
  have parameters : one.parameters.size ≤ (one.join two).parameters.size :=
    Std.ExtTreeSet.size_left_le_size_union
  have strippedTags : one.strippedTags.size ≤ (one.join two).strippedTags.size :=
    Std.ExtTreeSet.size_left_le_size_union
  have tags := tagRank_le_join one two
  have base := baseRank_le_join one two
  have lostOnes := lostRank_le_join one two
  unfold rank at notMore
  have literal := lost_le_agreed one.literal two.literal
  have runtimeClass := lost_le_agreed one.runtimeClass two.runtimeClass
  have slot := lost_le_agreed one.slot two.slot
  have allocation := lost_le_agreed one.allocation two.allocation
  have note := lost_le_agreed one.note two.note
  have notLost : (one.join two).lostRank ≤ one.lostRank := by omega
  simp only [lostRank, join] at notLost
  exact {
    state := state_eq_of_le (by omega)
    tags := tags_eq_of_tagRank_le (by omega)
    strippedTags := union_eq_left_of_size_le (show (one.join two).strippedTags.size ≤ _ by omega)
    sources := sources_same_of_le (by omega)
    locations := locations_same_of_le (by omega)
    parameters := union_eq_left_of_size_le (show (one.join two).parameters.size ≤ _ by omega)
    baseState := baseState_eq_of_baseRank_le (by omega)
    literal := agreed_eq_left_of_lost_le (by omega)
    runtimeClass := agreed_eq_left_of_lost_le (by omega)
    slot := agreed_eq_left_of_lost_le (by omega)
    allocation := agreed_eq_left_of_lost_le (by omega)
    note := agreed_eq_left_of_lost_le (by omega) }

/-- Whenever meeting another fact changes a fact, its rank climbs. -/
theorem rank_lt_join (adds : ¬ one.Absorbs two) : one.rank < (one.join two).rank := by
  by_contra notAbove
  exact adds (absorbs_of_rank_le (Nat.le_of_not_lt notAbove))

/-! ### Facts of bounded provenance -/

/-- Every source, location and argument that the fact names is named by the bound as well. -/
structure Encloses (bound taint : Taint) : Prop where
  sources : ∀ key ∈ taint.sources.map Source.key, key ∈ bound.sources.map Source.key
  locations : ∀ location ∈ taint.locations.map id, location ∈ bound.locations.map id
  parameters : ∀ index ∈ taint.parameters, index ∈ bound.parameters

/-- The highest rank of a fact that the bound encloses. -/
def ceiling (bound : Taint) : Nat :=
  bound.sources.length + bound.locations.length + bound.parameters.size + 29

theorem Encloses.rank_le (encloses : bound.Encloses taint) : taint.rank ≤ bound.ceiling := by
  have state := State.danger_le_four taint.state
  have base := State.danger_le_four taint.baseState
  have sources := (List.subperm_of_subset taint.sourcesDistinct encloses.sources).length_le
  have locations := (List.subperm_of_subset taint.locationsDistinct encloses.locations).length_le
  have parameters := size_le_of_subset encloses.parameters
  have strippedTags := size_tagSet_le taint.strippedTags
  have tags := tagRank_le_six taint
  have literal := lost_le_one taint.literal
  have runtimeClass := lost_le_one taint.runtimeClass
  have slot := lost_le_one taint.slot
  have allocation := lost_le_one taint.allocation
  have note := lost_le_one taint.note
  have baseRank : taint.baseRank ≤ 9 := by
    unfold Taint.baseRank
    split <;> omega
  rw [List.length_map, List.length_map] at sources locations
  simp only [rank, ceiling, lostRank]
  omega

theorem Encloses.trans (first : one.Encloses taint) (second : bound.Encloses one) :
    bound.Encloses taint where
  sources key named := second.sources key (first.sources key named)
  locations location named := second.locations location (first.locations location named)
  parameters index named := second.parameters index (first.parameters index named)

theorem encloses_join_left (one two : Taint) : (one.join two).Encloses one where
  sources _ named := mem_sources_join.2 (Or.inl named)
  locations _ named := mem_locations_join.2 (Or.inl named)
  parameters _ named := Std.ExtTreeSet.mem_union_iff.2 (Or.inl named)

theorem encloses_join_right (one two : Taint) : (one.join two).Encloses two where
  sources _ named := mem_sources_join.2 (Or.inr named)
  locations _ named := mem_locations_join.2 (Or.inr named)
  parameters _ named := Std.ExtTreeSet.mem_union_iff.2 (Or.inr named)

/-- Facts that name nothing are enclosed by every bound. -/
theorem encloses_of_nothing (noSources : taint.sources = []) (noLocations : taint.locations = [])
    (noParameters : taint.parameters = ∅) : bound.Encloses taint where
  sources key named := by simp [noSources] at named
  locations location named := by simp [noLocations] at named
  parameters index named := by simp [noParameters] at named

theorem Encloses.join (first : bound.Encloses one) (second : bound.Encloses two) :
    bound.Encloses (one.join two) where
  sources key named := by
    rcases mem_sources_join.1 named with inOne | inTwo
    · exact first.sources key inOne
    · exact second.sources key inTwo
  locations location named := by
    rcases mem_locations_join.1 named with inOne | inTwo
    · exact first.locations location inOne
    · exact second.locations location inTwo
  parameters index named := by
    rcases Std.ExtTreeSet.mem_union_iff.1 named with inOne | inTwo
    · exact first.parameters index inOne
    · exact second.parameters index inTwo

theorem closed_encloses (bound : Taint) : Closed bound.Encloses where
  alike encloses like := by
    refine ⟨?_, ?_, ?_⟩
    · rw [like.sources]
      exact encloses.sources
    · rw [like.locations]
      exact encloses.locations
    · rw [like.parameters]
      exact encloses.parameters
  joins := Encloses.join

theorem Encloses.addSource {source : Source} (encloses : bound.Encloses taint)
    (named : source.key ∈ bound.sources.map Source.key) : bound.Encloses (taint.addSource source) where
  sources key member := by
    rcases mem_keys_record.1 member with old | rfl
    · exact encloses.sources key old
    · exact named
  locations := encloses.locations
  parameters := encloses.parameters

theorem Encloses.addLocation {location : Location} (encloses : bound.Encloses taint)
    (named : location ∈ bound.locations.map id) : bound.Encloses (taint.addLocation location) where
  sources := encloses.sources
  locations other member := by
    rcases mem_keys_record.1 member with old | rfl
    · exact encloses.locations other old
    · exact named
  parameters := encloses.parameters

end Taint

namespace Frame

variable {frame other joined : Frame} {bound : Taint} {changed : Bool}

/-! ### Frames that run out of changes -/

/-- How far some facts are from the highest rank that they can have. -/
def slackOf (ceiling : Nat) (cells : List Taint) : Nat :=
  (cells.map fun cell => ceiling - cell.rank).sum

/-- How far the cells of a frame are from the highest rank that they can have. -/
def slack (ceiling : Nat) (frame : Frame) : Nat :=
  slackOf ceiling frame.locals + slackOf ceiling frame.stack

private theorem slackOf_zipWith_absorb {ceiling : Nat} {mine theirs : List Taint}
    (low : ∀ cell ∈ List.zipWith Taint.absorb mine theirs, cell.rank ≤ ceiling)
    (sameLength : mine.length = theirs.length) :
    slackOf ceiling (List.zipWith Taint.absorb mine theirs) ≤ slackOf ceiling mine ∧
      (gains mine theirs = true →
        slackOf ceiling (List.zipWith Taint.absorb mine theirs) < slackOf ceiling mine) := by
  induction mine generalizing theirs with
  | nil =>
      cases theirs with
      | nil => exact ⟨Nat.le_refl _, by simp [gains]⟩
      | cons _ _ => simp at sameLength
  | cons cell rest inductionHypothesis =>
      cases theirs with
      | nil => simp at sameLength
      | cons theirCell theirRest =>
          rw [List.zipWith_cons_cons, List.forall_mem_cons] at low
          obtain ⟨notMore, less⟩ := inductionHypothesis low.2 (by simpa using sameLength)
          simp only [slackOf, List.zipWith_cons_cons, List.map_cons, List.sum_cons] at notMore less ⊢
          by_cases absorbs : cell.Absorbs theirCell
          · have kept : cell.absorb theirCell = cell := if_pos absorbs
            rw [kept]
            refine ⟨by omega, ?_⟩
            intro gained
            have gainedRest : gains rest theirRest = true := by simpa [gains, absorbs] using gained
            have lessRest := less gainedRest
            omega
          · have joined : cell.absorb theirCell = cell.join theirCell := if_neg absorbs
            rw [joined] at low ⊢
            have climbs := Taint.rank_lt_join absorbs
            have lowHead := low.1
            exact ⟨by omega, fun _ => by omega⟩

/-- A meeting that changes a frame uses up slack, as long as its facts stay enclosed. -/
theorem slack_lt_of_join (enclosed : joined.All bound.Encloses)
    (met : frame.join other = .ok (joined, true)) :
    joined.slack bound.ceiling < frame.slack bound.ceiling := by
  obtain ⟨sameLocals, sameDepth, rfl, gained⟩ := join_eq_ok_iff.1 met
  obtain ⟨locals, lessLocals⟩ := slackOf_zipWith_absorb
    (fun cell member => (enclosed.locals cell member).rank_le) sameLocals
  obtain ⟨stack, lessStack⟩ := slackOf_zipWith_absorb
    (fun cell member => (enclosed.stack cell member).rank_le) sameDepth
  rcases Bool.or_eq_true_iff.1 gained.symm with inLocals | inStack
  · exact Nat.add_lt_add_of_lt_of_le (lessLocals inLocals) stack
  · exact Nat.add_lt_add_of_le_of_lt locals (lessStack inStack)

end Frame

end TaintFlow
