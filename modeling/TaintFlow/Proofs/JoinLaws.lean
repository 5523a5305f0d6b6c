/-
Module: TaintFlow.Proofs.JoinLaws
Purpose: Facts that say the same are interchangeable, and joining facts is commutative, associative
  and absorbing up to that equivalence. Joining a fact with itself gives the fact back exactly when
  it carries no tags that a join would drop.
Main exports: sameBy_iff_same_keys, firstBy, recordAll_firstBy, Taint.Equiv.trans, Taint.Equiv.join, Taint.join_comm,
  Taint.join_assoc, Taint.join_join_self, Taint.join_self_iff, Taint.join_is_semilattice
-/
import Mathlib.Data.List.Perm.Subperm
import TaintFlow.Taint.Join

namespace TaintFlow

/-! ### Provenance up to order

On lists without repeated keys, the one-sided comparison of two lists is equality of their key sets.
Everything below about provenance goes through that reading. -/

section Provenance

variable {α κ : Type} [DecidableEq κ] {key : α → κ} {one two : List α}

theorem mem_keys_record {known : List α} {entry : α} {wanted : κ} :
    wanted ∈ (record key known entry).map key ↔ wanted ∈ known.map key ∨ key entry = wanted := by
  simp only [List.mem_map]
  exact exists_key_record

theorem mem_keys_recordAll {known entries : List α} {wanted : κ} :
    wanted ∈ (recordAll key known entries).map key ↔
      wanted ∈ known.map key ∨ wanted ∈ entries.map key := by
  simp only [List.mem_map]
  exact exists_key_recordAll

omit [DecidableEq κ] in
/-- Among lists without repeated keys, being equally long with every key of the first found in the
second is the same as having the same keys. -/
theorem sameBy_iff_same_keys (distinctOne : (one.map key).Nodup) (distinctTwo : (two.map key).Nodup) :
    SameBy key one two ↔ ∀ wanted, wanted ∈ one.map key ↔ wanted ∈ two.map key := by
  rw [← List.perm_ext_iff_of_nodup distinctOne distinctTwo]
  constructor
  · rintro ⟨equallyLong, found⟩
    have contained : one.map key ⊆ two.map key := by
      intro wanted member
      obtain ⟨entry, entryIn, rfl⟩ := List.mem_map.1 member
      exact List.mem_map.2 (found entry entryIn)
    exact (distinctOne.subperm contained).perm_of_length_le (by simp [equallyLong])
  · intro permuted
    refine ⟨by simpa using permuted.length_eq, ?_⟩
    intro entry entryIn
    exact List.mem_map.1 (permuted.mem_iff.1 (List.mem_map_of_mem entryIn))

/-! ### Provenance in order -/

variable {known entries : List α}

/-- The entries of a list that are the first ones with their key. -/
def firstBy (key : α → κ) (entries : List α) : List α :=
  entries.eraseDupsBy fun one two => key one = key two

theorem recordAll_append (key : α → κ) (known one two : List α) :
    recordAll key known (one ++ two) = recordAll key (recordAll key known one) two :=
  List.foldl_append

/-- Entries none of which has been there before are all noted down. -/
theorem recordAll_eq_append (distinct : ((known ++ entries).map key).Nodup) :
    recordAll key known entries = known ++ entries := by
  induction entries generalizing known with
  | nil => simp
  | cons entry rest inductionHypothesis =>
      have absent : ¬ ∃ old ∈ known, key old = key entry := by
        rintro ⟨old, oldIn, same⟩
        rw [List.map_append, List.nodup_append] at distinct
        exact distinct.2.2 _ (List.mem_map_of_mem oldIn) _ (List.mem_map_of_mem List.mem_cons_self) same
      rw [recordAll_cons, record, if_neg absent, inductionHypothesis (by simpa using distinct)]
      simp

theorem recordAll_nil_left (key : α → κ) (entries : List α) :
    recordAll key [] entries = firstBy key entries := by
  -- The library collects what it has met in reverse.
  have collects (known : List α) : recordAll key known entries =
      List.eraseDupsBy.loop (fun one two => key one = key two) entries known.reverse := by
    induction entries generalizing known with
    | nil => simp [List.eraseDupsBy.loop]
    | cons entry rest inductionHypothesis =>
        have met : known.reverse.any (key entry = key ·) = decide (∃ old ∈ known, key old = key entry) := by
          rw [Bool.eq_iff_iff, List.any_reverse, List.any_eq_true, decide_eq_true_iff]
          exact exists_congr fun old => and_congr_right fun _ => decide_eq_true_iff.trans eq_comm
        rw [recordAll_cons, inductionHypothesis, List.eraseDupsBy.loop, met, record]
        split
        next present => simp [present]
        next absent => simp [absent]
  exact collects []

/-- An entry that is noted down later is dropped if an earlier one has its key. -/
theorem recordAll_firstBy (key : α → κ) (known entries : List α) :
    recordAll key (firstBy key known) entries = firstBy key (known ++ entries) := by
  rw [← recordAll_nil_left, ← recordAll_nil_left, recordAll_append]

/-- Noting down what has been noted down before comes to the same as noting it all down at once. -/
theorem recordAll_recordAll (key : α → κ) (known seen entries : List α) :
    recordAll key known (recordAll key seen entries) = recordAll key (recordAll key known seen) entries := by
  induction entries generalizing seen with
  | nil => rfl
  | cons entry rest inductionHypothesis =>
      have first : recordAll key known (record key seen entry) = record key (recordAll key known seen) entry := by
        by_cases present : ∃ old ∈ seen, key old = key entry
        · have stillPresent : ∃ old ∈ recordAll key known seen, key old = key entry :=
            exists_key_recordAll.2 (Or.inr present)
          rw [record, if_pos present, record, if_pos stillPresent]
        · rw [record, if_neg present, recordAll_append]
          rfl
      rw [recordAll_cons, recordAll_cons, inductionHypothesis, first]

theorem recordAll_firstBy_right (key : α → κ) (known entries : List α) :
    recordAll key known (firstBy key entries) = recordAll key known entries := by
  rw [← recordAll_nil_left, recordAll_recordAll, recordAll_nil]

theorem nodup_keys_firstBy (key : α → κ) (entries : List α) : ((firstBy key entries).map key).Nodup := by
  rw [← recordAll_nil_left]
  exact nodup_keys_recordAll List.nodup_nil

theorem firstBy_eq_self (distinct : (entries.map key).Nodup) : firstBy key entries = entries := by
  rw [← recordAll_nil_left]
  exact recordAll_eq_append distinct

end Provenance

/-! ### Unions of finite sets -/

section Unions

variable {α : Type} {cmp : α → α → Ordering} [Std.TransCmp cmp] [Std.LawfulEqCmp cmp]

theorem setUnion_comm (one two : Std.ExtTreeSet α cmp) : one ∪ two = two ∪ one := by
  apply Std.ExtTreeSet.ext_mem
  intro item
  simp only [Std.ExtTreeSet.mem_union_iff, or_comm]

theorem setUnion_assoc (one two three : Std.ExtTreeSet α cmp) :
    (one ∪ two) ∪ three = one ∪ (two ∪ three) := by
  apply Std.ExtTreeSet.ext_mem
  intro item
  simp only [Std.ExtTreeSet.mem_union_iff, or_assoc]

@[simp] theorem setUnion_self (one : Std.ExtTreeSet α cmp) : one ∪ one = one := by
  apply Std.ExtTreeSet.ext_mem
  intro item
  simp only [Std.ExtTreeSet.mem_union_iff, or_self]

@[simp] theorem setUnion_union_self (one two : Std.ExtTreeSet α cmp) :
    (one ∪ two) ∪ two = one ∪ two := by
  rw [setUnion_assoc, setUnion_self]

end Unions

/-- Where two sides have been brought to agree, agreeing with the second again changes nothing. -/
theorem agreed_agreed_self {α : Type} [DecidableEq α] (one two : Option α) :
    agreed (agreed one two) two = agreed one two := by
  rw [agreed_assoc, agreed_self]

/-- What two sides agree on, both say. -/
theorem agreed_eq_some_iff {α : Type} [DecidableEq α] {one two : Option α} {value : α} :
    agreed one two = some value ↔ one = some value ∧ two = some value := by
  unfold agreed
  split
  next same => simp [same]
  next different =>
    constructor
    · intro impossible
      cases impossible
    · rintro ⟨rfl, rfl⟩
      exact absurd rfl different

/-- Only safe values merge to a safe one. -/
theorem State.merge_eq_safe_iff {one two : State} :
    one.merge two = .safe ↔ one = .safe ∧ two = .safe := by
  cases one <;> cases two <;> decide

namespace Taint

variable {one two three one' two' : Taint}

/-! ### Saying the same is an equivalence -/

theorem sameSources_iff :
    SameBy Source.key one.sources two.sources ↔
      ∀ wanted, wanted ∈ one.sources.map Source.key ↔ wanted ∈ two.sources.map Source.key :=
  sameBy_iff_same_keys one.sourcesDistinct two.sourcesDistinct

theorem sameLocations_iff :
    SameBy id one.locations two.locations ↔
      ∀ wanted, wanted ∈ one.locations.map id ↔ wanted ∈ two.locations.map id :=
  sameBy_iff_same_keys one.locationsDistinct two.locationsDistinct

theorem mem_sources_join {wanted : SourceKind × Option String} :
    wanted ∈ (one.join two).sources.map Source.key ↔
      wanted ∈ one.sources.map Source.key ∨ wanted ∈ two.sources.map Source.key :=
  mem_keys_recordAll

theorem mem_locations_join {wanted : Location} :
    wanted ∈ (one.join two).locations.map id ↔
      wanted ∈ one.locations.map id ∨ wanted ∈ two.locations.map id :=
  mem_keys_recordAll

protected theorem Equiv.refl (one : Taint) : one ≈ one where
  state := rfl
  tags := rfl
  strippedTags := rfl
  sources := sameSources_iff.2 fun _ => Iff.rfl
  locations := sameLocations_iff.2 fun _ => Iff.rfl
  parameters := rfl
  baseState := rfl
  literal := rfl
  runtimeClass := rfl
  slot := rfl
  allocation := rfl
  note := rfl

protected theorem Equiv.symm (same : one ≈ two) : two ≈ one where
  state := same.state.symm
  tags := same.tags.symm
  strippedTags := same.strippedTags.symm
  sources := sameSources_iff.2 fun wanted => (sameSources_iff.1 same.sources wanted).symm
  locations := sameLocations_iff.2 fun wanted => (sameLocations_iff.1 same.locations wanted).symm
  parameters := same.parameters.symm
  baseState := same.baseState.symm
  literal := same.literal.symm
  runtimeClass := same.runtimeClass.symm
  slot := same.slot.symm
  allocation := same.allocation.symm
  note := same.note.symm

protected theorem Equiv.trans (first : one ≈ two) (second : two ≈ three) : one ≈ three where
  state := first.state.trans second.state
  tags := first.tags.trans second.tags
  strippedTags := first.strippedTags.trans second.strippedTags
  sources := sameSources_iff.2 fun wanted =>
    (sameSources_iff.1 first.sources wanted).trans (sameSources_iff.1 second.sources wanted)
  locations := sameLocations_iff.2 fun wanted =>
    (sameLocations_iff.1 first.locations wanted).trans (sameLocations_iff.1 second.locations wanted)
  parameters := first.parameters.trans second.parameters
  baseState := first.baseState.trans second.baseState
  literal := first.literal.trans second.literal
  runtimeClass := first.runtimeClass.trans second.runtimeClass
  slot := first.slot.trans second.slot
  allocation := first.allocation.trans second.allocation
  note := first.note.trans second.note

instance : Trans (α := Taint) (· ≈ ·) (· ≈ ·) (· ≈ ·) := ⟨Equiv.trans⟩

/-! ### What a join adds to a call whatever the arguments are

Which of its two states a side contributes depends on whether arguments flow into it, and a join may
be the first place where they do. The contribution itself is not affected by that: it is merged like a
state. Associativity and absorption of the base state rest on this. -/

@[simp] theorem isParametric_join (one two : Taint) :
    (one.join two).isParametric = (one.isParametric || two.isParametric) := by
  simp [isParametric, join, Bool.not_and]

theorem baseState_join (one two : Taint) :
    (one.join two).baseState =
      if one.isParametric || two.isParametric then one.contribution.merge two.contribution
      else one.baseState.merge two.baseState := by
  rw [← isParametric_join]
  by_cases empty : (one.parameters ∪ two.parameters).isEmpty <;> simp [join, isParametric, empty]

theorem contribution_join (one two : Taint) :
    (one.join two).contribution = one.contribution.merge two.contribution := by
  unfold contribution
  rw [isParametric_join, baseState_join, state_join]
  unfold contribution
  cases one.isParametric <;> cases two.isParametric <;> rfl

theorem Equiv.isParametric (same : one ≈ two) : one.isParametric = two.isParametric := by
  simp only [Taint.isParametric, same.parameters]

theorem Equiv.contribution (same : one ≈ two) : one.contribution = two.contribution := by
  simp only [Taint.contribution, same.isParametric, same.baseState, same.state]

/-! ### The laws -/

/-- Facts that say the same can stand for each other in a join. -/
theorem Equiv.join (sameOne : one ≈ one') (sameTwo : two ≈ two') :
    one.join two ≈ one'.join two' where
  state := by rw [state_join, state_join, sameOne.state, sameTwo.state]
  tags := by
    simp only [Taint.join, sameOne.state, sameTwo.state, sameOne.tags, sameTwo.tags]
  strippedTags := by simp only [Taint.join, sameOne.strippedTags, sameTwo.strippedTags]
  sources := sameSources_iff.2 fun wanted => by
    rw [mem_sources_join, mem_sources_join, sameSources_iff.1 sameOne.sources,
      sameSources_iff.1 sameTwo.sources]
  locations := sameLocations_iff.2 fun wanted => by
    rw [mem_locations_join, mem_locations_join, sameLocations_iff.1 sameOne.locations,
      sameLocations_iff.1 sameTwo.locations]
  parameters := by simp only [Taint.join, sameOne.parameters, sameTwo.parameters]
  baseState := by
    rw [baseState_join, baseState_join, sameOne.isParametric, sameTwo.isParametric,
      sameOne.contribution, sameTwo.contribution, sameOne.baseState, sameTwo.baseState]
  literal := by simp only [Taint.join, sameOne.literal, sameTwo.literal]
  runtimeClass := by simp only [Taint.join, sameOne.runtimeClass, sameTwo.runtimeClass]
  slot := by simp only [Taint.join, sameOne.slot, sameTwo.slot]
  allocation := by simp only [Taint.join, sameOne.allocation, sameTwo.allocation]
  note := by simp only [Taint.join, sameOne.note, sameTwo.note]

/-- It does not matter which of two facts comes first. -/
theorem join_comm (one two : Taint) : one.join two ≈ two.join one where
  state := State.merge_comm _ _
  tags := by simp only [join, State.merge_comm one.state, setUnion_comm one.tags]
  strippedTags := setUnion_comm _ _
  sources := sameSources_iff.2 fun wanted => by rw [mem_sources_join, mem_sources_join, or_comm]
  locations := sameLocations_iff.2 fun wanted => by
    rw [mem_locations_join, mem_locations_join, or_comm]
  parameters := setUnion_comm _ _
  baseState := by
    rw [baseState_join, baseState_join, Bool.or_comm, State.merge_comm one.contribution,
      State.merge_comm one.baseState]
  literal := agreed_comm _ _
  runtimeClass := agreed_comm _ _
  slot := agreed_comm _ _
  allocation := agreed_comm _ _
  note := agreed_comm _ _

/-- It does not matter how three facts are bracketed. Tags survive either way exactly if all three
values are safe. -/
theorem join_assoc (one two three : Taint) :
    (one.join two).join three ≈ one.join (two.join three) where
  state := State.merge_assoc _ _ _
  tags := by
    simp only [join, State.merge_eq_safe_iff]
    by_cases oneSafe : one.state = .safe <;> by_cases twoSafe : two.state = .safe <;>
      by_cases threeSafe : three.state = .safe <;>
      simp [oneSafe, twoSafe, threeSafe, setUnion_assoc]
  strippedTags := setUnion_assoc _ _ _
  sources := sameSources_iff.2 fun wanted => by
    rw [mem_sources_join, mem_sources_join, mem_sources_join, mem_sources_join, or_assoc]
  locations := sameLocations_iff.2 fun wanted => by
    rw [mem_locations_join, mem_locations_join, mem_locations_join, mem_locations_join, or_assoc]
  parameters := setUnion_assoc _ _ _
  baseState := by
    simp only [baseState_join, isParametric_join, contribution_join]
    cases onePar : one.isParametric <;> cases twoPar : two.isParametric <;>
      cases threePar : three.isParametric <;>
      simp [State.merge_assoc, contribution, onePar, twoPar, threePar]
  literal := agreed_assoc _ _ _
  runtimeClass := agreed_assoc _ _ _
  slot := agreed_assoc _ _ _
  allocation := agreed_assoc _ _ _
  note := agreed_assoc _ _ _

/-- A join has taken in its second side for good. -/
theorem join_join_self (one two : Taint) : (one.join two).join two ≈ one.join two where
  state := by rw [state_join, state_join, State.merge_assoc, State.merge_self]
  tags := by
    simp only [join, State.merge_eq_safe_iff]
    by_cases oneSafe : one.state = .safe <;> by_cases twoSafe : two.state = .safe <;>
      simp [oneSafe, twoSafe]
  strippedTags := setUnion_union_self _ _
  sources := sameSources_iff.2 fun wanted => by
    rw [mem_sources_join, mem_sources_join, or_assoc, or_self]
  locations := sameLocations_iff.2 fun wanted => by
    rw [mem_locations_join, mem_locations_join, or_assoc, or_self]
  parameters := setUnion_union_self _ _
  baseState := by
    rw [baseState_join, isParametric_join, contribution_join, baseState_join, Bool.or_assoc,
      Bool.or_self, State.merge_assoc, State.merge_self]
    cases one.isParametric <;> cases two.isParametric <;>
      simp [State.merge_assoc]
  literal := agreed_agreed_self _ _
  runtimeClass := agreed_agreed_self _ _
  slot := agreed_agreed_self _ _
  allocation := agreed_agreed_self _ _
  note := agreed_agreed_self _ _

/-! ### Joining a fact with itself

The one thing that a join can lose is tags: they are dropped as soon as the joined value is not safe,
even if both sides are the same fact. Facts that keep their tags under a join are called durable. -/

/-- The tags of a fact are of the kind that a join keeps. -/
def Durable (taint : Taint) : Prop :=
  taint.state = .safe ∨ taint.tags = ∅

/-- The tags after a fact has been joined with itself. -/
theorem tags_join_self (one : Taint) :
    (one.join one).tags = if one.state = .safe then one.tags else ∅ := by
  simp only [join, State.merge_self, setUnion_self]

/-- A durable fact is not changed by meeting itself. -/
theorem Durable.join_self (durable : one.Durable) : one.join one ≈ one where
  state := State.merge_self _
  tags := by
    rw [tags_join_self]
    rcases durable with safe | untagged
    · exact if_pos safe
    · simp [untagged]
  strippedTags := setUnion_self _
  sources := sameSources_iff.2 fun wanted => by rw [mem_sources_join, or_self]
  locations := sameLocations_iff.2 fun wanted => by rw [mem_locations_join, or_self]
  parameters := setUnion_self _
  baseState := by
    rw [baseState_join, Bool.or_self, State.merge_self, State.merge_self]
    unfold contribution
    cases one.isParametric <;> rfl
  literal := agreed_self _
  runtimeClass := agreed_self _
  slot := agreed_self _
  allocation := agreed_self _
  note := agreed_self _

theorem join_self_iff : one.join one ≈ one ↔ one.Durable := by
  constructor
  · intro same
    by_cases safe : one.state = .safe
    · exact Or.inl safe
    · have dropped : ∅ = one.tags := by
        rw [← same.tags, tags_join_self, if_neg safe]
      exact Or.inr dropped.symm
  · exact Durable.join_self

/-- Joining is commutative, associative and absorbing, and it gives a fact back that is joined with
itself exactly if the fact is safe or has no tags. -/
theorem join_is_semilattice (one two three : Taint) :
    one.join two ≈ two.join one ∧
      (one.join two).join three ≈ one.join (two.join three) ∧
      (one.join two).join two ≈ one.join two ∧
      (one.join one ≈ one ↔ one.state = .safe ∨ one.tags = ∅) :=
  ⟨join_comm one two, join_assoc one two three, join_join_self one two, join_self_iff⟩

end Taint

end TaintFlow
