/-
Module: TaintFlow.Proofs.Cores
Purpose: What a fact decides, apart from the remark about it and from tags that do not last. Tags last on
  safe values only, so that a value that is not safe loses them when it meets any other. Such cores can be
  taken before facts meet or after, and a fact that covers another one has a core to which the core of the
  other one adds nothing, down to the order of provenance.
Main exports: Taint.unremarked, Taint.core, Taint.core_join, Taint.Covers.core_join, Frame.core,
  Frame.meet, Frame.Covers.core_meet
-/
import TaintFlow.Proofs.Covering
import TaintFlow.Proofs.Steps

namespace TaintFlow

attribute [ext] Taint

/-! ### A fact to which nothing is added -/

section Records

variable {α κ : Type} [DecidableEq κ] {key : α → κ}

/-- Entries are only ever added at the end. -/
theorem exists_recordAll_eq_append (key : α → κ) (known entries : List α) :
    ∃ added, recordAll key known entries = known ++ added := by
  induction entries generalizing known with
  | nil => exact ⟨[], by simp⟩
  | cons entry rest inductionHypothesis =>
      rw [recordAll_cons, record]
      split
      · exact inductionHypothesis known
      · rcases inductionHypothesis (known ++ [entry]) with ⟨added, recorded⟩
        exact ⟨entry :: added, by rw [recorded, List.append_assoc]; rfl⟩

theorem recordAll_eq_left {known entries : List α} (same : SameBy key (recordAll key known entries) known) :
    recordAll key known entries = known := by
  rcases exists_recordAll_eq_append key known entries with ⟨added, recorded⟩
  have nothing : added = [] := by
    have equallyLong := same.1
    rw [recorded, List.length_append] at equallyLong
    exact List.eq_nil_of_length_eq_zero (by omega)
  rw [recorded, nothing, List.append_nil]

end Records

namespace Taint

variable {one two three four upper lower taint : Taint}

/-- A join that says the same as its first side is its first side. -/
theorem Absorbs.join_eq (absorbs : one.Absorbs two) : one.join two = one := by
  apply Taint.ext
  · exact absorbs.state
  · exact absorbs.tags
  · exact absorbs.strippedTags
  · exact recordAll_eq_left absorbs.sources
  · exact recordAll_eq_left absorbs.locations
  · exact absorbs.parameters
  · exact absorbs.baseState
  · exact absorbs.literal
  · exact absorbs.runtimeClass
  · exact absorbs.slot
  · exact absorbs.allocation
  · exact absorbs.note

theorem absorb_eq_join (one two : Taint) : one.absorb two = one.join two := by
  unfold absorb
  split
  next absorbs => exact absorbs.join_eq.symm
  next => rfl

/-! ### Cores of facts -/

/-- The fact without the remark about it. -/
def unremarked (taint : Taint) : Taint :=
  { taint with note := none }

/-- The fact without the remark about it, and without tags that do not last. -/
def core (taint : Taint) : Taint :=
  { taint with tags := if taint.state = .safe then taint.tags else ∅, note := none }

theorem durable_core (taint : Taint) : taint.core.Durable := by
  by_cases safe : taint.state = .safe
  · exact Or.inl safe
  · exact Or.inr (if_neg safe)

/-- Where all tags last, only the remark is left out. -/
theorem Durable.core_eq (durable : taint.Durable) : taint.core = taint.unremarked := by
  unfold core unremarked
  rcases durable with safe | untagged
  · rw [if_pos safe]
  · rw [untagged, ite_self]

/-- Cores meet in the core of the meeting. -/
theorem core_join (one two : Taint) : (one.join two).core = one.core.join two.core := by
  refine Taint.ext rfl ?_ rfl rfl rfl rfl rfl rfl rfl rfl rfl rfl
  change (if one.state.merge two.state = .safe then
      (if one.state.merge two.state = .safe then one.tags ∪ two.tags else ∅) else ∅) =
    if one.state.merge two.state = .safe then one.core.tags ∪ two.core.tags else ∅
  split
  next safe =>
    rcases State.merge_eq_safe_iff.1 safe with ⟨safeOne, safeTwo⟩
    rw [core, core, if_pos safeOne, if_pos safeTwo]
  next => rfl

theorem Equiv.core (same : one ≈ two) : one.core ≈ two.core where
  state := same.state
  tags := by
    change (if one.state = .safe then one.tags else ∅) = if two.state = .safe then two.tags else ∅
    rw [same.state, same.tags]
  strippedTags := same.strippedTags
  sources := same.sources
  locations := same.locations
  parameters := same.parameters
  baseState := same.baseState
  literal := same.literal
  runtimeClass := same.runtimeClass
  slot := same.slot
  allocation := same.allocation
  note := rfl

theorem core_concat (one two : Taint) : (one.concat two).core = one.core.concat two.core := by
  -- The literal is the one part of a text that is not joined.
  have literal : (one.core.concat two.core).literal = (one.concat two).literal := by
    rw [literal_concat, literal_concat]
    rfl
  rw [concat_eq one.core, literal, ← core_join, concat_eq one]
  rfl

/-- The core of what is covered adds nothing to the core of what covers it. -/
theorem Covers.core_join (covers : upper.Covers lower) : upper.core.join lower.core = upper.core := by
  apply Absorbs.join_eq
  calc upper.core.join lower.core
    _ = (upper.join lower).core := (Taint.core_join upper lower).symm
    _ ≈ (upper.join upper).core := Equiv.core covers
    _ = upper.core.join upper.core := Taint.core_join upper upper
    _ ≈ upper.core := upper.durable_core.join_self

/-- Two facts decide the same. -/
def SameCore (one two : Taint) : Prop :=
  one.core = two.core

namespace SameCore

theorem state (same : one.SameCore two) : one.state = two.state :=
  (Taint.ext_iff.1 same).1

theorem literal (same : one.SameCore two) : one.literal = two.literal := by
  change one.core.literal = two.core.literal
  rw [same]

theorem runtimeClass (same : one.SameCore two) : one.runtimeClass = two.runtimeClass := by
  change one.core.runtimeClass = two.core.runtimeClass
  rw [same]

theorem slot (same : one.SameCore two) : one.slot = two.slot := by
  change one.core.slot = two.core.slot
  rw [same]

theorem allocation (same : one.SameCore two) : one.allocation = two.allocation := by
  change one.core.allocation = two.core.allocation
  rw [same]

theorem join (first : one.SameCore two) (second : three.SameCore four) :
    (one.join three).SameCore (two.join four) := by
  unfold SameCore
  rw [core_join, core_join, first, second]

/-- What is done to facts without looking at remarks and tags is done to their cores. -/
theorem map (change : Taint → Taint) (commutes : ∀ taint, (change taint).core = change taint.core)
    (same : one.SameCore two) : (change one).SameCore (change two) := by
  unfold SameCore
  rw [commutes, commutes, same]

end SameCore

theorem respected_sameCore : Respected SameCore where
  binds same index := same.map ({ · with slot := some index }) fun _ => rfl
  elements same := same.map ({ · with runtimeClass := none, allocation := none }) fun _ => rfl
  concats first second := by
    unfold SameCore
    rw [core_concat, core_concat, first, second]
  texts same :=
    same.map ({ · with slot := none, runtimeClass := none, allocation := none }) fun _ => rfl

end Taint

/-! ### Cores of frames -/

namespace Frame

variable {frame other upper lower joined : Frame} {changed : Bool}

/-- The frame of cores. -/
def core (frame : Frame) : Frame :=
  ⟨frame.locals.map Taint.core, frame.stack.map Taint.core⟩

/-- The frame of facts without the remarks about them. -/
def unremarked (frame : Frame) : Frame :=
  ⟨frame.locals.map Taint.unremarked, frame.stack.map Taint.unremarked⟩

/-- Two frames meet cell by cell. -/
def meet (frame other : Frame) : Frame :=
  ⟨List.zipWith Taint.join frame.locals other.locals, List.zipWith Taint.join frame.stack other.stack⟩

theorem eq_meet_of_join (met : frame.join other = .ok (joined, changed)) : joined = frame.meet other := by
  have sameFunction : Taint.absorb = Taint.join := by
    funext one two
    exact Taint.absorb_eq_join one two
  rcases join_eq_ok_iff.1 met with ⟨-, -, rfl, -⟩
  rw [sameFunction]
  rfl

theorem core_meet (frame other : Frame) : (frame.meet other).core = frame.core.meet other.core := by
  have cells (mine theirs : List Taint) : (List.zipWith Taint.join mine theirs).map Taint.core =
      List.zipWith Taint.join (mine.map Taint.core) (theirs.map Taint.core) := by
    rw [List.map_zipWith, List.zipWith_map]
    simp only [Taint.core_join]
  unfold core meet
  rw [cells, cells]

theorem related_sameCore_iff : Related Taint.SameCore frame other ↔ frame.core = other.core := by
  have cells (mine theirs : List Taint) : List.Forall₂ Taint.SameCore mine theirs ↔
      mine.map Taint.core = theirs.map Taint.core := by
    rw [← List.forall₂_eq_eq_eq, List.forall₂_map_left_iff, List.forall₂_map_right_iff]
    rfl
  unfold core
  rw [Frame.mk.injEq, ← cells, ← cells]
  exact ⟨fun related => ⟨related.locals, related.stack⟩, fun same => ⟨same.1, same.2⟩⟩

/-- The cores of what is covered add nothing to the cores of what covers it. -/
theorem Covers.core_meet (covers : upper.Covers lower) : upper.core.meet lower.core = upper.core := by
  have cells {mine theirs : List Taint} (covered : List.Forall₂ Taint.Covers mine theirs) :
      List.zipWith Taint.join (mine.map Taint.core) (theirs.map Taint.core) = mine.map Taint.core := by
    induction covered with
    | nil => rfl
    | cons head tail inductionHypothesis =>
        rw [List.map_cons, List.map_cons, List.zipWith_cons_cons, head.core_join, inductionHypothesis]
  unfold core meet
  rw [cells covers.locals, cells covers.stack]

theorem unremarked_eq_of_core_eq (same : frame.core = other.core) (durable : frame.All Taint.Durable)
    (otherDurable : other.All Taint.Durable) : frame.unremarked = other.unremarked := by
  have cores {value : Frame} (all : value.All Taint.Durable) : value.core = value.unremarked := by
    unfold core unremarked
    rw [List.map_congr_left fun cell member => (all.locals cell member).core_eq,
      List.map_congr_left fun word member => (all.stack word member).core_eq]
  rw [← cores durable, ← cores otherDurable, same]

end Frame

end TaintFlow
