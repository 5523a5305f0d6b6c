/-
Module: TaintFlow.Proofs.Covering
Purpose: When a fact already says everything that another one could add to it, for single facts and
  for frames, and how frames grow: only by being joined with other frames.
Main exports: Taint.Covers, Taint.Covers.trans, Frame.Covers, Frame.covers_of_join, Frame.durable_of_join,
  Frame.Ascends
-/
import Mathlib.Logic.Relation
import TaintFlow.Proofs.Cells
import TaintFlow.Proofs.JoinLaws

namespace TaintFlow

namespace Taint

variable {one two three upper lower : Taint}

/-! ### Facts -/

/-- The lower fact adds nothing to the upper one, except that meeting it may drop tags of a value that
is not safe, as meeting any fact would. -/
def Covers (upper lower : Taint) : Prop :=
  upper.join lower ≈ upper.join upper

/-- Meeting a fact once more does not matter, whatever is met in between. -/
theorem join_self_join (one two : Taint) : (one.join one).join two ≈ one.join two :=
  calc (one.join one).join two
    _ ≈ two.join (one.join one) := join_comm _ _
    _ ≈ (two.join one).join one := (join_assoc _ _ _).symm
    _ ≈ two.join one := join_join_self _ _
    _ ≈ one.join two := join_comm _ _

theorem Covers.refl (one : Taint) : one.Covers one :=
  Equiv.refl _

/-- Covering is transitive, although it is stated through joins that need not give a fact back. -/
theorem Covers.trans (first : one.Covers two) (second : two.Covers three) : one.Covers three :=
  calc one.join three
    _ ≈ (one.join one).join three := (join_self_join _ _).symm
    _ ≈ (one.join two).join three := (first.symm).join (Equiv.refl _)
    _ ≈ one.join (two.join three) := join_assoc _ _ _
    _ ≈ one.join (two.join two) := (Equiv.refl _).join second
    _ ≈ (one.join two).join two := (join_assoc _ _ _).symm
    _ ≈ one.join two := join_join_self _ _
    _ ≈ one.join one := first

/-- What a join has kept, every further join keeps. -/
theorem durable_join (one two : Taint) : (one.join two).Durable := by
  by_cases safe : (one.join two).state = .safe
  · exact Or.inl safe
  · refine Or.inr ?_
    rw [state_join] at safe
    simp only [join, if_neg safe]

theorem covers_join_right (one two : Taint) : (one.join two).Covers two :=
  calc (one.join two).join two
    _ ≈ one.join two := join_join_self _ _
    _ ≈ (one.join two).join (one.join two) := (durable_join one two).join_self.symm

theorem covers_join_left (one two : Taint) : (one.join two).Covers one :=
  calc (one.join two).join one
    _ ≈ (two.join one).join one := (join_comm _ _).join (Equiv.refl _)
    _ ≈ two.join one := join_join_self _ _
    _ ≈ one.join two := join_comm _ _
    _ ≈ (one.join two).join (one.join two) := (durable_join one two).join_self.symm

/-- A fact that another one adds nothing to is the same as a join, hence durable. -/
theorem Absorbs.durable (absorbs : one.Absorbs two) : one.Durable := by
  rcases durable_join one two with safe | untagged
  · exact Or.inl (absorbs.state.symm.trans safe)
  · exact Or.inr (absorbs.tags.symm.trans untagged)

theorem Absorbs.covers (absorbs : one.Absorbs two) : one.Covers two :=
  calc one.join two
    _ ≈ one := absorbs
    _ ≈ one.join one := absorbs.durable.join_self.symm

/-- Between facts that meeting others leaves alone, covering is absorbing. -/
theorem Covers.absorbs (covers : upper.Covers lower) (durable : upper.Durable) :
    upper.Absorbs lower :=
  calc upper.join lower
    _ ≈ upper.join upper := covers
    _ ≈ upper := durable.join_self

/-- Whether a fact stays as it is or not, it says what the join says. -/
theorem absorb_equiv_join (one two : Taint) : one.absorb two ≈ one.join two := by
  unfold absorb
  split
  next absorbs => exact Equiv.symm absorbs
  next => exact Equiv.refl _

@[simp] theorem state_absorb (one two : Taint) :
    (one.absorb two).state = one.state.merge two.state :=
  (absorb_equiv_join one two).state

@[simp] theorem slot_absorb (one two : Taint) : (one.absorb two).slot = agreed one.slot two.slot :=
  (absorb_equiv_join one two).slot

@[simp] theorem allocation_absorb (one two : Taint) :
    (one.absorb two).allocation = agreed one.allocation two.allocation :=
  (absorb_equiv_join one two).allocation

theorem covers_absorb_left (one two : Taint) : (one.absorb two).Covers one := by
  unfold absorb
  split
  · exact Covers.refl one
  · exact covers_join_left one two

theorem covers_absorb_right (one two : Taint) : (one.absorb two).Covers two := by
  unfold absorb
  split
  next absorbs => exact absorbs.covers
  next => exact covers_join_right one two

theorem durable_absorb (one two : Taint) : (one.absorb two).Durable := by
  unfold absorb
  split
  next absorbs => exact Absorbs.durable absorbs
  next => exact durable_join one two

/-- What has been returned so far goes on being covered when more is returned. -/
theorem combine_covers_left {known : Option Taint} {fact : Taint} (added : Option Taint)
    (before : known = some fact) :
    ∃ combined, combine known added = some combined ∧ combined.Covers fact := by
  subst before
  cases added with
  | none => exact ⟨fact, rfl, Covers.refl fact⟩
  | some more => exact ⟨fact.join more, rfl, covers_join_left fact more⟩

/-- What is returned is covered from then on. -/
theorem combine_covers_right (known : Option Taint) (fact : Taint) :
    ∃ combined, combine known (some fact) = some combined ∧ combined.Covers fact := by
  cases known with
  | none => exact ⟨fact, rfl, Covers.refl fact⟩
  | some before => exact ⟨before.join fact, rfl, covers_join_right before fact⟩

end Taint

namespace Frame

variable {frame other joined upper lower later : Frame} {changed : Bool}

/-! ### Frames -/

/-- Every cell of the lower frame adds nothing to that of the upper one. -/
def Covers (upper lower : Frame) : Prop :=
  Related Taint.Covers upper lower

theorem Covers.refl (frame : Frame) : frame.Covers frame :=
  Related.refl Taint.Covers.refl frame

theorem Covers.trans (first : upper.Covers frame) (second : frame.Covers lower) :
    upper.Covers lower := by
  have composes (one two three : Taint) (onTop : one.Covers two) (below : two.Covers three) :
      one.Covers three := onTop.trans below
  exact Related.trans composes first second

/-- Where all cells keep their tags, covering is absorbing. -/
theorem Covers.absorbs (covers : upper.Covers lower) (durable : upper.All Taint.Durable) :
    Related Taint.Absorbs upper lower := by
  have absorbs (one two : Taint) (kept : one.Durable) (onTop : one.Covers two) : one.Absorbs two :=
    onTop.absorbs kept
  exact Related.imp_of_all absorbs durable covers

/-- After two frames have met, the outcome covers both. -/
theorem covers_of_join (met : frame.join other = .ok (joined, changed)) :
    joined.Covers frame ∧ joined.Covers other :=
  related_of_join Taint.covers_absorb_left Taint.covers_absorb_right met

/-! ### Frames that grow

All that happens to the facts before a location, once there are any, is that others are joined into
them. -/

/-- The later frame comes from the earlier one by meeting other frames. -/
def Ascends : Frame → Frame → Prop :=
  Relation.ReflTransGen fun before after => ∃ other changed, before.join other = .ok (after, changed)

/-- A frame that has grown covers what it was. -/
theorem Ascends.covers (ascends : frame.Ascends later) : later.Covers frame := by
  induction ascends with
  | refl => exact Covers.refl frame
  | tail _ met inductionHypothesis =>
      obtain ⟨other, changed, met⟩ := met
      exact (covers_of_join met).1.trans inductionHypothesis

/-- After a join no cell has tags left that another one would drop. -/
theorem durable_of_join (met : frame.join other = .ok (joined, changed)) : joined.All Taint.Durable := by
  have durable (one two : Taint) : (one.absorb two).Durable ∧ True := ⟨Taint.durable_absorb one two, trivial⟩
  have cells : Related (fun after _ => after.Durable ∧ True) joined frame :=
    (related_of_join durable Taint.covers_absorb_right met).1
  exact ⟨((List.forall₂_and_left _ _).1 cells.locals).1, ((List.forall₂_and_left _ _).1 cells.stack).1⟩

/-- A frame that keeps its tags goes on keeping them. -/
theorem Ascends.durable (ascends : frame.Ascends later) (durable : All Taint.Durable frame) :
    All Taint.Durable later := by
  induction ascends with
  | refl => exact durable
  | tail _ met _ =>
      rcases met with ⟨other, changed, met⟩
      exact durable_of_join met

end Frame

end TaintFlow
