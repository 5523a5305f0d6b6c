/-
Module: TaintFlow.Proofs.Cells
Purpose: Frames compared cell by cell. A relation between single facts gives one between frames, and
  the operations on frames keep it; a property of all cells is the case of a frame and itself.
Main exports: Frame.Related, Frame.All, Frame.related_self_iff, Frame.join_eq_ok_iff,
  Frame.Related.join, Frame.All.join
-/
import Mathlib.Data.List.Forall2
import TaintFlow.Frame.Basic

namespace TaintFlow

/-! ### Lists compared item by item -/

section Lists

variable {α β : Type} {relation : α → β → Prop} {ones : List α} {twos : List β}

theorem forall₂_set {one : α} {two : β} (related : List.Forall₂ relation ones twos)
    (replaced : relation one two) (position : Nat) :
    List.Forall₂ relation (ones.set position one) (twos.set position two) := by
  induction related generalizing position with
  | nil => exact .nil
  | cons head tail inductionHypothesis =>
      cases position with
      | zero => exact .cons replaced tail
      | succ position => exact .cons head (inductionHypothesis position)

theorem forall₂_replicate {one : α} {two : β} (related : relation one two) (count : Nat) :
    List.Forall₂ relation (List.replicate count one) (List.replicate count two) := by
  induction count with
  | zero => exact .nil
  | succ count inductionHypothesis => exact .cons related inductionHypothesis

theorem forall₂_getElem? {one : α} {two : β} {position : Nat}
    (related : List.Forall₂ relation ones twos) (readOne : ones[position]? = some one)
    (readTwo : twos[position]? = some two) : relation one two := by
  obtain ⟨inOnes, rfl⟩ := List.getElem?_eq_some_iff.1 readOne
  obtain ⟨inTwos, rfl⟩ := List.getElem?_eq_some_iff.1 readTwo
  exact related.get inOnes inTwos

theorem forall₂_exists_getElem? {one : α} {position : Nat} (related : List.Forall₂ relation ones twos)
    (read : ones[position]? = some one) : ∃ two, twos[position]? = some two ∧ relation one two := by
  obtain ⟨inside, rfl⟩ := List.getElem?_eq_some_iff.1 read
  have inside' : position < twos.length := related.length_eq ▸ inside
  exact ⟨_, List.getElem?_eq_getElem inside', related.get inside inside'⟩

theorem forall₂_rel_getElem? (related : List.Forall₂ relation ones twos) (position : Nat) :
    Option.Rel relation ones[position]? twos[position]? := by
  induction related generalizing position with
  | nil => exact .none
  | cons head tail inductionHypothesis =>
      cases position with
      | zero => exact .some head
      | succ position => simpa using inductionHypothesis position

end Lists

namespace Frame

variable {frame other joined upper lower one two after after' : Frame} {changed : Bool}
variable {below above relation : Taint → Taint → Prop} {holds meets : Taint → Prop}

/-! ### Frames compared cell by cell -/

/-- Frames of one shape whose cells are related one by one. -/
structure Related (relation : Taint → Taint → Prop) (one two : Frame) : Prop where
  locals : List.Forall₂ relation one.locals two.locals
  stack : List.Forall₂ relation one.stack two.stack

/-- A property that every cell of a frame has. -/
structure All (holds : Taint → Prop) (frame : Frame) : Prop where
  locals : ∀ cell ∈ frame.locals, holds cell
  stack : ∀ cell ∈ frame.stack, holds cell

theorem Related.refl (reflexive : ∀ cell, relation cell cell) (frame : Frame) :
    Related relation frame frame :=
  ⟨List.forall₂_same.2 fun cell _ => reflexive cell, List.forall₂_same.2 fun cell _ => reflexive cell⟩

/-- A property of all cells is a relation of the frame to itself. -/
theorem related_self_iff : Related (fun cell _ => holds cell) frame frame ↔ All holds frame :=
  ⟨fun ⟨locals, stack⟩ => ⟨by simpa using locals, by simpa using stack⟩,
    fun ⟨locals, stack⟩ => ⟨by simpa using locals, by simpa using stack⟩⟩

theorem Related.flip (related : Related relation one two) :
    Related (fun lower upper => relation upper lower) two one :=
  ⟨List.Forall₂.flip related.locals, List.Forall₂.flip related.stack⟩

theorem Related.imp (implies : ∀ one two, below one two → relation one two)
    (related : Related below one two) : Related relation one two :=
  ⟨related.locals.imp implies, related.stack.imp implies⟩

/-- What the cells of one side have in common can be used for every pair. -/
theorem Related.imp_of_all (implies : ∀ one two, holds one → below one two → relation one two)
    (all : All holds one) (related : Related below one two) : Related relation one two :=
  ⟨((List.forall₂_and_left _ _).2 ⟨all.locals, related.locals⟩).imp
      fun one two both => implies one two both.1 both.2,
    ((List.forall₂_and_left _ _).2 ⟨all.stack, related.stack⟩).imp
      fun one two both => implies one two both.1 both.2⟩

private theorem forall₂_trans {ones twos threes : List Taint}
    (composes : ∀ one two three, below one two → above two three → relation one three)
    (first : List.Forall₂ below ones twos) (second : List.Forall₂ above twos threes) :
    List.Forall₂ relation ones threes := by
  induction first generalizing threes with
  | nil =>
      cases second
      exact .nil
  | cons head tail inductionHypothesis =>
      cases second with
      | cons headSecond tailSecond =>
          exact .cons (composes _ _ _ head headSecond) (inductionHypothesis tailSecond)

theorem Related.trans
    (composes : ∀ one two three, below one two → above two three → relation one three)
    (first : Related below lower frame) (second : Related above frame upper) :
    Related relation lower upper :=
  ⟨forall₂_trans composes first.locals second.locals, forall₂_trans composes first.stack second.stack⟩

/-! ### Operations on related frames -/

section Operations

variable {taint taint' : Taint} {words words' : List Taint} {index slot count : Nat}

theorem Related.getLocal (related : Related relation one two) (got : one.getLocal slot = .ok taint)
    (got' : two.getLocal slot = .ok taint') : relation taint taint' :=
  forall₂_getElem? related.locals (getLocal_eq_ok_iff.1 got) (getLocal_eq_ok_iff.1 got')

theorem Related.setLocal (related : Related relation one two) (value : relation taint taint')
    (set : one.setLocal slot taint = .ok after) (set' : two.setLocal slot taint' = .ok after') :
    Related relation after after' := by
  obtain ⟨-, rfl⟩ := setLocal_eq_ok_iff.1 set
  obtain ⟨-, rfl⟩ := setLocal_eq_ok_iff.1 set'
  exact ⟨forall₂_set related.locals value slot, related.stack⟩

theorem Related.peek (related : Related relation one two) (peeked : one.peek index = .ok taint)
    (peeked' : two.peek index = .ok taint') : relation taint taint' :=
  forall₂_getElem? related.stack (peek_eq_ok_iff.1 peeked) (peek_eq_ok_iff.1 peeked')

theorem Related.poke (related : Related relation one two) (value : relation taint taint')
    (poked : one.poke index taint = .ok after) (poked' : two.poke index taint' = .ok after') :
    Related relation after after' := by
  rcases poke_eq_ok_iff.1 poked with ⟨-, rfl⟩
  rcases poke_eq_ok_iff.1 poked' with ⟨-, rfl⟩
  exact ⟨related.locals, forall₂_set related.stack value index⟩

theorem Related.push (related : Related relation one two) (value : relation taint taint') :
    Related relation (one.push taint) (two.push taint') :=
  ⟨related.locals, .cons value related.stack⟩

theorem Related.pushWords (related : Related relation one two) (value : relation taint taint') :
    Related relation (one.pushWords taint count) (two.pushWords taint' count) :=
  ⟨related.locals, List.rel_append (forall₂_replicate value count) related.stack⟩

theorem Related.pop (related : Related relation one two) (popped : one.pop = .ok (taint, after))
    (popped' : two.pop = .ok (taint', after')) :
    relation taint taint' ∧ Related relation after after' := by
  obtain ⟨stack, locals⟩ := pop_eq_ok_iff.1 popped
  obtain ⟨stack', locals'⟩ := pop_eq_ok_iff.1 popped'
  have cells := related.stack
  rw [stack, stack'] at cells
  cases cells with
  | cons head tail => exact ⟨head, locals ▸ locals' ▸ related.locals, tail⟩

theorem Related.popMany (related : Related relation one two)
    (popped : one.popMany count = .ok (words, after))
    (popped' : two.popMany count = .ok (words', after')) :
    List.Forall₂ relation words words' ∧ Related relation after after' := by
  obtain ⟨-, rfl, rfl⟩ := popMany_eq_ok_iff.1 popped
  obtain ⟨-, rfl, rfl⟩ := popMany_eq_ok_iff.1 popped'
  exact ⟨List.forall₂_take count related.stack,
    related.locals, List.forall₂_drop count related.stack⟩

/-! The same of a property of all cells. -/

theorem All.peek (all : All holds frame) (peeked : frame.peek index = .ok taint) : holds taint :=
  (related_self_iff.2 all).peek peeked peeked

theorem All.poke (all : All holds frame) (value : holds taint)
    (poked : frame.poke index taint = .ok after) : All holds after := by
  obtain ⟨-, rfl⟩ := poke_eq_ok_iff.1 poked
  refine ⟨all.locals, ?_⟩
  intro cell member
  rcases List.mem_or_eq_of_mem_set member with old | rfl
  · exact all.stack cell old
  · exact value

theorem All.pushWords (all : All holds frame) (value : holds taint) :
    All holds (frame.pushWords taint count) :=
  related_self_iff.1 ((related_self_iff.2 all).pushWords value)

theorem All.popMany (all : All holds frame) (popped : frame.popMany count = .ok (words, after)) :
    (∀ word ∈ words, holds word) ∧ All holds after := by
  obtain ⟨values, rest⟩ := (related_self_iff.2 all).popMany popped popped
  have each := List.forall₂_same.1 values
  exact ⟨each, related_self_iff.1 rest⟩

end Operations

/-! ### Frames that meet -/

/-- Frames meet exactly if they have one shape, and then they meet cell by cell. -/
theorem join_eq_ok_iff :
    frame.join other = .ok (joined, changed) ↔
      frame.locals.length = other.locals.length ∧ frame.depth = other.depth ∧
        joined = ⟨List.zipWith Taint.absorb frame.locals other.locals,
          List.zipWith Taint.absorb frame.stack other.stack⟩ ∧
        changed = (gains frame.locals other.locals || gains frame.stack other.stack) := by
  rw [join_eq]
  split
  next differ => simp [differ]
  next sameLocals =>
    split
    next differ => simp [differ]
    next sameDepth =>
      rw [not_not] at sameLocals sameDepth
      simp [sameLocals, sameDepth, eq_comm]

private theorem forall₂_absorb {mine theirs : List Taint}
    (left : ∀ one two : Taint, below (one.absorb two) one)
    (right : ∀ one two : Taint, above (one.absorb two) two)
    (sameLength : mine.length = theirs.length) :
    List.Forall₂ below (List.zipWith Taint.absorb mine theirs) mine ∧
      List.Forall₂ above (List.zipWith Taint.absorb mine theirs) theirs := by
  induction mine generalizing theirs with
  | nil =>
      cases theirs with
      | nil => exact ⟨.nil, .nil⟩
      | cons _ _ => simp at sameLength
  | cons cell rest inductionHypothesis =>
      cases theirs with
      | nil => simp at sameLength
      | cons theirCell theirRest =>
          obtain ⟨mine, theirs⟩ := inductionHypothesis (by simpa using sameLength)
          exact ⟨.cons (left cell theirCell) mine, .cons (right cell theirCell) theirs⟩

/-- What single facts are to each of the two that they come from, a frame is after a meeting. -/
theorem related_of_join (left : ∀ one two : Taint, below (one.absorb two) one)
    (right : ∀ one two : Taint, above (one.absorb two) two)
    (met : frame.join other = .ok (joined, changed)) :
    Related below joined frame ∧ Related above joined other := by
  obtain ⟨sameLocals, sameDepth, rfl, -⟩ := join_eq_ok_iff.1 met
  have locals := forall₂_absorb left right sameLocals
  have stack := forall₂_absorb left right sameDepth
  exact ⟨⟨locals.1, stack.1⟩, ⟨locals.2, stack.2⟩⟩

private theorem forall₂_absorb_bound {mine theirs bounds : List Taint}
    (least : ∀ one two bound, relation one bound → relation two bound → relation (one.absorb two) bound)
    (first : List.Forall₂ relation mine bounds) (second : List.Forall₂ relation theirs bounds) :
    List.Forall₂ relation (List.zipWith Taint.absorb mine theirs) bounds := by
  induction first generalizing theirs with
  | nil =>
      cases second
      exact .nil
  | cons head tail inductionHypothesis =>
      cases second with
      | cons headSecond tailSecond =>
          exact .cons (least _ _ _ head headSecond) (inductionHypothesis tailSecond)

/-- Two frames below a third one meet below it, if that holds of single facts. -/
theorem Related.join (least : ∀ one two bound, relation one bound → relation two bound →
      relation (one.absorb two) bound)
    (first : Related relation frame upper) (second : Related relation other upper)
    (met : frame.join other = .ok (joined, changed)) : Related relation joined upper := by
  obtain ⟨-, -, rfl, -⟩ := join_eq_ok_iff.1 met
  exact ⟨forall₂_absorb_bound least first.locals second.locals,
    forall₂_absorb_bound least first.stack second.stack⟩

private theorem all_zipWith_absorb {mine theirs : List Taint}
    (closed : ∀ one two, holds one → meets two → holds (one.absorb two))
    (first : ∀ cell ∈ mine, holds cell) (second : ∀ cell ∈ theirs, meets cell) :
    ∀ cell ∈ List.zipWith Taint.absorb mine theirs, holds cell := by
  intro cell member
  rw [← List.map_uncurry_zip_eq_zipWith] at member
  obtain ⟨⟨one, two⟩, pairIn, rfl⟩ := List.mem_map.1 member
  exact closed one two (first one (List.of_mem_zip pairIn).1) (second two (List.of_mem_zip pairIn).2)

/-- A property that facts keep when they meet such facts is one that frames keep. -/
theorem All.join (closed : ∀ one two, holds one → meets two → holds (one.absorb two))
    (first : All holds frame) (second : All meets other)
    (met : frame.join other = .ok (joined, changed)) : All holds joined := by
  obtain ⟨-, -, rfl, -⟩ := join_eq_ok_iff.1 met
  exact ⟨all_zipWith_absorb closed first.locals second.locals,
    all_zipWith_absorb closed first.stack second.stack⟩

private theorem gains_eq_false_iff {mine theirs : List Taint}
    (sameLength : mine.length = theirs.length) :
    gains mine theirs = false ↔ List.Forall₂ Taint.Absorbs mine theirs := by
  rw [List.forall₂_iff_zip]
  simp [gains, sameLength]

private theorem zipWith_absorb_eq_self {mine theirs : List Taint}
    (absorbs : List.Forall₂ Taint.Absorbs mine theirs) :
    List.zipWith Taint.absorb mine theirs = mine := by
  induction absorbs with
  | nil => rfl
  | cons head tail inductionHypothesis =>
      rw [List.zipWith_cons_cons, inductionHypothesis]
      simp [Taint.absorb, head]

/-- A meeting changes nothing, down to the order of provenance, exactly if every cell absorbs what it
meets. -/
theorem join_unchanged_iff :
    frame.join other = .ok (frame, false) ↔ Related Taint.Absorbs frame other := by
  rw [join_eq_ok_iff]
  constructor
  · rintro ⟨sameLocals, sameDepth, -, nothing⟩
    obtain ⟨noLocal, noWord⟩ := Bool.or_eq_false_iff.1 nothing.symm
    exact ⟨(gains_eq_false_iff sameLocals).1 noLocal, (gains_eq_false_iff sameDepth).1 noWord⟩
  · intro absorbs
    have sameLocals := absorbs.locals.length_eq
    have sameDepth := absorbs.stack.length_eq
    refine ⟨sameLocals, sameDepth, ?_, ?_⟩
    · rw [zipWith_absorb_eq_self absorbs.locals, zipWith_absorb_eq_self absorbs.stack]
    · rw [(gains_eq_false_iff sameLocals).2 absorbs.locals,
        (gains_eq_false_iff sameDepth).2 absorbs.stack]
      rfl

theorem eq_of_join_unchanged (met : frame.join other = .ok (joined, false)) : joined = frame := by
  obtain ⟨sameLocals, sameDepth, rfl, nothing⟩ := join_eq_ok_iff.1 met
  obtain ⟨noLocal, noWord⟩ := Bool.or_eq_false_iff.1 nothing.symm
  rw [zipWith_absorb_eq_self ((gains_eq_false_iff sameLocals).1 noLocal),
    zipWith_absorb_eq_self ((gains_eq_false_iff sameDepth).1 noWord)]

end Frame

end TaintFlow
