/-
Module: TaintFlow.Proofs.JoinOrder
Purpose: The order in which ways arrive at one point does not matter. Joining frames one after the other into
  one of them gives the least frame above them all, and that is said without an order. Only the tags of a
  frame that nothing has met yet are not bound by this, which is why at least one join is needed for it.
Main exports: Frame.Fits, Frame.joinAll, Frame.exists_joinAll, Frame.beneath_joinAll, Frame.joinAll_beneath,
  Frame.joinAll_in_any_order
-/
import TaintFlow.Proofs.EqualFrames
import TaintFlow.Proofs.LeastSolution

namespace TaintFlow

namespace Frame

variable {frame other joined start upper : Frame} {others : List Frame} {changed : Bool}

/-! ### Frames of one shape -/

/-- The frames have the same number of locals and operand stacks of the same depth. -/
def Fits (frame other : Frame) : Prop :=
  frame.locals.length = other.locals.length ∧ frame.depth = other.depth

instance (frame other : Frame) : Decidable (frame.Fits other) :=
  inferInstanceAs (Decidable (_ ∧ _))

theorem Fits.trans (first : frame.Fits other) (second : other.Fits upper) : frame.Fits upper :=
  ⟨first.1.trans second.1, first.2.trans second.2⟩

theorem exists_join (fits : frame.Fits other) : ∃ joined changed, frame.join other = .ok (joined, changed) :=
  ⟨_, _, join_eq_ok_iff.2 ⟨fits.1, fits.2, rfl, rfl⟩⟩

theorem join_eq_error (differs : ¬ frame.Fits other) : ∃ fault, frame.join other = .error fault := by
  cases met : frame.join other with
  | error fault => exact ⟨fault, rfl⟩
  | ok result =>
      rcases join_eq_ok_iff.1 met with ⟨sameLocals, sameDepth, -⟩
      exact absurd ⟨sameLocals, sameDepth⟩ differs

/-- A frame keeps its shape when others are joined into it. -/
theorem fits_of_join (met : frame.join other = .ok (joined, changed)) : joined.Fits frame := by
  rcases join_eq_ok_iff.1 met with ⟨sameLocals, sameDepth, rfl, -⟩
  unfold Fits depth at *
  simp [sameLocals, sameDepth]

/-! ### Many frames -/

/-- Join other frames into this one, one after the other. -/
def joinAll (start : Frame) (others : List Frame) : Except Fault Frame :=
  others.foldlM (fun frame other => Prod.fst <$> frame.join other) start

theorem fst_join_eq_ok_iff :
    Prod.fst <$> frame.join other = .ok joined ↔ ∃ changed, frame.join other = .ok (joined, changed) := by
  cases frame.join other with
  | error fault => simp
  | ok result => simp [Prod.ext_iff]

theorem joinAll_cons_eq_ok_iff :
    start.joinAll (other :: others) = .ok joined ↔
      ∃ next changed, start.join other = .ok (next, changed) ∧ next.joinAll others = .ok joined := by
  rw [joinAll, List.foldlM_cons, bind_eq_ok_iff]
  constructor
  · rintro ⟨next, met, rest⟩
    rcases fst_join_eq_ok_iff.1 met with ⟨changed, met⟩
    exact ⟨next, changed, met, rest⟩
  · rintro ⟨next, changed, met, rest⟩
    exact ⟨next, fst_join_eq_ok_iff.2 ⟨changed, met⟩, rest⟩

/-- Frames of one shape can be joined in any order. -/
theorem exists_joinAll (fit : ∀ other ∈ others, start.Fits other) :
    ∃ joined, start.joinAll others = .ok joined := by
  induction others generalizing start with
  | nil => exact ⟨start, rfl⟩
  | cons first others inductionHypothesis =>
      rw [List.forall_mem_cons] at fit
      rcases exists_join fit.1 with ⟨next, changed, met⟩
      have fitNext (other : Frame) (member : other ∈ others) : next.Fits other :=
        (fits_of_join met).trans (fit.2 other member)
      rcases inductionHypothesis fitNext with ⟨joined, rest⟩
      exact ⟨joined, joinAll_cons_eq_ok_iff.2 ⟨next, changed, met, rest⟩⟩

theorem ascends_of_joinAll (all : start.joinAll others = .ok joined) : start.Ascends joined := by
  induction others generalizing start with
  | nil =>
      cases all
      exact .refl
  | cons first others inductionHypothesis =>
      rcases joinAll_cons_eq_ok_iff.1 all with ⟨next, changed, met, rest⟩
      exact .head ⟨first, changed, met⟩ (inductionHypothesis rest)

/-- In the end every frame that took part is covered. -/
theorem joinAll_covers (all : start.joinAll others = .ok joined) :
    ∀ frame ∈ start :: others, joined.Covers frame := by
  induction others generalizing start with
  | nil =>
      cases all
      intro frame member
      rw [List.mem_singleton] at member
      rw [member]
      exact Covers.refl joined
  | cons first others inductionHypothesis =>
      rcases joinAll_cons_eq_ok_iff.1 all with ⟨next, changed, met, rest⟩
      have coversNext := (ascends_of_joinAll rest).covers
      rcases covers_of_join met with ⟨overStart, overFirst⟩
      intro frame member
      rcases List.mem_cons.1 member with rfl | member
      · exact coversNext.trans overStart
      · rcases List.mem_cons.1 member with rfl | member
        · exact coversNext.trans overFirst
        · exact inductionHypothesis rest frame (List.mem_cons_of_mem next member)

theorem durable_of_joinAll (all : start.joinAll (other :: others) = .ok joined) :
    joined.All Taint.Durable := by
  rcases joinAll_cons_eq_ok_iff.1 all with ⟨next, changed, met, rest⟩
  exact (ascends_of_joinAll rest).durable (durable_of_join met)

/-- Once there has been a join, no frame that took part adds anything. -/
theorem beneath_joinAll (all : start.joinAll (other :: others) = .ok joined) :
    ∀ frame ∈ start :: other :: others, frame.Beneath joined := by
  intro frame member
  exact (joinAll_covers all frame member).beneath (durable_of_joinAll all)

/-- What lies above all frames that take part lies above their join. -/
theorem joinAll_beneath (all : start.joinAll others = .ok joined)
    (beneath : ∀ frame ∈ start :: others, frame.Beneath upper) : joined.Beneath upper := by
  rw [List.forall_mem_cons] at beneath
  apply foldlM_keeps_of_mem (fun frame => frame.Beneath upper) _ beneath.1 all
  intro frame other next member below met
  rcases fst_join_eq_ok_iff.1 met with ⟨changed, met⟩
  exact below.join (beneath.2 other member) met

/-- A frame that has been joined in changes nothing any more, down to the order of provenance. -/
theorem join_again (all : start.joinAll others = .ok joined) (member : other ∈ others) :
    joined.join other = .ok (joined, false) := by
  cases others with
  | nil => cases member
  | cons first others =>
      have covers := joinAll_covers all other (List.mem_cons_of_mem start member)
      exact join_unchanged_iff.2 (covers.absorbs (durable_of_joinAll all))

/-- Frames that are joined in another order, and into another one of them, come to say the same. -/
theorem joinAll_equiv_of_perm {start' joined' : Frame} {others' : List Frame}
    (arranged : (start :: others).Perm (start' :: others')) (all : start.joinAll others = .ok joined)
    (all' : start'.joinAll others' = .ok joined') : joined ≈ joined' := by
  -- A frame that has met no other one may have tags that do not last, and is not beneath itself then.
  cases others with
  | nil =>
      cases List.singleton_perm.1 arranged
      cases all
      cases all'
      exact equiv_iff_related.2 (Related.refl Taint.Equiv.refl joined)
  | cons first others =>
      cases others' with
      | nil => exact absurd arranged.length_eq (by simp)
      | cons first' others' =>
          have above : ∀ frame ∈ start :: first :: others, frame.Beneath joined' := by
            intro frame member
            exact beneath_joinAll all' frame (arranged.mem_iff.1 member)
          have above' : ∀ frame ∈ start' :: first' :: others', frame.Beneath joined := by
            intro frame member
            exact beneath_joinAll all frame (arranged.mem_iff.2 member)
          exact (joinAll_beneath all above).antisymm (joinAll_beneath all' above')

/-- Frames that do not meet stay as they are. -/
theorem joinFrom_eq (target other : Frame) :
    target.joinFrom other =
      match target.join other with
      | .ok (joined, changed) => (joined, .ok changed)
      | .error fault => (target, .error fault) := by
  rw [join_eq]
  unfold joinFrom
  split
  next => rfl
  next => split <;> rfl

/-- Let frames have one shape. Whichever of them the others are joined into, and in whatever order, that
succeeds, the outcomes all say the same, and joining any of the others again leaves the outcome exactly as it
is. A frame of another shape is refused, and the one that it should have been joined into stays as it is. -/
theorem joinAll_in_any_order {frames : List Frame}
    (shape : ∀ one ∈ frames, ∀ two ∈ frames, one.Fits two) :
    (∀ start others, (start :: others).Perm frames →
      ∃ joined, start.joinAll others = .ok joined ∧
        (∀ other ∈ others, joined.joinFrom other = (joined, .ok false)) ∧
        ∀ start' others', (start' :: others').Perm frames →
          ∃ joined', start'.joinAll others' = .ok joined' ∧ joined ≈ joined') ∧
      ∀ target other : Frame, ¬ target.Fits other →
        ∃ fault, target.joinFrom other = (target, .error fault) := by
  have succeeds (start : Frame) (others : List Frame) (arranged : (start :: others).Perm frames) :
      ∃ joined, start.joinAll others = .ok joined := by
    apply exists_joinAll
    intro other member
    exact shape start (arranged.mem_iff.1 List.mem_cons_self) other
      (arranged.mem_iff.1 (List.mem_cons_of_mem start member))
  refine ⟨?_, ?_⟩
  · intro start others arranged
    rcases succeeds start others arranged with ⟨joined, all⟩
    refine ⟨joined, all, ?_, ?_⟩
    · intro other member
      rw [joinFrom_eq, join_again all member]
    · intro start' others' arranged'
      rcases succeeds start' others' arranged' with ⟨joined', all'⟩
      exact ⟨joined', all', joinAll_equiv_of_perm (arranged.trans arranged'.symm) all all'⟩
  · intro target other differs
    rcases join_eq_error differs with ⟨fault, refused⟩
    rw [joinFrom_eq, refused]
    exact ⟨fault, rfl⟩

end Frame

/-- A way on which a local is a text. -/
def literalWay : Frame :=
  ⟨[.constant "x"], []⟩

/-- A way on which it is that text with a character escaped. -/
def escapedWay : Frame :=
  ⟨[((Taint.constant "x").addTag .ltEncoded).addLocation ⟨"Page.show()V", 4⟩], []⟩

/-- A way on which it is something dangerous, of which some part has been escaped. -/
def dangerousWay : Frame :=
  ⟨[(Taint.tainted.addTag .lfEncoded).addLocation ⟨"Page.show()V", 9⟩], []⟩

/-- If the dangerous way is the first to arrive, its location is listed first; the facts say the same. -/
theorem ways_in_any_order :
    ∃ joined joined', literalWay.joinAll [escapedWay, dangerousWay] = .ok joined ∧
      dangerousWay.joinAll [escapedWay, literalWay] = .ok joined' ∧ joined ≠ joined' ∧ joined ≈ joined' ∧
      joined.joinFrom dangerousWay = (joined, .ok false) ∧
      ∃ fault, literalWay.joinFrom (.fresh 2) = (literalWay, .error fault) := by
  have shape : ∀ one ∈ [literalWay, escapedWay, dangerousWay],
      ∀ two ∈ [literalWay, escapedWay, dangerousWay], one.Fits two := by
    decide
  rcases Frame.joinAll_in_any_order shape with ⟨arrive, refuse⟩
  rcases arrive literalWay [escapedWay, dangerousWay] (.refl _) with ⟨joined, all, again, otherwise⟩
  have reversed : [dangerousWay, escapedWay, literalWay].Perm [literalWay, escapedWay, dangerousWay] :=
    List.reverse_perm [literalWay, escapedWay, dangerousWay]
  rcases otherwise dangerousWay [escapedWay, literalWay] reversed with ⟨joined', all', same⟩
  have listed : (literalWay.joinAll [escapedWay, dangerousWay]).toOption ≠
      (dangerousWay.joinAll [escapedWay, literalWay]).toOption := by
    decide
  rw [all, all'] at listed
  have narrow : ¬ literalWay.Fits (.fresh 2) := by
    decide
  exact ⟨joined, joined', all, all', fun equal => listed (congrArg some equal), same,
    again dangerousWay (by simp), refuse literalWay (.fresh 2) narrow⟩

end TaintFlow
