/-
Module: TaintFlow.Proofs.ArrayStores
Purpose: A store to an array after two ways have met, compared with the same store on one of them. The
  store can be made, and it leaves every cell at least as dangerous, except where the meeting has lost
  that the cell is the array: a local that the array is bound to on one way only, or a second
  reference below it that is no longer known to be one.
Main exports: Taint.state_holding_le_iff, Taint.Grows, Frame.arraySlot?, Frame.SeesDuplicate,
  Site.arrayStore_after_meeting
-/
import TaintFlow.Proofs.Aliases
import TaintFlow.Proofs.Substitution

namespace TaintFlow

/-! ### Facts -/

namespace Taint

variable {one two array : Taint} {words : List Taint} {bound : State}

private theorem state_foldl_combine_le_iff {known : Option Taint} :
    (∀ taint ∈ words.foldl (fun known word => combine known (some word)) known, taint.state ≤ bound) ↔
      (∀ taint ∈ known, taint.state ≤ bound) ∧ ∀ word ∈ words, word.state ≤ bound := by
  induction words generalizing known with
  | nil => simp
  | cons word later inductionHypothesis =>
      rw [List.foldl_cons, inductionHypothesis, List.forall_mem_cons, ← and_assoc]
      cases known with
      | none => simp [combine]
      | some before => simp [combine, State.merge_le_iff]

/-- An array is as dangerous as what it was and what has been stored in it. -/
theorem state_holding_le_iff :
    (array.holding words).state ≤ bound ↔ array.state ≤ bound ∧ ∀ word ∈ words, word.state ≤ bound := by
  have words_le := @state_foldl_combine_le_iff words bound none
  unfold holding
  cases value : words.foldl (fun known word => combine known (some word)) none with
  | none =>
      rw [value] at words_le
      have noWord : ∀ word ∈ words, word.state ≤ bound := by simpa using words_le
      exact ⟨fun arrayLe => ⟨arrayLe, noWord⟩, And.left⟩
  | some known =>
      rw [value] at words_le
      have known_le : known.state ≤ bound ↔ ∀ word ∈ words, word.state ≤ bound := by
        simpa using words_le
      rw [← known_le, and_comm]
      exact State.merge_le_iff

/-- The second fact is the first one after it has met some other. -/
def Grows (one two : Taint) : Prop :=
  ∃ other, one.absorb other = two

theorem Grows.state (grows : one.Grows two) : one.state ≤ two.state := by
  obtain ⟨other, rfl⟩ := grows
  rw [state_absorb]
  exact State.le_merge_left _ _

/-- A fact that has met others is bound to no other local than before. -/
theorem Grows.slot (grows : one.Grows two) : two.slot = one.slot ∨ two.slot = none := by
  obtain ⟨other, rfl⟩ := grows
  rw [slot_absorb, agreed]
  split
  · exact Or.inl rfl
  · exact Or.inr rfl

/-- If everything has grown, so has the danger of what is stored. -/
theorem state_holding_mono {array' : Taint} {words' : List Taint} (grows : array.Grows array')
    (wordsGrow : List.Forall₂ Grows words words') :
    (array.holding words).state ≤ (array'.holding words').state := by
  obtain ⟨arrayLe, wordsLe⟩ := state_holding_le_iff.1 (State.le_refl (array'.holding words').state)
  refine state_holding_le_iff.2 ⟨State.le_trans grows.state arrayLe, ?_⟩
  intro word member
  obtain ⟨position, read⟩ := List.getElem?_of_mem member
  obtain ⟨word', read', grown⟩ := forall₂_exists_getElem? wordsGrow read
  exact State.le_trans grown.state (wordsLe word' (List.mem_of_getElem? read'))

end Taint

/-! ### What a store finds -/

namespace Frame

variable {frame other joined after : Frame} {kind : Kind} {words below : List Taint} {index array : Taint}

/-- The local that the array of a store is bound to. -/
def arraySlot? (frame : Frame) (kind : Kind) : Option Nat :=
  frame.stack[kind.words + 1]?.bind Taint.slot

/-- Right below the array of a store lies a second reference to it. -/
def SeesDuplicate (frame : Frame) (kind : Kind) : Prop :=
  ∃ array ∈ frame.stack[kind.words + 1]?, ∃ duplicate ∈ frame.stack[kind.words + 2]?,
    duplicate.SameObject array

theorem grows_of_join {changed : Bool} (met : frame.join other = .ok (joined, changed)) :
    Related Taint.Grows frame joined := by
  have both : Related (fun upper lower => Taint.Grows lower upper) joined frame ∧
      Related (fun _ _ => True) joined other :=
    related_of_join (fun _ two => ⟨two, rfl⟩) (fun _ _ => trivial) met
  exact both.1.flip

theorem Offers.array_eq (offers : frame.Offers kind words array below) :
    frame.stack[kind.words + 1]? = some array := by
  obtain ⟨wide, index, stack⟩ := offers
  simp [stack, ← wide]

theorem Offers.below_eq (offers : frame.Offers kind words array below) (position : Nat) :
    frame.stack[kind.words + 2 + position]? = below[position]? := by
  obtain ⟨wide, index, stack⟩ := offers
  rw [stack, ← wide, Nat.add_assoc, List.getElem?_append_right (by omega), Nat.add_sub_cancel_left,
    Nat.add_comm 2]
  rfl

theorem Offers.arraySlot?_eq (offers : frame.Offers kind words array below) :
    frame.arraySlot? kind = array.slot := by
  rw [arraySlot?, offers.array_eq]
  rfl

theorem Offers.seesDuplicate_iff (offers : frame.Offers kind words array below) :
    frame.SeesDuplicate kind ↔ ∃ duplicate ∈ below[0]?, duplicate.SameObject array := by
  rw [SeesDuplicate, offers.array_eq, ← offers.below_eq]
  simp

private theorem forall₂_split {α β : Type} {relation : α → β → Prop} {ones rest : List α}
    {twos : List β} (related : List.Forall₂ relation (ones ++ rest) twos) :
    ∃ twos' rest', twos = twos' ++ rest' ∧ List.Forall₂ relation ones twos' ∧
      List.Forall₂ relation rest rest' := by
  induction ones generalizing twos with
  | nil => exact ⟨[], twos, rfl, .nil, related⟩
  | cons one ones inductionHypothesis =>
      cases related with
      | cons head tail =>
          obtain ⟨twos', rest', rfl, first, second⟩ := inductionHypothesis tail
          exact ⟨_ :: twos', rest', rfl, .cons head first, second⟩

/-- A related frame offers related words. -/
theorem Offers.related {relation : Taint → Taint → Prop} (offers : frame.Offers kind words array below)
    (related : Related relation frame other) :
    ∃ words' array' below', other.Offers kind words' array' below' ∧
      List.Forall₂ relation words words' ∧ relation array array' ∧
      List.Forall₂ relation below below' := by
  obtain ⟨wide, index, stack⟩ := offers
  have cells := related.stack
  rw [stack] at cells
  obtain ⟨words', rest', split, wordsRelated, restRelated⟩ := forall₂_split cells
  cases restRelated with
  | cons headIndex tail =>
      cases tail with
      | cons headArray belowRelated =>
          refine ⟨words', _, _, ⟨?_, _, split⟩, wordsRelated, headArray, belowRelated⟩
          rw [← wide, wordsRelated.length_eq]

/-! ### What a store leaves -/

section Storing

variable {words' below' : List Taint} {array' one two : Taint} {slot position : Nat}

/-- A local that the store reaches on one way, but no longer after the meeting, is what it was. -/
theorem storing_locals_le (grows : Related Taint.Grows frame joined) (arrayGrows : array.Grows array')
    (wordsGrow : List.Forall₂ Taint.Grows words words')
    (held : (frame.storing words array below).locals[slot]? = some one)
    (held' : (joined.storing words' array' below').locals[slot]? = some two) :
    one.state ≤ two.state ∨
      array.slot = some slot ∧ array'.slot = none ∧ joined.locals[slot]? = some two := by
  rw [getElem?_locals_storing] at held held'
  rcases arrayGrows.slot with same | lost
  · refine Or.inl ?_
    rw [same] at held'
    split at held
    next bound =>
      rw [if_pos bound] at held'
      obtain ⟨-, -, rfl⟩ := Option.map_eq_some_iff.1 held
      obtain ⟨-, -, rfl⟩ := Option.map_eq_some_iff.1 held'
      exact Taint.state_holding_mono arrayGrows wordsGrow
    next unbound =>
      rw [if_neg unbound] at held'
      exact (forall₂_getElem? grows.locals held held').state
  · rw [lost, if_neg (by simp)] at held'
    split at held
    next bound => exact Or.inr ⟨bound, lost, held'⟩
    next => exact Or.inl (forall₂_getElem? grows.locals held held').state

/-- A word that the store refreshes on one way, but no longer after the meeting, is what it was. -/
theorem storing_stack_le (arrayGrows : array.Grows array')
    (wordsGrow : List.Forall₂ Taint.Grows words words')
    (belowGrows : List.Forall₂ Taint.Grows below below')
    (there : (frame.storing words array below).stack[position]? = some one)
    (there' : (joined.storing words' array' below').stack[position]? = some two) :
    one.state ≤ two.state ∨
      position = 0 ∧ (∃ top ∈ below[0]?, top.SameObject array) ∧
        (¬ ∃ top ∈ below'[0]?, top.SameObject array') ∧ below'[0]? = some two := by
  rw [getElem?_stack_storing] at there there'
  split at there
  next refreshed =>
    obtain ⟨rfl, seen⟩ := refreshed
    cases there
    split at there'
    next =>
      cases there'
      exact Or.inl (Taint.state_holding_mono arrayGrows wordsGrow)
    next unseen =>
      exact Or.inr ⟨rfl, seen, fun seen' => unseen ⟨rfl, seen'⟩, there'⟩
  next =>
    refine Or.inl ?_
    split at there'
    next refreshed =>
      obtain ⟨rfl, top', topIs, same⟩ := refreshed
      cases there'
      have grown := (forall₂_getElem? belowGrows there topIs).state
      have merged := (Taint.state_holding_le_iff.1 (State.le_refl (array'.holding words').state)).1
      rw [Taint.Equiv.state same.2] at grown
      exact State.le_trans grown merged
    next => exact (forall₂_getElem? belowGrows there there').state

end Storing

end Frame

/-! ### Stores after a meeting -/

/-- Where control has met before a store to an array, the store can be made if it could be made on one of
the ways, and every local and every word is at least as dangerous as there; except for what the store
writes back on that way and no longer after the meeting. That is the local that the array is bound to
there, if the array is bound to no local any more, and the word right below the array, if that is a
second reference there and no longer known to be one. Such a cell is what it was when control met. -/
theorem Site.arrayStore_after_meeting {site : Site} {kind : Kind} {frame other : Frame} {step : Step}
    (sameLocals : frame.locals.length = other.locals.length) (sameDepth : frame.depth = other.depth)
    (stored : (site.step (.arrayStore kind) frame).result = .ok step) :
    ∃ joined changed step', frame.join other = .ok (joined, changed) ∧
      (site.step (.arrayStore kind) joined).result = .ok step' ∧
      step.frame.locals.length = step'.frame.locals.length ∧ step.frame.depth = step'.frame.depth ∧
      (∀ slot one two, step.frame.locals[slot]? = some one → step'.frame.locals[slot]? = some two →
        one.state ≤ two.state ∨
          frame.arraySlot? kind = some slot ∧ joined.arraySlot? kind = none ∧
            joined.locals[slot]? = some two) ∧
      ∀ position one two, step.frame.stack[position]? = some one →
        step'.frame.stack[position]? = some two →
        one.state ≤ two.state ∨
          position = 0 ∧ frame.SeesDuplicate kind ∧ ¬ joined.SeesDuplicate kind ∧
            joined.stack[kind.words + 2]? = some two := by
  have met := Frame.join_eq_ok_iff.2 ⟨sameLocals, sameDepth, rfl, rfl⟩
  generalize (⟨List.zipWith Taint.absorb frame.locals other.locals,
    List.zipWith Taint.absorb frame.stack other.stack⟩ : Frame) = joined at met
  have grows := Frame.grows_of_join met
  rw [result_step] at stored
  obtain ⟨after, stores, rfl⟩ := act_eq_ok stored
  obtain ⟨words, array, below, offers, rfl⟩ := arrayStore_eq_ok_iff.1 stores
  obtain ⟨words', array', below', offers', wordsGrow, arrayGrows, belowGrows⟩ := offers.related grows
  refine ⟨joined, _, ⟨joined.storing words' array' below', none⟩, met, ?_, ?_, ?_, ?_, ?_⟩
  · have stores' := (@arrayStore_eq_ok_iff site joined _ kind).2 ⟨words', array', below', offers', rfl⟩
    rw [result_step, act, Traced.result_bind, stores']
    rfl
  · simpa using grows.locals.length_eq
  · simpa [Frame.depth] using belowGrows.length_eq
  · intro slot one two held held'
    rw [offers.arraySlot?_eq, offers'.arraySlot?_eq]
    exact Frame.storing_locals_le grows arrayGrows wordsGrow held held'
  · intro position one two there there'
    rw [offers.seesDuplicate_iff, offers'.seesDuplicate_iff, ← Nat.add_zero (kind.words + 2),
      offers'.below_eq]
    exact Frame.storing_stack_le arrayGrows wordsGrow belowGrows there there'

/-- A frame before a store of a tainted value to an array that one of two locals holds. -/
def storingThrough (slot : Nat) (array : Taint) : Frame :=
  ⟨[{ array with slot := some 0 }, { array with slot := some 1 }],
    [.tainted, .safe, { array with slot := some slot }]⟩

/-- Two ways on which the array is in the same local: after they have met, the store still taints it. -/
theorem storingThrough_after_meeting :
    ∃ joined changed step', (storingThrough 0 .safe).join (storingThrough 0 .unknown) =
        .ok (joined, changed) ∧
      ((collectingLoop.site 6).step (.arrayStore .reference) joined).result = .ok step' ∧
      ∃ array, step'.frame.locals[0]? = some array ∧ .tainted ≤ array.state := by
  have stored : (((collectingLoop.site 6).step (.arrayStore .reference)
      (storingThrough 0 .safe)).result.toOption.bind fun step =>
        step.frame.locals[0]?.map Taint.state) = some .tainted := by
    decide +kernel
  have bound : ((storingThrough 0 .safe).join (storingThrough 0 .unknown)).toOption.map
      (fun meeting => meeting.1.arraySlot? .reference) = some (some 0) := by
    decide
  obtain ⟨step, stores, firstLocal⟩ := Option.bind_eq_some_iff.1 stored
  rw [toOption_eq_some_iff] at stores
  have sameLocals : (storingThrough 0 .safe).locals.length = (storingThrough 0 .unknown).locals.length :=
    rfl
  obtain ⟨joined, changed, step', met, stores', sameSize, -, locals, -⟩ :=
    Site.arrayStore_after_meeting sameLocals rfl stores
  obtain ⟨one, held, tainted⟩ := Option.map_eq_some_iff.1 firstLocal
  have inside : 0 < step'.frame.locals.length :=
    sameSize ▸ (List.getElem?_eq_some_iff.1 held).1
  have held' := List.getElem?_eq_getElem inside
  refine ⟨joined, changed, step', met, stores', _, held', ?_⟩
  rcases locals 0 one _ held held' with higher | ⟨-, lost, -⟩
  · exact tainted ▸ higher
  · simp [met, Except.toOption, lost] at bound

/-- Two ways on which the array is in different locals: the store taints the local on one of them, and
neither local after they have met. -/
theorem storingThrough_loses_binding :
    ∃ joined changed step step' one two,
      (storingThrough 0 .safe).OwnBound ∧ (storingThrough 1 .safe).OwnBound ∧
      (storingThrough 0 .safe).join (storingThrough 1 .safe) = .ok (joined, changed) ∧
      ((collectingLoop.site 6).step (.arrayStore .reference) (storingThrough 0 .safe)).result =
        .ok step ∧
      ((collectingLoop.site 6).step (.arrayStore .reference) joined).result = .ok step' ∧
      step.frame.locals[0]? = some one ∧ step'.frame.locals[0]? = some two ∧
      ¬ one.state ≤ two.state := by
  refine ⟨_, _, _, _, _, _, by decide, by decide, rfl, rfl, rfl, rfl, rfl, by decide⟩

end TaintFlow
