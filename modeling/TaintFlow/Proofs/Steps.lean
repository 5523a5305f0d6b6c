/-
Module: TaintFlow.Proofs.Steps
Purpose: An instruction that acts on two frames alike. If a relation between facts survives what single
  facts go through, as one does that survives joins and does not look at what identifies a value, then
  related frames are related again after every instruction that is neither a call nor a store to an array.
Main exports: Taint.Alike, Respected, Congruence, Closed, Site.made, Instruction.isPlain,
  Site.step_related, Site.step_all
-/
import Mathlib.Data.Option.NAry
import TaintFlow.Proofs.Cells
import TaintFlow.Proofs.InPlaceSteps
import TaintFlow.Proofs.Results

namespace TaintFlow

/-! ### Relations that instructions respect -/

/-- Two facts agree in everything but what identifies the value and what is remarked about it. -/
structure Taint.Alike (one two : Taint) : Prop where
  state : one.state = two.state
  tags : one.tags = two.tags
  strippedTags : one.strippedTags = two.strippedTags
  sources : one.sources = two.sources
  locations : one.locations = two.locations
  parameters : one.parameters = two.parameters
  baseState : one.baseState = two.baseState

theorem Taint.Alike.refl (taint : Taint) : taint.Alike taint :=
  ⟨rfl, rfl, rfl, rfl, rfl, rfl, rfl⟩

/-- Whatever identifies the value, and whatever is remarked about it, the fact is alike. -/
theorem Taint.alike_relabel {taint : Taint} {literal runtimeClass note : Option String}
    {slot : Option Nat} {allocation : Option Offset} :
    Taint.Alike { taint with literal, runtimeClass, slot, allocation, note } taint :=
  ⟨rfl, rfl, rfl, rfl, rfl, rfl, rfl⟩

/-- Putting texts together is joining them, apart from the literal. -/
theorem Taint.concat_eq (one two : Taint) :
    one.concat two = { one.join two with literal := (one.concat two).literal } := by
  unfold Taint.concat
  split
  · rfl
  · rfl

/-- Only two known literals make a known one. -/
theorem Taint.literal_concat (one two : Taint) :
    (one.concat two).literal = Option.map₂ (· ++ ·) one.literal two.literal := by
  unfold Taint.concat
  cases left : one.literal with
  | none => cases right : two.literal <;> simp [Taint.join, agreed, left, right]
  | some text => cases right : two.literal <;> simp [Taint.join, agreed, left, right]

theorem Taint.alike_concat (one two : Taint) : (one.concat two).Alike (one.join two) := by
  rw [concat_eq]
  exact alike_relabel

/-- A relation that survives what plain instructions do to single facts: a value is stored in a local, an
element is taken out of an array, and texts are put together to a new one. -/
structure Respected (relation : Taint → Taint → Prop) : Prop where
  binds : ∀ {one two : Taint}, relation one two → ∀ index : Nat,
    relation { one with slot := some index } { two with slot := some index }
  elements : ∀ {one two : Taint}, relation one two →
    relation { one with runtimeClass := none, allocation := none }
      { two with runtimeClass := none, allocation := none }
  concats : ∀ {one two three four : Taint}, relation one two → relation three four →
    relation (one.concat three) (two.concat four)
  texts : ∀ {one two : Taint}, relation one two →
    relation { one with slot := none, runtimeClass := none, allocation := none }
      { two with slot := none, runtimeClass := none, allocation := none }

/-- A relation that does not look at what identifies a value, and that survives joins. -/
structure Congruence (relation : Taint → Taint → Prop) : Prop where
  alike : ∀ {one two one' two' : Taint}, relation one two → one'.Alike one → two'.Alike two →
    relation one' two'
  joins : ∀ {one two three four : Taint}, relation one two → relation three four →
    relation (one.join three) (two.join four)

/-- A property of facts of the same kind. -/
structure Closed (holds : Taint → Prop) : Prop where
  alike : ∀ {one other : Taint}, holds one → other.Alike one → holds other
  joins : ∀ {one two : Taint}, holds one → holds two → holds (one.join two)

variable {relation : Taint → Taint → Prop} {holds : Taint → Prop} {one two : Taint}

theorem Closed.congruence (closed : Closed holds) : Congruence fun one _ => holds one where
  alike known likeOne _ := closed.alike known likeOne
  joins first second := closed.joins first second

theorem Closed.absorb (closed : Closed holds) (first : holds one) (second : holds two) :
    holds (one.absorb two) := by
  unfold Taint.absorb
  split
  · exact first
  · exact closed.joins first second

/-- Frames with the property meet in a frame with the property. -/
theorem Closed.meets {frame other joined : Frame} {changed : Bool} (closed : Closed holds)
    (first : frame.All holds) (second : other.All holds)
    (met : frame.join other = .ok (joined, changed)) : joined.All holds :=
  first.join (fun _ _ one two => closed.absorb one two) second met

theorem Congruence.respected (congruence : Congruence relation) : Respected relation where
  binds related _ := congruence.alike related Taint.alike_relabel Taint.alike_relabel
  elements related := congruence.alike related Taint.alike_relabel Taint.alike_relabel
  concats first second :=
    congruence.alike (congruence.joins first second) (Taint.alike_concat _ _) (Taint.alike_concat _ _)
  texts related := congruence.alike related Taint.alike_relabel Taint.alike_relabel

theorem Respected.concatAll {ones twos : List Taint} (respected : Respected relation)
    (empty : relation (.constant "") (.constant "")) (related : List.Forall₂ relation ones twos) :
    relation (Frame.concatAll ones) (Frame.concatAll twos) := by
  cases related with
  | nil => exact empty
  | cons head tail =>
      have concats : Relator.LiftFun relation (Relator.LiftFun relation relation)
          Taint.concat Taint.concat :=
        fun _ _ first _ _ second => respected.concats first second
      exact List.rel_foldl concats head tail

/-! ### Moves within a frame -/

namespace Frame

variable {frame frame' after after' : Frame} {index words count : Nat}

theorem Related.storeWords (respected : Respected relation) (related : Related relation frame frame')
    (stored : frame.storeWords index words = .ok after)
    (stored' : frame'.storeWords index words = .ok after') : Related relation after after' := by
  induction words generalizing frame frame' index with
  | zero =>
      cases stored
      cases stored'
      exact related
  | succ words inductionHypothesis =>
      simp only [Frame.storeWords, bind_eq_ok_iff] at stored stored'
      obtain ⟨⟨taint, rest⟩, popped, next, set, stored⟩ := stored
      obtain ⟨⟨taint', rest'⟩, popped', next', set', stored'⟩ := stored'
      obtain ⟨value, below⟩ := related.pop popped popped'
      exact inductionHypothesis (below.setLocal (respected.binds value index) set set') stored stored'

theorem getBound_eq_ok {taint : Taint} (got : frame.getBound index = .ok taint) :
    frame.getLocal index = .ok taint := by
  simp only [getBound, bind_eq_ok_iff] at got
  obtain ⟨found, read, checked⟩ := got
  split at checked
  · cases checked
    exact read
  · cases checked

theorem Related.loadWords (related : Related relation frame frame')
    (loaded : frame.loadWords index words = .ok after)
    (loaded' : frame'.loadWords index words = .ok after') : Related relation after after' := by
  induction words generalizing frame frame' with
  | zero =>
      cases loaded
      cases loaded'
      exact related
  | succ words inductionHypothesis =>
      simp only [Frame.loadWords, bind_eq_ok_iff] at loaded loaded'
      obtain ⟨taint, got, loaded⟩ := loaded
      obtain ⟨taint', got', loaded'⟩ := loaded'
      have value := related.getLocal (getBound_eq_ok got) (getBound_eq_ok got')
      exact inductionHypothesis (related.push value) loaded loaded'

/-- A load from an array puts an element of it in the place of the array and the index. -/
theorem arrayLoad_eq_ok_iff :
    frame.arrayLoad words = .ok after ↔
      ∃ index withoutIndex, frame.pop = .ok (index, withoutIndex) ∧
        ∃ array rest, withoutIndex.pop = .ok (array, rest) ∧
          rest.pushWords { array with runtimeClass := none, allocation := none } words = after := by
  simp only [arrayLoad, bind_eq_ok_iff, Prod.exists, pure_eq_ok_iff]

theorem Related.arrayLoad (respected : Respected relation) (related : Related relation frame frame')
    (loaded : frame.arrayLoad words = .ok after) (loaded' : frame'.arrayLoad words = .ok after') :
    Related relation after after' := by
  obtain ⟨index, withoutIndex, popped, array, rest, poppedArray, rfl⟩ := arrayLoad_eq_ok_iff.1 loaded
  obtain ⟨index', withoutIndex', popped', array', rest', poppedArray', rfl⟩ :=
    arrayLoad_eq_ok_iff.1 loaded'
  obtain ⟨value, below⟩ := (related.pop popped popped').2.pop poppedArray poppedArray'
  exact below.pushWords (respected.elements value)

theorem concatTop_eq_ok_iff :
    frame.concatTop count = .ok after ↔
      ∃ operands rest, frame.popMany count = .ok (operands, rest) ∧
        rest.push { concatAll operands.reverse with
          slot := none, runtimeClass := none, allocation := none } = after := by
  simp only [concatTop, bind_eq_ok_iff, Prod.exists, pure_eq_ok_iff]

theorem Related.concatTop (respected : Respected relation)
    (empty : relation (.constant "") (.constant "")) (related : Related relation frame frame')
    (put : frame.concatTop count = .ok after) (put' : frame'.concatTop count = .ok after') :
    Related relation after after' := by
  obtain ⟨operands, rest, popped, rfl⟩ := concatTop_eq_ok_iff.1 put
  obtain ⟨operands', rest', popped', rfl⟩ := concatTop_eq_ok_iff.1 put'
  obtain ⟨values, below⟩ := related.popMany popped popped'
  have text := respected.concatAll empty (List.forall₂_reverse_iff.2 values)
  exact below.push (respected.texts text)

theorem replaceTop_eq_ok_iff {consumed produced : Nat} :
    frame.replaceTop consumed produced = .ok after ↔
      ∃ values rest, frame.popMany consumed = .ok (values, rest) ∧
        rest.pushWords .unknown produced = after := by
  simp only [replaceTop, bind_eq_ok_iff, Prod.exists, pure_eq_ok_iff]

theorem Related.replaceTop {consumed produced : Nat} (unknown : relation .unknown .unknown)
    (related : Related relation frame frame')
    (replaced : frame.replaceTop consumed produced = .ok after)
    (replaced' : frame'.replaceTop consumed produced = .ok after') : Related relation after after' := by
  obtain ⟨values, rest, popped, rfl⟩ := replaceTop_eq_ok_iff.1 replaced
  obtain ⟨values', rest', popped', rfl⟩ := replaceTop_eq_ok_iff.1 replaced'
  exact (related.popMany popped popped').2.pushWords unknown

theorem Related.shuffle {shuffle : Shuffle} (related : Related relation frame frame')
    (shuffled : frame.shuffle shuffle = .ok after) (shuffled' : frame'.shuffle shuffle = .ok after') :
    Related relation after after' := by
  cases shuffle with
  | pop =>
      simp only [Frame.shuffle, bind_eq_ok_iff] at shuffled shuffled'
      obtain ⟨⟨top, rest⟩, popped, told⟩ := shuffled
      obtain ⟨⟨top', rest'⟩, popped', told'⟩ := shuffled'
      cases told
      cases told'
      exact (related.pop popped popped').2
  | pop2 =>
      simp only [Frame.shuffle, bind_eq_ok_iff] at shuffled shuffled'
      obtain ⟨⟨words, rest⟩, popped, told⟩ := shuffled
      obtain ⟨⟨words', rest'⟩, popped', told'⟩ := shuffled'
      cases told
      cases told'
      exact (related.popMany popped popped').2
  | dup =>
      simp only [Frame.shuffle, bind_eq_ok_iff] at shuffled shuffled'
      obtain ⟨top, peeked, told⟩ := shuffled
      obtain ⟨top', peeked', told'⟩ := shuffled'
      cases told
      cases told'
      exact related.push (related.peek peeked peeked')
  | dupX1 =>
      simp only [Frame.shuffle, bind_eq_ok_iff] at shuffled shuffled'
      obtain ⟨⟨top, withoutTop⟩, popped, ⟨below, rest⟩, poppedBelow, told⟩ := shuffled
      obtain ⟨⟨top', withoutTop'⟩, popped', ⟨below', rest'⟩, poppedBelow', told'⟩ := shuffled'
      cases told
      cases told'
      obtain ⟨topValue, without⟩ := related.pop popped popped'
      obtain ⟨belowValue, left⟩ := without.pop poppedBelow poppedBelow'
      exact ((left.push topValue).push belowValue).push topValue
  | dup2 =>
      simp only [Frame.shuffle, bind_eq_ok_iff] at shuffled shuffled'
      obtain ⟨top, peeked, below, peekedBelow, told⟩ := shuffled
      obtain ⟨top', peeked', below', peekedBelow', told'⟩ := shuffled'
      cases told
      cases told'
      exact (related.push (related.peek peekedBelow peekedBelow')).push (related.peek peeked peeked')
  | swap =>
      simp only [Frame.shuffle, bind_eq_ok_iff] at shuffled shuffled'
      obtain ⟨⟨top, withoutTop⟩, popped, ⟨below, rest⟩, poppedBelow, told⟩ := shuffled
      obtain ⟨⟨top', withoutTop'⟩, popped', ⟨below', rest'⟩, poppedBelow', told'⟩ := shuffled'
      cases told
      cases told'
      obtain ⟨topValue, without⟩ := related.pop popped popped'
      obtain ⟨belowValue, left⟩ := without.pop poppedBelow poppedBelow'
      exact (left.push topValue).push belowValue

end Frame

/-! ### Instructions -/

/-- The instruction neither calls a method nor stores to an array, the two ways to change facts about
values that it does not consume. -/
def Instruction.isPlain : Instruction → Bool
  | invoke _ | arrayStore _ => false
  | _ => true

namespace Site

variable {site : Site} {frame frame' after after' : Frame} {step step' : Step}
  {instruction : Instruction}

/-- A remark changes nothing else of a fact. -/
theorem alike_remark (site : Site) (words : Unit → String) (taint : Taint) :
    (site.remark words taint).Alike taint := by
  unfold remark
  split
  · exact Taint.alike_relabel
  · exact .refl taint

/-- The fact that an instruction makes out of nothing, if it does. -/
def made (site : Site) : Instruction → Option Taint
  | .constant literal => some (site.constantTaint literal)
  | .getField field _ => some (site.fieldTaint field)
  | .new className => some (site.objectTaint className)
  | .newArray _ => some site.arrayTaint
  | .checkCast className => some (site.castTaint className)
  | .concat _ => some (.constant "")
  | .other _ _ => some .unknown
  | _ => none

theorem result_step :
    (site.step instruction frame).result = (site.act frame instruction).result := by
  rw [step_eq]
  rfl

/-- Most instructions return nothing from the method. -/
theorem act_eq_ok {moved : Traced Fault Frame}
    (acted : (moved >>= fun after => pure (⟨after, none⟩ : Step)).result = .ok step) :
    ∃ after, moved.result = .ok after ∧ ⟨after, none⟩ = step := by
  rw [Traced.result_bind, bind_eq_ok_iff] at acted
  obtain ⟨after, moved, told⟩ := acted
  exact ⟨after, moved, by simpa using told⟩

theorem getField_eq_ok_iff {field : FieldName} {isStatic : Bool} :
    (site.getField field isStatic frame).result = .ok after ↔
      ∃ owner rest, frame.popMany (if isStatic then 0 else 1) = .ok (owner, rest) ∧
        rest.pushWords (site.fieldTaint field) field.kind.words = after := by
  simp [getField, bind_eq_ok_iff]

theorem putField_eq_ok_iff {field : FieldName} {isStatic : Bool} :
    (site.putField field isStatic frame).result = .ok after ↔
      ∃ top, frame.peek 0 = .ok top ∧
        ∃ words, frame.popMany (field.kind.words + if isStatic then 0 else 1) = .ok (words, after) := by
  simp [putField, bind_eq_ok_iff]

theorem load_eq_ok_iff {index words : Nat} :
    (site.load index words frame).result = .ok after ↔
      frame.loadWords index (Frame.rangeWords index words) = .ok after := by
  simp [load, bind_eq_ok_iff]

theorem newArray_eq_ok_iff {dimensions : Nat} :
    site.newArray dimensions frame = .ok after ↔
      ∃ sizes rest, frame.popMany dimensions = .ok (sizes, rest) ∧
        rest.push site.arrayTaint = after := by
  simp only [newArray, bind_eq_ok_iff, Prod.exists, pure_eq_ok_iff]

theorem giveBack_eq_ok_iff {kind : Kind} :
    (site.giveBack kind frame).result = .ok step ↔
      ∃ top, frame.peek 0 = .ok top ∧
        ∃ words rest, frame.popMany kind.words = .ok (words, rest) ∧ ⟨rest, some top⟩ = step := by
  simp [giveBack, bind_eq_ok_iff]

theorem checkCast_eq_ok_iff {className : String} :
    site.checkCast className frame = .ok after ↔
      if site.context.policy.isSafe (classDescriptor className) then
        ∃ value rest, frame.pop = .ok (value, rest) ∧ rest.push (site.castTaint className) = after
      else frame = after := by
  unfold checkCast
  split
  next => simp only [bind_eq_ok_iff, Prod.exists, pure_eq_ok_iff]
  next => rw [Except.ok.injEq]

theorem checkCast_related {className : String}
    (cast : relation (site.castTaint className) (site.castTaint className))
    (related : Frame.Related relation frame frame')
    (checked : site.checkCast className frame = .ok after)
    (checked' : site.checkCast className frame' = .ok after') :
    Frame.Related relation after after' := by
  rw [checkCast_eq_ok_iff] at checked checked'
  split at checked
  next isSafe =>
    rw [if_pos isSafe] at checked'
    obtain ⟨value, rest, popped, rfl⟩ := checked
    obtain ⟨value', rest', popped', rfl⟩ := checked'
    exact (related.pop popped popped').2.push cast
  next isUnsafe =>
    rw [if_neg isUnsafe] at checked'
    rw [← checked, ← checked']
    exact related

/-- Where one side returns a value, the other one does, too. -/
theorem exists_of_returned {returned : Option Taint} {value : Taint}
    (related : Option.Rel relation (some value) returned) :
    ∃ value', returned = some value' ∧ relation value value' := by
  cases related with
  | some values => exact ⟨_, rfl, values⟩

/-- A plain instruction leaves related frames related, and what it returns from them as well, if what it
makes out of nothing is related to itself. -/
theorem step_related (respected : Respected relation) (plain : instruction.isPlain)
    (makes : ∀ taint ∈ site.made instruction, relation taint taint)
    (related : Frame.Related relation frame frame')
    (acted : (site.step instruction frame).result = .ok step)
    (acted' : (site.step instruction frame').result = .ok step') :
    Frame.Related relation step.frame step'.frame ∧
      Option.Rel relation step.returned step'.returned := by
  rw [result_step] at acted acted'
  cases instruction with
  | constant literal =>
      cases acted
      cases acted'
      exact ⟨related.pushWords (makes _ rfl), .none⟩
  | getField field isStatic =>
      obtain ⟨after, got, rfl⟩ := act_eq_ok acted
      obtain ⟨after', got', rfl⟩ := act_eq_ok acted'
      obtain ⟨owner, rest, popped, rfl⟩ := getField_eq_ok_iff.1 got
      obtain ⟨owner', rest', popped', rfl⟩ := getField_eq_ok_iff.1 got'
      exact ⟨(related.popMany popped popped').2.pushWords (makes _ rfl), .none⟩
  | putField field isStatic =>
      obtain ⟨after, put, rfl⟩ := act_eq_ok acted
      obtain ⟨after', put', rfl⟩ := act_eq_ok acted'
      obtain ⟨-, -, words, popped⟩ := putField_eq_ok_iff.1 put
      obtain ⟨-, -, words', popped'⟩ := putField_eq_ok_iff.1 put'
      exact ⟨(related.popMany popped popped').2, .none⟩
  | load index kind =>
      obtain ⟨after, loaded, rfl⟩ := act_eq_ok acted
      obtain ⟨after', loaded', rfl⟩ := act_eq_ok acted'
      exact ⟨related.loadWords (load_eq_ok_iff.1 loaded) (load_eq_ok_iff.1 loaded'), .none⟩
  | store index kind =>
      obtain ⟨after, stored, rfl⟩ := act_eq_ok acted
      obtain ⟨after', stored', rfl⟩ := act_eq_ok acted'
      exact ⟨related.storeWords respected stored stored', .none⟩
  | new className =>
      cases acted
      cases acted'
      exact ⟨related.push (makes _ rfl), .none⟩
  | newArray dimensions =>
      obtain ⟨after, sized, rfl⟩ := act_eq_ok acted
      obtain ⟨after', sized', rfl⟩ := act_eq_ok acted'
      obtain ⟨sizes, rest, popped, rfl⟩ := newArray_eq_ok_iff.1 sized
      obtain ⟨sizes', rest', popped', rfl⟩ := newArray_eq_ok_iff.1 sized'
      exact ⟨(related.popMany popped popped').2.push (makes _ rfl), .none⟩
  | arrayStore kind => simp [Instruction.isPlain] at plain
  | arrayLoad kind =>
      obtain ⟨after, loaded, rfl⟩ := act_eq_ok acted
      obtain ⟨after', loaded', rfl⟩ := act_eq_ok acted'
      exact ⟨related.arrayLoad respected loaded loaded', .none⟩
  | checkCast className =>
      obtain ⟨after, checked, rfl⟩ := act_eq_ok acted
      obtain ⟨after', checked', rfl⟩ := act_eq_ok acted'
      exact ⟨checkCast_related (makes _ rfl) related checked checked', .none⟩
  | «return» kind =>
      cases kind with
      | none =>
          cases acted
          cases acted'
          exact ⟨related, .none⟩
      | some kind =>
          obtain ⟨top, peeked, words, rest, popped, rfl⟩ := giveBack_eq_ok_iff.1 acted
          obtain ⟨top', peeked', words', rest', popped', rfl⟩ := giveBack_eq_ok_iff.1 acted'
          exact ⟨(related.popMany popped popped').2, .some (related.peek peeked peeked')⟩
  | invoke call => simp [Instruction.isPlain] at plain
  | concat operands =>
      obtain ⟨after, put, rfl⟩ := act_eq_ok acted
      obtain ⟨after', put', rfl⟩ := act_eq_ok acted'
      exact ⟨related.concatTop respected (makes _ rfl) put put', .none⟩
  | stack shuffle =>
      obtain ⟨after, shuffled, rfl⟩ := act_eq_ok acted
      obtain ⟨after', shuffled', rfl⟩ := act_eq_ok acted'
      exact ⟨related.shuffle shuffled shuffled', .none⟩
  | other consumed produced =>
      obtain ⟨after, replaced, rfl⟩ := act_eq_ok acted
      obtain ⟨after', replaced', rfl⟩ := act_eq_ok acted'
      exact ⟨related.replaceTop (makes _ rfl) replaced replaced', .none⟩

/-- A plain instruction keeps a property of all cells, if what it makes out of nothing has it. -/
theorem step_all (closed : Closed holds) (plain : instruction.isPlain)
    (makes : ∀ taint ∈ site.made instruction, holds taint) (all : frame.All holds)
    (acted : (site.step instruction frame).result = .ok step) :
    step.frame.All holds ∧ ∀ taint ∈ step.returned, holds taint := by
  obtain ⟨frames, values⟩ := step_related closed.congruence.respected plain makes
    (Frame.related_self_iff.2 all) acted acted
  refine ⟨Frame.related_self_iff.1 frames, ?_⟩
  intro taint returned
  rw [Option.mem_def.1 returned] at values
  cases values with
  | some value => exact value

end Site

end TaintFlow
