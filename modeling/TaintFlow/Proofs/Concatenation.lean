/-
Module: TaintFlow.Proofs.Concatenation
Purpose: What is known about a text that is put together from any number of operands. Each further operand is
  joined to the text so far, and a join forgets literals and tags; what is said here of the whole text is kept
  operand by operand all the same, because the literal is put together apart from the join, and tags are lost
  for good only where some operand is not safe.
Main exports: Taint.MadeOf, Taint.MadeOf.concat, Taint.madeOf_concatAll, Site.stepInPlace,
  Site.concat_makes_text
-/
import TaintFlow.Policy.Declarations
import TaintFlow.Proofs.JoinLaws
import TaintFlow.Proofs.Steps

namespace TaintFlow

theorem State.merge_eq_or (one two : State) : one.merge two = one ∨ one.merge two = two := by
  unfold merge
  split
  · exact Or.inl rfl
  · exact Or.inr rfl

namespace Taint

variable {text next : Taint} {operands : List Taint}

/-! ### Texts and their operands -/

/-- The fact is that about a text which the given operands make, in this order. -/
structure MadeOf (text : Taint) (operands : List Taint) : Prop where
  /-- No operand is more dangerous than the text. -/
  above : ∀ operand ∈ operands, operand.state ≤ text.state
  /-- The text is not more dangerous than all of its operands. -/
  attained : operands = [] ∧ text.state = .safe ∨ ∃ operand ∈ operands, operand.state = text.state
  /-- The text is known exactly if all operands are. -/
  literal : text.literal = (operands.mapM Taint.literal).map String.join
  sources : text.sources = firstBy Source.key (operands.flatMap Taint.sources)
  locations : text.locations = firstBy id (operands.flatMap Taint.locations)
  parameters : ∀ index, index ∈ text.parameters ↔ ∃ operand ∈ operands, index ∈ operand.parameters
  tagged : (∀ operand ∈ operands, operand.state = .safe) →
    ∀ tag, tag ∈ text.tags ↔ ∃ operand ∈ operands, tag ∈ operand.tags
  untagged : 2 ≤ operands.length → (∃ operand ∈ operands, operand.state ≠ .safe) → text.tags = ∅

theorem MadeOf.state_eq_safe_iff (made : text.MadeOf operands) :
    text.state = .safe ↔ ∀ operand ∈ operands, operand.state = .safe := by
  constructor
  · intro safe operand member
    have below := made.above operand member
    rw [safe] at below
    exact State.le_antisymm below (State.le_def.2 (Nat.zero_le _))
  · intro allSafe
    rcases made.attained with ⟨-, safe⟩ | ⟨operand, member, same⟩
    · exact safe
    · rw [← same]
      exact allSafe operand member

theorem madeOf_nil : (Taint.constant "").MadeOf [] where
  above := by simp
  attained := Or.inl ⟨rfl, rfl⟩
  literal := rfl
  sources := rfl
  locations := rfl
  parameters := by simp [constant]
  tagged := by simp [constant]
  untagged := by simp

/-- A value alone is a text of one operand. -/
theorem madeOf_singleton (operand : Taint) : operand.MadeOf [operand] where
  above := by simp [State.le_refl]
  attained := Or.inr ⟨operand, List.mem_singleton_self operand, rfl⟩
  literal := by cases known : operand.literal <;> simp [known]
  sources := by
    rw [List.flatMap_singleton]
    exact (firstBy_eq_self operand.sourcesDistinct).symm
  locations := by
    rw [List.flatMap_singleton]
    exact (firstBy_eq_self operand.locationsDistinct).symm
  parameters := by simp
  tagged := by simp
  untagged := by simp

theorem tags_concat (one two : Taint) :
    (one.concat two).tags = if one.state.merge two.state = .safe then one.tags ∪ two.tags else ∅ :=
  (alike_concat one two).tags

/-- One more operand is put behind a text. -/
theorem MadeOf.concat (made : text.MadeOf operands) (next : Taint) :
    (text.concat next).MadeOf (operands ++ [next]) where
  above := by
    intro operand member
    rw [state_concat]
    rcases List.mem_append.1 member with before | last
    · exact State.le_trans (made.above operand before) (State.le_merge_left _ _)
    · rw [List.mem_singleton.1 last]
      exact State.le_merge_right _ _
  attained := by
    rw [state_concat]
    rcases made.attained with ⟨-, safe⟩ | ⟨operand, member, same⟩
    · rw [safe, State.safe_merge]
      exact Or.inr ⟨next, List.mem_append_right operands List.mem_cons_self, rfl⟩
    · rcases State.merge_eq_or text.state next.state with asBefore | asNext
      · rw [asBefore]
        exact Or.inr ⟨operand, List.mem_append_left [next] member, same⟩
      · rw [asNext]
        exact Or.inr ⟨next, List.mem_append_right operands List.mem_cons_self, rfl⟩
  literal := by
    rw [literal_concat, made.literal, List.mapM_append]
    cases operands.mapM Taint.literal <;> cases known : next.literal <;> simp [known]
  sources := by
    rw [(alike_concat text next).sources, List.flatMap_append, List.flatMap_singleton, ← recordAll_firstBy,
      ← made.sources]
    rfl
  locations := by
    rw [(alike_concat text next).locations, List.flatMap_append, List.flatMap_singleton, ← recordAll_firstBy,
      ← made.locations]
    rfl
  parameters := by
    intro index
    have united : index ∈ (text.join next).parameters ↔ index ∈ text.parameters ∨ index ∈ next.parameters :=
      Std.ExtTreeSet.mem_union_iff
    rw [(alike_concat text next).parameters, united, made.parameters]
    simp [or_and_right, exists_or]
  tagged := by
    intro allSafe tag
    rw [List.forall_mem_append, List.forall_mem_singleton] at allSafe
    have safeText : text.state.merge next.state = .safe :=
      State.merge_eq_safe_iff.2 ⟨made.state_eq_safe_iff.2 allSafe.1, allSafe.2⟩
    rw [tags_concat, if_pos safeText, Std.ExtTreeSet.mem_union_iff, made.tagged allSafe.1]
    simp [or_and_right, exists_or]
  untagged := by
    intro _ someUnsafe
    have unsafeText : text.state.merge next.state ≠ .safe := by
      intro safe
      rcases State.merge_eq_safe_iff.1 safe with ⟨safeText, safeNext⟩
      rcases someUnsafe with ⟨operand, member, isUnsafe⟩
      rcases List.mem_append.1 member with before | last
      · exact isUnsafe (made.state_eq_safe_iff.1 safeText operand before)
      · rw [List.mem_singleton.1 last] at isUnsafe
        exact isUnsafe safeNext
    rw [tags_concat, if_neg unsafeText]

/-- Any number of operands is put behind a text, one after the other. -/
theorem MadeOf.foldl_concat (made : text.MadeOf operands) (later : List Taint) :
    (later.foldl Taint.concat text).MadeOf (operands ++ later) := by
  induction later generalizing text operands with
  | nil =>
      rw [List.append_nil]
      exact made
  | cons next later inductionHypothesis =>
      have longer := inductionHypothesis (made.concat next)
      rw [List.append_assoc] at longer
      exact longer

theorem madeOf_concatAll (operands : List Taint) : (Frame.concatAll operands).MadeOf operands := by
  cases operands with
  | nil => exact madeOf_nil
  | cons first later => exact (madeOf_singleton first).foldl_concat later

end Taint

/-! ### The instruction -/

namespace Site

variable {site : Site} {frame : Frame} {count : Nat}

/-- Let an instruction act on a frame in place: the frame that is there afterwards, and what the instruction
returns from the method or the fault that it ends with. -/
def stepInPlace (site : Site) (instruction : Instruction) (frame : Frame) :
    Frame × Except Fault (Option Taint) :=
  (site.perform instruction).effect frame

/-- Nothing is changed before all the words have been found. -/
theorem stepInPlace_concat (site : Site) (frame : Frame) (count : Nat) :
    site.stepInPlace (.concat count) frame =
      match frame.popMany count with
      | .ok (words, rest) =>
          (rest.push { Frame.concatAll words.reverse with
            slot := none, runtimeClass := none, allocation := none }, .ok none)
      | .error fault => (frame, .error fault) := by
  have announced : site.stepInPlace (.concat count) frame =
      (InPlace.silent (InPlace.concatTop count)).effect frame := by
    rw [stepInPlace, perform, InPlace.effect_bind]
    rfl
  rw [announced, InPlace.silent, InPlace.effect_bind, InPlace.concatTop, InPlace.effect_bind,
    InPlace.popMany, InPlace.effect_operate, Traced.result_silently]
  cases frame.popMany count with
  | error fault => rfl
  | ok taken => rfl

theorem stepInPlace_concat_of_lt (missing : frame.depth < count) :
    site.stepInPlace (.concat count) frame = (frame, .error (.stackUnderflow count frame.depth)) := by
  have popped : frame.popMany count = .error (.stackUnderflow count frame.depth) :=
    if_neg (Nat.not_le.2 missing)
  rw [stepInPlace_concat, popped]

theorem stepInPlace_concat_of_le (enough : count ≤ frame.depth) :
    site.stepInPlace (.concat count) frame =
      (⟨frame.locals, { Frame.concatAll (frame.stack.take count).reverse with
        slot := none, runtimeClass := none, allocation := none } :: frame.stack.drop count⟩, .ok none) := by
  have popped : frame.popMany count =
      .ok (frame.stack.take count, { frame with stack := frame.stack.drop count }) :=
    if_pos enough
  rw [stepInPlace_concat, popped]
  rfl

/-- Putting the topmost words together fails, for want of words and changing nothing, exactly if the stack has
fewer of them. Otherwise they are replaced by one word, the fact about the text that they make from the lowest
to the topmost one; the text is a new object of which no more is known. All else in the frame stays. -/
theorem concat_makes_text (site : Site) (frame : Frame) (count : Nat) :
    (site.stepInPlace (.concat count) frame = (frame, .error (.stackUnderflow count frame.depth)) ↔
        frame.depth < count) ∧
      (count ≤ frame.depth →
        ∃ text, site.stepInPlace (.concat count) frame =
            (⟨frame.locals, text :: frame.stack.drop count⟩, .ok none) ∧
          text.MadeOf (frame.stack.take count).reverse ∧
          text.slot = none ∧ text.runtimeClass = none ∧ text.allocation = none) := by
  refine ⟨⟨?_, stepInPlace_concat_of_lt⟩, ?_⟩
  · intro failed
    apply Nat.lt_of_not_le
    intro enough
    rw [stepInPlace_concat_of_le enough] at failed
    cases (Prod.mk.inj failed).2
  · intro enough
    have made := Taint.madeOf_concatAll (frame.stack.take count).reverse
    exact ⟨_, stepInPlace_concat_of_le enough, { made with }, rfl, rfl, rfl⟩

end Site

/-- Somewhere in a method. -/
def joiningSite : Site where
  context := { policy := Declarations.policy {} }
  method := ⟨"Page", "line", "()V", true, 1⟩
  offset := 3

/-- The text "a", the same one from a field and escaped, and "b" from that field later on. Below them is
something that does not belong to the text. -/
def threeWords : Frame :=
  ⟨[.tainted],
    [(Taint.constant "b").addSource ⟨.field, .unknown, some "Page.mark"⟩,
      ((Taint.constant "a").addTag .ltEncoded).addSource ⟨.field, .safe, some "Page.mark"⟩,
      .constant "a",
      .null]⟩

/-- The text is known from the lowest word to the topmost one, and the field is noted as it was first met. -/
theorem threeWords_make_text :
    ∃ text, joiningSite.stepInPlace (.concat 3) threeWords = (⟨[.tainted], [text, .null]⟩, .ok none) ∧
      text.literal = some "aab" ∧ text.sources = [⟨.field, .safe, some "Page.mark"⟩] ∧
      Tag.ltEncoded ∈ text.tags ∧ text.slot = none ∧
      joiningSite.stepInPlace (.concat 5) threeWords = (threeWords, .error (.stackUnderflow 5 4)) := by
  have enough : 3 ≤ threeWords.depth := by
    decide
  have missing : threeWords.depth < 5 := by
    decide
  rcases (Site.concat_makes_text joiningSite threeWords 3).2 enough with ⟨text, put, made, slot, -⟩
  have literal : text.literal = some "aab" := by
    rw [made.literal]
    decide
  have sources : text.sources = [⟨.field, .safe, some "Page.mark"⟩] := by
    rw [made.sources]
    decide
  have tagged : Tag.ltEncoded ∈ text.tags := by
    rw [made.tagged (by decide)]
    decide
  have failed := (Site.concat_makes_text joiningSite threeWords 5).1.2 missing
  exact ⟨text, put, literal, sources, tagged, slot, failed⟩

end TaintFlow
