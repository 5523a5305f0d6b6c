/-
Module: TaintFlow.Proofs.CallingConvention
Purpose: Caller and callee agree on where the arguments of a call are. The caller counts words down from
  the top of its operand stack, the callee counts locals up from the receiver, and arguments of one and of
  two words come in any order. Both countings are shown to be mirror images, so that the index which a local
  of the callee names is that of the argument which the caller has pushed for it.
Main exports: FieldType.words_eq, Signature.countIndices_eq_some, Signature.index_add_words,
  Method.firstLocal, Operands, Operands.peek_argument, Frame.Filled, Frame.bindLocals_fills,
  exists_calledFrame_iff, getLocal_parameter, Taint.ParametricIn, Method.caller_and_callee_agree
-/
import Mathlib.Data.Nat.PSub
import TaintFlow.Policy.Declarations
import TaintFlow.Proofs.Descriptors
import TaintFlow.Proofs.Inlining

namespace TaintFlow

/-! ### Words of types -/

/-- A value of a type that can stand in a descriptor takes two words if it is a long or a double, and one
word otherwise. An array of such values is no such value. -/
theorem FieldType.words_eq {type : String} (isType : FieldType type.toList) :
    (Kind.ofDescriptor type).words = if type = "J" ∨ type = "D" then 2 else 1 := by
  rcases isType with ⟨dimensions, element, text, isElement⟩
  simp only [← String.toList_inj, Kind.ofDescriptor, text]
  cases dimensions with
  | succ dimensions => simp [List.replicate_succ, Kind.words]
  | zero =>
      cases isElement with
      | named unended => simp [Kind.words]
      | @base letter isBase =>
          simp only [List.mem_cons, List.not_mem_nil, or_false] at isBase
          rcases isBase with rfl | rfl | rfl | rfl | rfl | rfl | rfl | rfl <;> decide

namespace Signature

variable {types : List String} {type : String} {number index : Nat}

/-- The indices as they are counted from the left: of all the words, take away those that were pushed
earlier, and then those of the value itself. There is no index where fewer words are left than are to be
taken away. -/
def countIndices (total pushed : Nat) : List String → Option (List (Nat × String))
  | [] => some []
  | type :: later => do
      let words := (Kind.ofDescriptor type).words
      let left ← total.psub pushed
      let index ← left.psub words
      let indices ← countIndices total (pushed + words) later
      return (index, type) :: indices

/-- There are always enough words left, and counting from the left finds the words that lie above. -/
theorem countIndices_eq_some {total pushed : Nat} (sum : pushed + wordsOf types = total) :
    countIndices total pushed types = some (indicesOf types) := by
  induction types generalizing pushed with
  | nil => rfl
  | cons type later inductionHypothesis =>
      rw [wordsOf_cons] at sum
      have left : total.psub pushed = some (wordsOf later + (Kind.ofDescriptor type).words) :=
        Nat.psub_eq_some.2 (by omega)
      have index : (wordsOf later + (Kind.ofDescriptor type).words).psub (Kind.ofDescriptor type).words =
          some (wordsOf later) :=
        Nat.psub_eq_some.2 rfl
      have rest : countIndices total (pushed + (Kind.ofDescriptor type).words) later =
          some (indicesOf later) :=
        inductionHypothesis (by omega)
      simp [countIndices, indicesOf, left, index, rest]

/-- Every parameter has an index. -/
theorem exists_index (listed : types[number]? = some type) :
    ∃ index, (indicesOf types)[number]? = some (index, type) := by
  induction types generalizing number with
  | nil => simp at listed
  | cons head later inductionHypothesis =>
      cases number with
      | zero =>
          cases listed
          exact ⟨wordsOf later, rfl⟩
      | succ number => exact inductionHypothesis listed

/-- What lies above a value, the value itself and what was pushed earlier make up all the words. -/
theorem index_add_words (listed : (indicesOf types)[number]? = some (index, type)) :
    index + (Kind.ofDescriptor type).words + wordsOf (types.take number) = wordsOf types := by
  induction types generalizing number with
  | nil => simp [indicesOf] at listed
  | cons head later inductionHypothesis =>
      cases number with
      | zero =>
          cases listed
          simp only [List.take_zero, wordsOf_nil, wordsOf_cons]
          omega
      | succ number =>
          have sum := inductionHypothesis listed
          simp only [List.take_succ_cons, wordsOf_cons]
          omega

end Signature

/-- The first local of a parameter. Before it come those of the receiver and of the earlier parameters. -/
def Method.firstLocal (method : Method) (signature : Signature) (number : Nat) : Nat :=
  method.receiverWords + Signature.wordsOf (signature.parameters.take number)

/-! ### The stack of the caller -/

namespace Frame

variable {frame : Frame}

/-- Push words one after the other. -/
def pushAll (frame : Frame) (words : List Taint) : Frame :=
  words.foldl push frame

@[simp] theorem stack_pushAll (words : List Taint) :
    (frame.pushAll words).stack = words.reverse ++ frame.stack := by
  induction words generalizing frame with
  | nil => rfl
  | cons word later inductionHypothesis =>
      have pushed : ((frame.push word).pushAll later).stack = later.reverse ++ word :: frame.stack :=
        inductionHypothesis
      simpa [pushAll] using pushed

/-- The index of a word is the number of words that were pushed after it. -/
theorem peek_pushAll (earlier : List Taint) (word : Taint) (later : List Taint) :
    (frame.pushAll (earlier ++ word :: later)).peek later.length = .ok word := by
  rw [peek_eq_ok_iff, stack_pushAll]
  simp

end Frame

/-- As many words as a value of the type takes. -/
def AreWordsOf (words : List Taint) (type : String) : Prop :=
  words.length = (Kind.ofDescriptor type).words

/-- What a caller pushes for a call of a method: the receiver, if the method has one, and the words of each
argument, as many as its type takes. -/
structure Operands (method : Method) (signature : Signature) where
  receiver : List Taint
  arguments : List (List Taint)
  receiverWords : receiver.length = method.receiverWords
  argumentWords : List.Forall₂ AreWordsOf arguments signature.parameters

namespace Operands

variable {method : Method} {signature : Signature} {number index : Nat} {type : String}
  {arguments : List (List Taint)} {types : List String}

/-- All the words from left to right. -/
def pushed (operands : Operands method signature) : List Taint :=
  operands.receiver ++ operands.arguments.flatten

theorem length_flatten (sized : List.Forall₂ AreWordsOf arguments types) :
    arguments.flatten.length = Signature.wordsOf types := by
  induction sized with
  | nil => rfl
  | cons size _ inductionHypothesis =>
      rw [List.flatten_cons, List.length_append, inductionHypothesis, Signature.wordsOf_cons, ← size]

theorem length_pushed (operands : Operands method signature) :
    operands.pushed.length = method.receiverWords + signature.parameterWords := by
  rw [pushed, List.length_append, operands.receiverWords, length_flatten operands.argumentWords]
  rfl

/-- As many words as the index of an argument says come after the last word of that argument. -/
theorem flatten_split (sized : List.Forall₂ AreWordsOf arguments types)
    (listed : (Signature.indicesOf types)[number]? = some (index, type)) :
    ∃ argument last earlier later, arguments[number]? = some argument ∧ argument.getLast? = some last ∧
      arguments.flatten = earlier ++ last :: later ∧ later.length = index := by
  induction sized generalizing number with
  | nil => simp [Signature.indicesOf] at listed
  | @cons words head argumentsAfter typesAfter size sizes inductionHypothesis =>
      cases number with
      | zero =>
          cases listed
          have nonempty : words ≠ [] := by
            intro empty
            have positive := (Kind.ofDescriptor type).words_pos
            rw [← size, empty] at positive
            cases positive
          refine ⟨words, words.getLast nonempty, words.dropLast, argumentsAfter.flatten, rfl,
            List.getLast?_eq_some_getLast nonempty, ?_, length_flatten sizes⟩
          rw [List.flatten_cons, List.append_cons, List.dropLast_concat_getLast nonempty]
      | succ number =>
          rcases inductionHypothesis listed with
            ⟨argument, last, earlier, later, there, isLast, split, above⟩
          refine ⟨argument, last, words ++ earlier, later, there, isLast, ?_, above⟩
          rw [List.flatten_cons, split, List.append_assoc]

/-- At the index of an argument lies the word of it that was pushed last. -/
theorem peek_argument (operands : Operands method signature)
    (listed : signature.stackIndices[number]? = some (index, type)) (frame : Frame) :
    ∃ argument last, operands.arguments[number]? = some argument ∧ argument.getLast? = some last ∧
      (frame.pushAll operands.pushed).peek index = .ok last := by
  rcases flatten_split operands.argumentWords listed with
    ⟨argument, last, earlier, later, there, isLast, split, rfl⟩
  refine ⟨argument, last, there, isLast, ?_⟩
  rw [pushed, split, ← List.append_assoc]
  exact Frame.peek_pushAll _ last later

/-- The receiver lies below all arguments. -/
theorem peek_receiver (operands : Operands method signature) (isInstance : method.isStatic = false)
    (frame : Frame) :
    ∃ receiver, operands.receiver = [receiver] ∧
      (frame.pushAll operands.pushed).peek signature.parameterWords = .ok receiver := by
  have single : operands.receiver.length = 1 := by
    rw [operands.receiverWords, Method.receiverWords, isInstance]
    rfl
  rcases List.length_eq_one_iff.1 single with ⟨receiver, only⟩
  refine ⟨receiver, only, ?_⟩
  have words := length_flatten operands.argumentWords
  rw [pushed, only, Signature.parameterWords, ← words]
  exact Frame.peek_pushAll [] receiver operands.arguments.flatten

/-- Counted from the bottom, the last word of an argument lies as high above the words that were there before
as the last local of the parameter lies above the first local of the callee. -/
theorem height_argument (operands : Operands method signature)
    (listed : signature.stackIndices[number]? = some (index, type)) (frame : Frame) :
    (frame.pushAll operands.pushed).height index =
      .ok (frame.depth + method.firstLocal signature number + ((Kind.ofDescriptor type).words - 1)) := by
  have sum : index + (Kind.ofDescriptor type).words
      + Signature.wordsOf (signature.parameters.take number) = signature.parameterWords :=
    Signature.index_add_words listed
  have positive := (Kind.ofDescriptor type).words_pos
  have depth : (frame.pushAll operands.pushed).depth =
      method.receiverWords + signature.parameterWords + frame.depth := by
    rw [Frame.depth, Frame.stack_pushAll, List.length_append, List.length_reverse, length_pushed]
    rfl
  rw [Frame.height, depth, if_pos (by omega), Method.firstLocal]
  congr 1
  omega

end Operands

/-! ### The locals of the callee -/

namespace Frame

variable {frame after : Frame} {slot : Nat} {taints : List Taint}

/-- Locals that follow each other have been filled with the given facts, each one bound to its local, and
the others are what they were. -/
structure Filled (frame : Frame) (slot : Nat) (taints : List Taint) (after : Frame) : Prop where
  filled : ∀ position taint, taints[position]? = some taint →
    after.getLocal (slot + position) = .ok { taint with slot := some (slot + position) }
  kept : ∀ other, other < slot ∨ slot + taints.length ≤ other →
    after.locals[other]? = frame.locals[other]?

/-- One more local in front can be filled first. -/
theorem Filled.cons {taint : Taint} (inside : slot < frame.locals.length)
    (rest : Filled { frame with locals := frame.locals.set slot { taint with slot := some slot } }
      (slot + 1) taints after) :
    Filled frame slot (taint :: taints) after where
  filled position own listed := by
    cases position with
    | zero =>
        cases listed
        -- The later facts go into other locals, so that this one still holds what was put into it.
        rw [Nat.add_zero, getLocal_eq_ok_iff, rest.kept slot (Or.inl (Nat.lt_succ_self slot))]
        exact List.getElem?_set_self inside
    | succ position =>
        have later := rest.filled position own listed
        rwa [Nat.add_right_comm] at later
  kept other outside := by
    rw [List.length_cons] at outside
    rw [rest.kept other (by omega)]
    exact List.getElem?_set_ne (by omega)

/-- While there are locals left, the first fact goes into the first of them. -/
theorem bindLocals_cons_of_lt (taint : Taint) (inside : slot < frame.locals.length) :
    frame.bindLocals slot (taint :: taints) =
      bindLocals { frame with locals := frame.locals.set slot { taint with slot := some slot } }
        (slot + 1) taints := by
  rw [bindLocals, setLocal, if_pos inside]
  rfl

/-- Facts are put into locals if there are enough of them. -/
theorem bindLocals_fills (fits : slot + taints.length ≤ frame.locals.length) :
    ∃ after, frame.bindLocals slot taints = .ok after ∧ Filled frame slot taints after := by
  induction taints generalizing frame slot with
  | nil => exact ⟨frame, rfl, by simp, fun _ _ => rfl⟩
  | cons taint later inductionHypothesis =>
      rw [List.length_cons] at fits
      have inside : slot < frame.locals.length := by omega
      rw [bindLocals_cons_of_lt taint inside]
      let next : Frame :=
        { frame with locals := frame.locals.set slot { taint with slot := some slot } }
      have fitsRest : slot + 1 + later.length ≤ next.locals.length := by
        rw [List.length_set]
        omega
      rcases inductionHypothesis fitsRest with ⟨after, bound, rest⟩
      exact ⟨after, bound, rest.cons inside⟩

/-- Otherwise the fault names the first local that is missing. -/
theorem bindLocals_eq_error (within : slot ≤ frame.locals.length)
    (exceeds : frame.locals.length < slot + taints.length) :
    frame.bindLocals slot taints =
      .error (.invalidSlot frame.locals.length frame.locals.length) := by
  induction taints generalizing frame slot with
  | nil => exact absurd exceeds (Nat.not_lt.2 within)
  | cons taint later inductionHypothesis =>
      rw [List.length_cons] at exceeds
      by_cases inside : slot < frame.locals.length
      · have count : (frame.locals.set slot { taint with slot := some slot }).length =
            frame.locals.length :=
          List.length_set
        rw [bindLocals_cons_of_lt taint inside, inductionHypothesis, count]
        · rwa [count]
        · rw [count]
          omega
      · have last : slot = frame.locals.length := by omega
        rw [bindLocals, setLocal, if_neg inside, last]
        rfl

end Frame

section Entry

variable {policy : Policy} {method : Method} {signature : Signature} {argument : String → Nat → Taint}
  {types : List String} {type : String} {number index word : Nat} {entry : Frame}

theorem length_parameterTaints (types : List String) (first : Nat) :
    (parameterTaints policy argument first (Signature.indicesOf types)).length =
      Signature.wordsOf types := by
  induction types generalizing first with
  | nil => rfl
  | cons type later inductionHypothesis =>
      rw [Signature.indicesOf, parameterTaints, List.length_append, List.length_replicate,
        inductionHypothesis, Signature.wordsOf_cons]

theorem length_entryTaints :
    (entryTaints policy method signature argument).length =
      method.receiverWords + signature.parameterWords := by
  rw [entryTaints, List.length_append, Signature.stackIndices, length_parameterTaints,
    Method.receiverWords]
  cases method.isStatic <;> rfl

/-- The words of a parameter come after those of the earlier ones, and each one is known to be what the
argument is known to be. -/
theorem getElem?_parameterTaints (first : Nat)
    (listed : (Signature.indicesOf types)[number]? = some (index, type))
    (within : word < (Kind.ofDescriptor type).words) :
    (parameterTaints policy argument first (Signature.indicesOf types))[
        Signature.wordsOf (types.take number) + word]? =
      some (if policy.isSafe type then .safe else argument (toString (first + number)) index) := by
  induction types generalizing first number with
  | nil => simp [Signature.indicesOf] at listed
  | cons head later inductionHypothesis =>
      rw [Signature.indicesOf, parameterTaints]
      -- The words of the first parameter come first, those of a later one are looked for behind them.
      cases number with
      | zero =>
          cases listed
          rw [List.getElem?_append_left (by simpa using within)]
          simp [within]
      | succ number =>
          have rest := inductionHypothesis (first + 1) listed
          rw [List.take_succ_cons, Signature.wordsOf_cons, Nat.add_assoc,
            List.getElem?_append_right (by simp), List.length_replicate, Nat.add_sub_cancel_left, rest,
            Nat.add_right_comm first 1 number]
          rfl

/-- On entry, the first locals are filled with what the method is called with. -/
theorem calledFrame_fills (fits : signature.parameterWords + method.receiverWords ≤ method.maxLocals) :
    ∃ entry, calledFrame policy method signature argument = .ok entry ∧
      Frame.Filled (.fresh method.maxLocals) 0 (entryTaints policy method signature argument) entry := by
  apply Frame.bindLocals_fills
  rw [length_entryTaints, Frame.fresh, List.length_map, List.length_range]
  omega

/-- A method with fewer locals than it is called with words cannot be entered. -/
theorem calledFrame_eq_error
    (exceeds : method.maxLocals < signature.parameterWords + method.receiverWords) :
    calledFrame policy method signature argument =
      .error (.invalidSlot method.maxLocals method.maxLocals) := by
  have count : (Frame.fresh method.maxLocals).locals.length = method.maxLocals := by
    simp [Frame.fresh]
  have exceedsLocals : (Frame.fresh method.maxLocals).locals.length <
      0 + (entryTaints policy method signature argument).length := by
    rw [count, length_entryTaints]
    omega
  rw [calledFrame, Frame.bindLocals_eq_error (Nat.zero_le _) exceedsLocals, count]

theorem exists_calledFrame_iff :
    (∃ entry, calledFrame policy method signature argument = .ok entry) ↔
      signature.parameterWords + method.receiverWords ≤ method.maxLocals := by
  constructor
  · rintro ⟨entry, entered⟩
    by_contra exceeds
    rw [calledFrame_eq_error (by omega)] at entered
    cases entered
  · intro fits
    rcases calledFrame_fills fits with ⟨entry, entered, -⟩
    exact ⟨entry, entered⟩

theorem filled_of_calledFrame (entered : calledFrame policy method signature argument = .ok entry) :
    Frame.Filled (.fresh method.maxLocals) 0 (entryTaints policy method signature argument) entry := by
  rcases calledFrame_fills (exists_calledFrame_iff.1 ⟨entry, entered⟩) with ⟨filled, entered', fills⟩
  rwa [← Except.ok.inj (entered'.symm.trans entered)]

/-- Each local of a parameter holds what is known of the argument at the index of that parameter. -/
theorem getLocal_parameter (entered : calledFrame policy method signature argument = .ok entry)
    (listed : signature.stackIndices[number]? = some (index, type))
    (within : word < (Kind.ofDescriptor type).words) :
    entry.getLocal (method.firstLocal signature number + word) =
      .ok
        { (if policy.isSafe type then .safe else argument (toString number) index : Taint) with
          slot := some (method.firstLocal signature number + word) } := by
  have there : (entryTaints policy method signature argument)[
      method.firstLocal signature number + word]? =
      some (if policy.isSafe type then .safe else argument (toString (0 + number)) index) := by
    rw [← getElem?_parameterTaints 0 listed within, entryTaints, Signature.stackIndices,
      Method.firstLocal, Nat.add_assoc, Method.receiverWords]
    cases method.isStatic with
    | true => simp
    | false => simp [Nat.add_comm 1]
  rw [Nat.zero_add] at there
  have filled := (filled_of_calledFrame entered).filled _ _ there
  rwa [Nat.zero_add] at filled

theorem getLocal_receiver (entered : calledFrame policy method signature argument = .ok entry)
    (isInstance : method.isStatic = false) :
    entry.getLocal 0 = .ok { argument "this" signature.parameterWords with slot := some 0 } := by
  have there : (entryTaints policy method signature argument)[0]? =
      some (argument "this" signature.parameterWords) := by
    simp [entryTaints, isInstance]
  exact (filled_of_calledFrame entered).filled 0 _ there

end Entry

/-! ### Both sides -/

/-- The value is unknown, and as dangerous as one argument of the call and no other. -/
def Taint.ParametricIn (taint : Taint) (index : Nat) : Prop :=
  taint.state = .unknown ∧ ∀ other, other ∈ taint.parameters ↔ other = index

theorem Taint.parametricIn_argumentTaint (method : Method) (name : String) (index slot : Nat) :
    { argumentTaint method name index with slot := some slot : Taint }.ParametricIn index :=
  ⟨rfl, fun other => @mem_parameters_argumentTaint method name index other⟩

/-- The method is any one whose descriptor can be read, static or not. The stack indices of its parameters
can be counted from the left without ever taking away more words than there are; the index of a parameter,
its own words and those of the earlier parameters make up all the words. Where a caller has pushed the
receiver and the arguments from left to right, the last word of the argument lies at that index, as high above
the words that were there before as its local is above the first one of the callee. A frame on entry exists
exactly if the method has locals for all the words. In it, the locals of a parameter are safe if its type is,
and otherwise parametric in just the index of that parameter; the receiver is parametric in just the index at
which the caller has it. -/
theorem Method.caller_and_callee_agree (policy : Policy) {method : Method} {signature : Signature}
    (read : method.signature = .ok signature) :
    Signature.countIndices signature.parameterWords 0 signature.parameters =
        some signature.stackIndices ∧
      (∀ number type, signature.parameters[number]? = some type → ∃ index,
        signature.stackIndices[number]? = some (index, type) ∧
        (Kind.ofDescriptor type).words = (if type = "J" ∨ type = "D" then 2 else 1) ∧
        index + (Kind.ofDescriptor type).words + Signature.wordsOf (signature.parameters.take number) =
          signature.parameterWords ∧
        (∀ (operands : Operands method signature) (frame : Frame), ∃ argument last,
          operands.arguments[number]? = some argument ∧ argument.getLast? = some last ∧
          (frame.pushAll operands.pushed).peek index = .ok last ∧
          (frame.pushAll operands.pushed).height index =
            .ok (frame.depth + method.firstLocal signature number
              + ((Kind.ofDescriptor type).words - 1))) ∧
        ∀ entry, entryFrame policy method signature = .ok entry →
          ∀ word < (Kind.ofDescriptor type).words, ∃ taint,
            entry.getLocal (method.firstLocal signature number + word) = .ok taint ∧
            if policy.isSafe type then taint.state = .safe ∧ taint.isParametric = false
            else taint.ParametricIn index) ∧
      (method.isStatic = false →
        (∀ (operands : Operands method signature) (frame : Frame), ∃ receiver,
          operands.receiver = [receiver] ∧
          (frame.pushAll operands.pushed).peek signature.parameterWords = .ok receiver) ∧
        ∀ entry, entryFrame policy method signature = .ok entry → ∃ taint,
          entry.getLocal 0 = .ok taint ∧ taint.ParametricIn signature.parameterWords) ∧
      ((∃ entry, entryFrame policy method signature = .ok entry) ↔
        signature.parameterWords + method.receiverWords ≤ method.maxLocals) := by
  have spells := Signature.parse_eq_ok_iff_spells.1 read
  refine ⟨Signature.countIndices_eq_some (Nat.zero_add _), ?_, ?_, exists_calledFrame_iff⟩
  · intro number type declared
    rcases Signature.exists_index declared with ⟨index, listed⟩
    have isType := (spells.parameters type (List.mem_of_getElem? declared)).1
    refine ⟨index, listed, isType.words_eq, Signature.index_add_words listed, ?_, ?_⟩
    · intro operands frame
      rcases operands.peek_argument listed frame with ⟨argument, last, there, isLast, peeked⟩
      exact ⟨argument, last, there, isLast, peeked, operands.height_argument listed frame⟩
    · intro entry entered word within
      refine ⟨_, getLocal_parameter entered listed within, ?_⟩
      cases policy.isSafe type with
      | true => exact ⟨rfl, Taint.isParametric_eq_false_iff.2 rfl⟩
      | false => exact Taint.parametricIn_argumentTaint method _ index _
  · intro isInstance
    refine ⟨fun operands frame => operands.peek_receiver isInstance frame, ?_⟩
    intro entry entered
    exact ⟨_, getLocal_receiver entered isInstance, Taint.parametricIn_argumentTaint method _ _ 0⟩

/-- A method with just enough locals for its receiver, two texts, and a long between them. -/
def paddedText : Method :=
  ⟨"Text", "pad", "(Ljava/lang/String;JLjava/lang/String;)V", false, 5⟩

/-- What a caller pushes for it, where the two words of the long are told apart. -/
def paddingOperands :
    Operands paddedText ⟨["Ljava/lang/String;", "J", "Ljava/lang/String;"], "V"⟩ where
  receiver := [.unknown]
  arguments := [[.tainted], [.null, .safe], [.constant " "]]
  receiverWords := rfl
  argumentWords := .cons rfl (.cons rfl (.cons rfl .nil))

/-- The first text lies below three other words for the caller, and for the callee in the local after the
receiver. The long is addressed by the word that was pushed last, and takes the next two locals. -/
theorem paddedText_agrees :
    paddedText.signature = .ok ⟨["Ljava/lang/String;", "J", "Ljava/lang/String;"], "V"⟩ ∧
      (Frame.pushAll (.fresh 1) paddingOperands.pushed).peek 3 = .ok .tainted ∧
      (Frame.pushAll (.fresh 1) paddingOperands.pushed).peek 1 = .ok .safe ∧
      ∃ entry receiver text long,
        entryFrame (Declarations.policy {}) paddedText
          ⟨["Ljava/lang/String;", "J", "Ljava/lang/String;"], "V"⟩ = .ok entry ∧
        entry.getLocal 0 = .ok receiver ∧ receiver.ParametricIn 4 ∧
        entry.getLocal 1 = .ok text ∧ text.ParametricIn 3 ∧
        entry.getLocal 3 = .ok long ∧ long.state = .safe := by
  have read : paddedText.signature = .ok ⟨["Ljava/lang/String;", "J", "Ljava/lang/String;"], "V"⟩ :=
    toOption_eq_some_iff.1 (by decide)
  rcases Method.caller_and_callee_agree (Declarations.policy {}) read with
    ⟨-, parameters, receivers, enters⟩
  rcases enters.2 (by decide) with ⟨entry, entered⟩
  rcases (receivers rfl).2 entry entered with ⟨receiver, isReceiver, parametricReceiver⟩
  rcases parameters 0 _ rfl with ⟨textIndex, textListed, -, -, textPushed, textLocals⟩
  rcases parameters 1 _ rfl with ⟨longIndex, longListed, -, -, longPushed, longLocals⟩
  cases textListed
  cases longListed
  rcases textPushed paddingOperands (.fresh 1) with ⟨_, _, textThere, textLast, textPeeked, -⟩
  cases textThere
  cases textLast
  rcases longPushed paddingOperands (.fresh 1) with ⟨_, _, longThere, longLast, longPeeked, -⟩
  cases longThere
  cases longLast
  rcases textLocals entry entered 0 (by decide) with ⟨text, isText, parametricText⟩
  rcases longLocals entry entered 1 (by decide) with ⟨long, isLong, safeLong⟩
  rw [if_neg (by decide)] at parametricText
  rw [if_pos (by decide)] at safeLong
  exact ⟨read, textPeeked, longPeeked, entry, receiver, text, long, entered, isReceiver,
    parametricReceiver, isText, parametricText, isLong, safeLong.1⟩

end TaintFlow
