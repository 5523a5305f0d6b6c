/-
Module: TaintFlow.Proofs.Descriptors
Purpose: Which texts are method descriptors. A grammar says what a field type is and how a descriptor is
  put together from field types, and reading a text finds exactly the parts that the grammar allows, of
  which there is never a second choice.
Main exports: FieldType, Signature.Spells, fieldTypes_append, fieldTypes_eq_some_iff, isFieldType_iff,
  Signature.parse_eq_ok_iff, Signature.raises_parse, Signature.parse_eq_ok_iff_spells,
  Signature.parse_decides_grammar
-/
import Mathlib.Data.List.TakeWhile
import TaintFlow.Proofs.Results
import TaintFlow.Signature

namespace TaintFlow

/-! ### The grammar -/

/-- A letter that stands for a primitive type, or a class name between `L` and a semicolon. -/
inductive ElementType : List Char → Prop where
  | base {letter : Char} (isBase : letter ∈ ['B', 'C', 'D', 'F', 'I', 'J', 'S', 'Z']) :
      ElementType [letter]
  | named {name : List Char} (unended : ';' ∉ name) : ElementType ('L' :: (name ++ [';']))

/-- Any number of brackets, and then what the innermost elements are. -/
def FieldType (text : List Char) : Prop :=
  ∃ dimensions element, text = List.replicate dimensions '[' ++ element ∧ ElementType element

/-- The descriptor is the types of the signature one after the other, the parameters in parentheses. No
parameter may have a closing parenthesis in it, but the result may. -/
structure Signature.Spells (signature : Signature) (descriptor : String) : Prop where
  parameters : ∀ type ∈ signature.parameters, FieldType type.toList ∧ ')' ∉ type.toList
  result : signature.returnType = "V" ∨ FieldType signature.returnType.toList
  text : descriptor = "(" ++ String.join signature.parameters ++ ")" ++ signature.returnType

/-! ### Texts that consist of field types are cut into them -/

section Complete

variable {held rest name text : List Char}

/-- Brackets are held until it is known what they belong to. -/
theorem fieldTypesAfter_brackets (dimensions : Nat) :
    fieldTypesAfter held false (List.replicate dimensions '[' ++ rest) =
      fieldTypesAfter (List.replicate dimensions '[' ++ held) false rest := by
  induction dimensions generalizing held with
  | zero => rfl
  | succ dimensions inductionHypothesis =>
      rw [List.replicate_succ, List.cons_append, fieldTypesAfter]
      simp only [Bool.false_eq_true, if_false, baseTypes]
      rw [if_neg (by decide), if_neg (by decide), if_true, inductionHypothesis, List.append_cons,
        ← List.replicate_succ', List.replicate_succ]

/-- A class name goes on to its semicolon. -/
theorem fieldTypesAfter_name (unended : ';' ∉ name) :
    fieldTypesAfter held true (name ++ ';' :: rest) =
      (fieldTypes rest).map (String.ofList (held.reverse ++ (name ++ [';'])) :: ·) := by
  induction name generalizing held with
  | nil => simp [fieldTypesAfter, fieldTypes]
  | cons char later inductionHypothesis =>
      simp only [List.mem_cons, not_or] at unended
      rw [List.cons_append, fieldTypesAfter]
      simp only [if_true, true_or]
      rw [if_neg (Ne.symm unended.1), inductionHypothesis unended.2]
      simp

/-- The first field type of a text is cut off, whatever follows it. -/
theorem fieldTypes_append (isType : FieldType text) :
    fieldTypes (text ++ rest) = (fieldTypes rest).map (String.ofList text :: ·) := by
  rcases isType with ⟨dimensions, element, rfl, isElement⟩
  rw [fieldTypes, List.append_assoc, fieldTypesAfter_brackets, List.append_nil]
  cases isElement with
  | @base letter isBase =>
      have isBase : letter ∈ baseTypes := isBase
      rw [List.singleton_append, fieldTypesAfter]
      simp [isBase, fieldTypes]
  | @named name unended =>
      rw [List.cons_append, fieldTypesAfter]
      simp only [Bool.false_eq_true, if_false]
      rw [if_neg (by decide), if_pos (by simp), List.append_assoc, List.singleton_append,
        fieldTypesAfter_name unended]
      simp

theorem fieldTypes_flatMap {types : List String} (areTypes : ∀ type ∈ types, FieldType type.toList) :
    fieldTypes (types.flatMap String.toList) = some types := by
  induction types with
  | nil => rfl
  | cons type later inductionHypothesis =>
      rw [List.forall_mem_cons] at areTypes
      rw [List.flatMap_cons, fieldTypes_append areTypes.1, inductionHypothesis areTypes.2]
      simp

end Complete

/-! ### Texts are cut into nothing but field types -/

/-- What is held while a type is read: brackets, and perhaps the beginning of a class name. -/
inductive Begun : List Char → Bool → Prop where
  | brackets (dimensions : Nat) : Begun (List.replicate dimensions '[') false
  | name (dimensions : Nat) {name : List Char} (unended : ';' ∉ name) :
      Begun (name.reverse ++ 'L' :: List.replicate dimensions '[') true

namespace Begun

variable {held : List Char} {inName : Bool} {char : Char}

theorem nothing : Begun [] false :=
  .brackets 0

/-- The character that ends a type makes a field type of what is held. -/
theorem ends (begun : Begun held inName)
    (ending : if inName then char = ';' else char ∈ baseTypes) : FieldType (char :: held).reverse := by
  cases begun with
  | brackets dimensions =>
      refine ⟨dimensions, [char], by simp, .base ?_⟩
      simpa [baseTypes] using ending
  | @name dimensions name unended =>
      have isEnd : char = ';' := by simpa using ending
      refine ⟨dimensions, 'L' :: (name ++ [';']), by simp [isEnd], .named unended⟩

/-- A character that ends nothing is held as well, if it belongs to a class name or begins one. -/
theorem reads (begun : Begun held inName)
    (goesOn : ¬ if inName then char = ';' else char ∈ baseTypes) (named : inName ∨ char = 'L') :
    Begun (char :: held) true := by
  cases begun with
  | brackets dimensions =>
      have isL : char = 'L' := by simpa using named
      subst isL
      exact @Begun.name dimensions [] (by simp)
  | @name dimensions name unended =>
      have notEnd : char ≠ ';' := by simpa using goesOn
      have stillUnended : ';' ∉ name ++ [char] := by simp [unended, notEnd.symm]
      simpa using Begun.name dimensions stillUnended

theorem opens (begun : Begun held inName) (unnamed : ¬ (inName ∨ '[' = 'L')) :
    Begun ('[' :: held) false := by
  cases begun with
  | brackets dimensions => exact .brackets (dimensions + 1)
  | name dimensions unended => simp at unnamed

end Begun

/-- The induction is over the characters; what is held is always the beginning of a type. -/
theorem fieldTypesAfter_sound {held text : List Char} {inName : Bool} {types : List String}
    (begun : Begun held inName) (cut : fieldTypesAfter held inName text = some types) :
    (∀ type ∈ types, FieldType type.toList) ∧
      held.reverse ++ text = types.flatMap String.toList := by
  fun_induction fieldTypesAfter held inName text generalizing types with
  | case1 held inName empty =>
      cases cut
      simpa using empty
  | case2 held inName unfinished => cases cut
  | case3 held inName char rest ending inductionHypothesis =>
      rcases Option.map_eq_some_iff.1 cut with ⟨later, cutLater, rfl⟩
      rcases inductionHypothesis .nothing cutLater with ⟨areTypes, rfl⟩
      refine ⟨List.forall_mem_cons.2 ⟨?_, areTypes⟩, by simp⟩
      rw [String.toList_ofList]
      exact begun.ends ending
  | case4 held inName char rest goesOn named inductionHypothesis =>
      simpa using inductionHypothesis (begun.reads goesOn named) cut
  | case5 held inName rest goesOn unnamed inductionHypothesis =>
      simpa using inductionHypothesis (begun.opens unnamed) cut
  | case6 => cases cut

/-- A text is cut into some types exactly if it consists of them and they are field types. -/
theorem fieldTypes_eq_some_iff {text : List Char} {types : List String} :
    fieldTypes text = some types ↔
      (∀ type ∈ types, FieldType type.toList) ∧ text = types.flatMap String.toList := by
  constructor
  · exact fieldTypesAfter_sound .nothing
  · rintro ⟨areTypes, rfl⟩
    exact fieldTypes_flatMap areTypes

theorem isFieldType_iff {text : List Char} : isFieldType text ↔ FieldType text := by
  unfold isFieldType
  constructor
  · intro single
    split at single
    next type cut =>
      rcases fieldTypes_eq_some_iff.1 cut with ⟨areTypes, rfl⟩
      simpa using areTypes
    next => cases single
  · intro isType
    have cut : fieldTypes (text ++ []) = some [String.ofList text] := fieldTypes_append isType
    rw [List.append_nil] at cut
    rw [cut]

/-! ### Descriptors -/

namespace Signature

variable {descriptor : String} {signature : Signature}

/-- A descriptor is read by cutting it at its first closing parenthesis. -/
theorem parse_eq_ok_iff :
    parse descriptor = .ok signature ↔
      ∃ parameters result, descriptor.toList = '(' :: (parameters ++ ')' :: result) ∧
        ')' ∉ parameters ∧ fieldTypes parameters = some signature.parameters ∧
        (result = ['V'] ∨ isFieldType result) ∧ signature.returnType = String.ofList result := by
  constructor
  · intro parsed
    unfold parse at parsed
    dsimp only at parsed
    split at parsed
    next afterOpening opened =>
      split at parsed
      next result closed =>
        split at parsed
        next parameters cut =>
          split at parsed
          next isResult =>
            cases parsed
            refine ⟨afterOpening.takeWhile (· ≠ ')'), result, ?_, ?_, cut, isResult, rfl⟩
            · rw [opened, ← closed, List.takeWhile_append_dropWhile]
            · intro member
              simpa using List.mem_takeWhile_imp member
          next => cases parsed
        next => cases parsed
      next => cases parsed
    next => cases parsed
  · rintro ⟨parameters, result, text, unclosed, cut, isResult, returned⟩
    have before : ∀ char ∈ parameters, decide (char ≠ ')') = true := by
      intro char member
      exact decide_eq_true fun closing => unclosed (closing ▸ member)
    have taken : (parameters ++ ')' :: result).takeWhile (· ≠ ')') = parameters := by
      rw [List.takeWhile_append_of_pos before]
      simp
    have dropped : (parameters ++ ')' :: result).dropWhile (· ≠ ')') = ')' :: result := by
      rw [List.dropWhile_append_of_pos before]
      simp
    simp only [parse, text, dropped, taken, cut, if_pos isResult, ← returned]

/-- Whatever is wrong with it, the fault names the descriptor. -/
theorem raises_parse (descriptor : String) :
    Raises (fun fault => ∃ flaw, fault = .invalidDescriptor descriptor flaw) (parse descriptor) := by
  unfold parse
  dsimp only
  split
  · split
    · split
      · split
        · exact raises_ok _
        · exact raises_error ⟨_, rfl⟩
      · exact raises_error ⟨_, rfl⟩
    · exact raises_error ⟨_, rfl⟩
  · exact raises_error ⟨_, rfl⟩

/-- Reading a descriptor finds the signature that spells it. -/
theorem parse_eq_ok_iff_spells : parse descriptor = .ok signature ↔ signature.Spells descriptor := by
  rw [parse_eq_ok_iff]
  constructor
  · rintro ⟨parameters, result, text, unclosed, cut, isResult, returned⟩
    rcases fieldTypes_eq_some_iff.1 cut with ⟨areTypes, rfl⟩
    refine ⟨?_, ?_, ?_⟩
    · intro type member
      refine ⟨areTypes type member, fun closing => unclosed ?_⟩
      exact List.mem_flatMap.2 ⟨type, member, closing⟩
    · rw [returned, String.toList_ofList]
      exact isResult.imp (fun isVoid => by rw [isVoid]) isFieldType_iff.1
    · rw [← String.toList_inj, text, returned]
      simp
  · rintro ⟨areTypes, isResult, rfl⟩
    refine ⟨signature.parameters.flatMap String.toList, signature.returnType.toList, ?_, ?_, ?_, ?_, ?_⟩
    · simp
    · intro closing
      rcases List.mem_flatMap.1 closing with ⟨type, member, within⟩
      exact (areTypes type member).2 within
    · exact fieldTypes_flatMap fun type member => (areTypes type member).1
    · exact isResult.imp (fun isVoid => by rw [isVoid]; rfl) isFieldType_iff.2
    · rw [String.ofList_toList]

/-- For every text, reading it as a descriptor gives a signature exactly if the text is that signature
spelled out: its parameters are field types without a closing parenthesis, its result is void or a field
type, and the text is the parameters in parentheses and then the result. No text spells two signatures,
and a text that spells none is refused as an invalid descriptor, which the fault names. -/
theorem parse_decides_grammar (descriptor : String) :
    (∀ signature, parse descriptor = .ok signature ↔ signature.Spells descriptor) ∧
      (∀ one two : Signature, one.Spells descriptor → two.Spells descriptor → one = two) ∧
      ((∃ flaw, parse descriptor = .error (.invalidDescriptor descriptor flaw)) ↔
        ¬ ∃ signature : Signature, signature.Spells descriptor) := by
  refine ⟨fun signature => parse_eq_ok_iff_spells, ?_, ?_⟩
  · intro one two spelledOne spelledTwo
    have readOne := parse_eq_ok_iff_spells.2 spelledOne
    have readTwo := parse_eq_ok_iff_spells.2 spelledTwo
    exact Except.ok.inj (readOne.symm.trans readTwo)
  · constructor
    · rintro ⟨flaw, refused⟩ ⟨signature, spelled⟩
      rw [parse_eq_ok_iff_spells.2 spelled] at refused
      cases refused
    · intro unspelled
      cases read : parse descriptor with
      | ok signature => exact absurd ⟨signature, parse_eq_ok_iff_spells.1 read⟩ unspelled
      | error fault =>
          rcases raises_parse descriptor fault read with ⟨flaw, rfl⟩
          exact ⟨flaw, rfl⟩

/-- A closing parenthesis may stand in the name of the class of the result, but not of a parameter. -/
example : parse "([[JLa(é;)L)b;" = .ok ⟨["[[J", "La(é;"], "L)b;"⟩ ∧
    parse "(La)b;)V" = .error (.invalidDescriptor "(La)b;)V" .parameterType) := by
  decide +kernel

end Signature

end TaintFlow
