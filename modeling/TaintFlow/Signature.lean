/-
Module: TaintFlow.Signature
Purpose: Method descriptors such as `(Ljava/lang/String;[IJ)V`: reading them, and where the arguments
  of a call with such a descriptor lie on the operand stack.
Main exports: Signature, Signature.parse, Signature.stackIndices
-/
import TaintFlow.Fault
import TaintFlow.Instruction.Kind

namespace TaintFlow

/-- The types of the parameters of a method and of its result, as type descriptors. -/
structure Signature where
  parameters : List String
  returnType : String
deriving Repr, Inhabited, DecidableEq

/-! ### Reading descriptors -/

/-- Cut a text into the field types that it consists of. The characters of the type being read are
held in reverse, and `inName` says that they have come to a class name, which ends at the next
semicolon. -/
def fieldTypesAfter (held : List Char) (inName : Bool) : List Char → Option (List String)
  | [] => if held.isEmpty then some [] else none
  | char :: rest =>
      if (if inName then char = ';' else char ∈ baseTypes) then
        (fieldTypesAfter [] false rest).map (String.ofList (char :: held).reverse :: ·)
      else if inName ∨ char = 'L' then fieldTypesAfter (char :: held) true rest
      else if char = '[' then fieldTypesAfter (char :: held) false rest
      else none

/-- The field types that a text consists of, one after the other. -/
def fieldTypes (text : List Char) : Option (List String) :=
  fieldTypesAfter [] false text

/-- Is the text exactly one field type? -/
def isFieldType (text : List Char) : Bool :=
  match fieldTypes text with
  | some [_] => true
  | _ => false

namespace Signature

/-- Read a method descriptor. The parameters end at the first closing parenthesis, even if that one
stands inside a class name. -/
def parse (descriptor : String) : Except Fault Signature :=
  let refuse (flaw : DescriptorFlaw) := Except.error (Fault.invalidDescriptor descriptor flaw)
  match descriptor.toList with
  | '(' :: afterOpening =>
      match afterOpening.dropWhile (· ≠ ')') with
      | ')' :: result =>
          match fieldTypes (afterOpening.takeWhile (· ≠ ')')) with
          | some parameters =>
              if result = ['V'] ∨ isFieldType result then
                .ok ⟨parameters, String.ofList result⟩
              else refuse .returnType
          | none => refuse .parameterType
      | _ => refuse .noClosingParenthesis
  | _ => refuse .noOpeningParenthesis

/-! ### Words -/

def returnsVoid (signature : Signature) : Bool :=
  signature.returnType = "V"

/-- The stack words that values of the given types take together. -/
def wordsOf (types : List String) : Nat :=
  types.foldr (fun type words => (Kind.ofDescriptor type).words + words) 0

/-- The stack words of the parameters, without a receiver. -/
def parameterWords (signature : Signature) : Nat :=
  wordsOf signature.parameters

/-- The stack words that a call leaves as its result. -/
def returnWords (signature : Signature) : Nat :=
  if signature.returnsVoid then 0 else (Kind.ofDescriptor signature.returnType).words

/-- Each type with the words that lie above it on the stack when values of all these types have been
pushed from left to right. -/
def indicesOf : List String → List (Nat × String)
  | [] => []
  | type :: later => (wordsOf later, type) :: indicesOf later

/-- Each parameter with its stack index at a call, counted from the top. A value of two words is
addressed by its topmost word. -/
def stackIndices (signature : Signature) : List (Nat × String) :=
  indicesOf signature.parameters

@[simp] theorem wordsOf_nil : wordsOf [] = 0 := rfl

@[simp] theorem wordsOf_cons (type : String) (later : List String) :
    wordsOf (type :: later) = (Kind.ofDescriptor type).words + wordsOf later :=
  rfl

@[simp] theorem length_indicesOf (types : List String) :
    (indicesOf types).length = types.length := by
  induction types with
  | nil => rfl
  | cons type later inductionHypothesis => simp [indicesOf, inductionHypothesis]

end Signature

end TaintFlow
