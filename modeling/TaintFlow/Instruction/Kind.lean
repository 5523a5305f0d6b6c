/-
Module: TaintFlow.Instruction.Kind
Purpose: Type descriptors as far as the operand stack is concerned: what kind of value they describe
  and how many words it takes.
Main exports: Kind, Kind.words, Kind.ofDescriptor, isPrimitive, isReference, classDescriptor
-/

namespace TaintFlow

/-- What kind of value a stack word belongs to. -/
inductive Kind where
  | int
  | long
  | float
  | double
  | reference
deriving Repr, Inhabited, DecidableEq

namespace Kind

/-- Stack words, and local slots, that a value of this kind takes. -/
def words : Kind → Nat
  | long | double => 2
  | int | float | reference => 1

/-- The kind of a value with the given type descriptor. The first character decides, and what is no
descriptor counts as an integer. -/
def ofDescriptor (type : String) : Kind :=
  match type.toList with
  | 'J' :: _ => long
  | 'D' :: _ => double
  | 'F' :: _ => float
  | 'L' :: _ | '[' :: _ => reference
  | _ => int

/-- The name under which a kind is shown. -/
def name : Kind → String
  | int => "Int"
  | long => "Long"
  | float => "Float"
  | double => "Double"
  | reference => "Reference"

theorem words_pos (kind : Kind) : 0 < kind.words := by
  cases kind <;> decide

end Kind

/-- The letters that stand for a primitive type. -/
def baseTypes : List Char :=
  ['B', 'C', 'D', 'F', 'I', 'J', 'S', 'Z']

/-- Is the type descriptor one of a primitive type? -/
def isPrimitive (type : String) : Bool :=
  match type.toList with
  | [letter] => letter ∈ baseTypes
  | _ => false

/-- Does the type descriptor name a class or an array? -/
def isReference (type : String) : Bool :=
  match type.toList with
  | 'L' :: _ | '[' :: _ => true
  | _ => false

/-- A class name in internal form, with slashes between its parts. -/
def slashed (className : String) : String :=
  String.ofList (className.toList.map fun char => if char = '.' then '/' else char)

/-- The type descriptor of a class. The name of an array class is a descriptor already. -/
def classDescriptor (className : String) : String :=
  match className.toList with
  | '[' :: _ => className
  | _ => "L" ++ slashed className ++ ";"

end TaintFlow
