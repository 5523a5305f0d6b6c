/-
Module: TaintFlow.Instruction.Basic
Purpose: The instructions of the stack machine, grouped by what they do to facts.
Main exports: Literal, FieldName, Call, Instruction
-/
import TaintFlow.Decimal.Binary
import TaintFlow.Instruction.Kind

namespace TaintFlow

/-- A constant in the code. Floating point constants are kept as their bits. -/
inductive Literal where
  | string (value : String)
  | int (value : Int32)
  /-- An integer meant as a character. -/
  | char (value : Char)
  | long (value : Int64)
  | float (bits : UInt32)
  | double (bits : UInt64)
  | null
deriving Repr, Inhabited, DecidableEq

/-- A field named by an instruction. -/
structure FieldName where
  owner : String
  name : String
  descriptor : String
deriving Repr, Inhabited, DecidableEq

/-- How a callee is chosen. -/
inductive Dispatch where
  | virtual
  | interface
  | special
  | static
deriving Repr, Inhabited, DecidableEq

/-- A method named by a call instruction. -/
structure Call where
  dispatch : Dispatch
  owner : String
  name : String
  descriptor : String
deriving Repr, Inhabited, DecidableEq

/-- Rearrangements of the operand stack. -/
inductive Shuffle where
  | pop
  | pop2
  | dup
  | dupX1
  | dup2
  | swap
deriving Repr, Inhabited, DecidableEq

/-- One instruction, as far as facts are concerned. -/
inductive Instruction where
  /-- Push a constant. -/
  | constant (literal : Literal)
  | getField (field : FieldName) (isStatic : Bool)
  | putField (field : FieldName) (isStatic : Bool)
  /-- Push a local. -/
  | load (index : Nat) (kind : Kind)
  /-- Pop into a local. -/
  | store (index : Nat) (kind : Kind)
  /-- Create an instance of a class. -/
  | new (className : String)
  | newArray (dimensions : Nat)
  | arrayStore (kind : Kind)
  | arrayLoad (kind : Kind)
  | checkCast (className : String)
  /-- End the method, with a value if there is a kind. -/
  | return (kind : Option Kind)
  | invoke (call : Call)
  /-- Put texts one after the other. -/
  | concat (operands : Nat)
  | stack (shuffle : Shuffle)
  /-- Anything else, by the words it pops and the words without any known fact it pushes. -/
  | other (consumed produced : Nat)
deriving Repr, Inhabited, DecidableEq

/-- The name of every constructor method. -/
def constructorName : String := "<init>"

/-- The name of every method that initialises the static fields of a class. -/
def staticInitializerName : String := "<clinit>"

namespace Literal

def kind : Literal → Kind
  | string _ | null => .reference
  | int _ | char _ => .int
  | long _ => .long
  | float _ => .float
  | double _ => .double

end Literal

namespace FieldName

/-- The name of the field with its class, `owner.name`. -/
def signature (field : FieldName) : String :=
  slashed field.owner ++ "." ++ field.name

def kind (field : FieldName) : Kind :=
  Kind.ofDescriptor field.descriptor

end FieldName

namespace Call

def isStatic (call : Call) : Bool :=
  call.dispatch = .static

def isConstructor (call : Call) : Bool :=
  call.name = constructorName

/-- The method without its class, `.name(descriptor)`. -/
def methodId (call : Call) : String :=
  "." ++ call.name ++ call.descriptor

/-- The method with its class, `owner.name(descriptor)`. -/
def signature (call : Call) : String :=
  slashed call.owner ++ call.methodId

/-- The words that the receiver of the call takes. -/
def receiverWords (call : Call) : Nat :=
  if call.isStatic then 0 else 1

end Call

namespace Instruction

/-- The call that the instruction makes, if it is one. -/
def call? : Instruction → Option Call
  | invoke call => some call
  | _ => none

end Instruction

/-! ### Equality of programs

Two programs are compared by what their constants denote, so floating point constants count as
numbers and not as bit patterns. -/

/-- Do two literals denote the same value? -/
def Literal.sameValue : Literal → Literal → Bool
  | .float one, .float two => Decimal.sameNumber .binary32 one.toNat two.toNat
  | .double one, .double two => Decimal.sameNumber .binary64 one.toNat two.toNat
  | one, two => one = two

/-- Are two instructions the same, up to the spelling of their constants? -/
def Instruction.sameMeaning : Instruction → Instruction → Bool
  | .constant one, .constant two => one.sameValue two
  | one, two => one = two

end TaintFlow
