/-
Module: TaintFlow.Program.Method
Purpose: The method under analysis, and the names under which it is known.
Main exports: Method, Method.key, methodKey
-/
import TaintFlow.Instruction.Basic
import TaintFlow.Signature

namespace TaintFlow

/-- A method of some class. -/
structure Method where
  className : String
  name : String
  descriptor : String
  isStatic : Bool
  /-- The number of local slots that the code uses. -/
  maxLocals : Nat
deriving Repr, Inhabited, DecidableEq

/-- The key of the method with the given id in a class. -/
def methodKey (className methodId : String) : String :=
  className ++ methodId

namespace Method

/-- The method without its class, `.name(descriptor)`. -/
def id (method : Method) : String :=
  "." ++ method.name ++ method.descriptor

/-- The method with its class, `class.name(descriptor)`. -/
def key (method : Method) : String :=
  methodKey method.className method.id

def signature (method : Method) : Except Fault Signature :=
  Signature.parse method.descriptor

def isConstructor (method : Method) : Bool :=
  method.name = constructorName

def isStaticInitializer (method : Method) : Bool :=
  method.name = staticInitializerName

/-- The words that the receiver takes. -/
def receiverWords (method : Method) : Nat :=
  if method.isStatic then 0 else 1

end Method

end TaintFlow
