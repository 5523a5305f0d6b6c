/-
Module: TaintFlow.Program.Code
Purpose: Methods with their bodies, and classes with their methods.
Main exports: MethodCode, ClassCode
-/
import TaintFlow.Program.Body
import TaintFlow.Program.Method

namespace TaintFlow

/-- A method with its body. -/
structure MethodCode where
  method : Method
  body : Body
deriving DecidableEq

/-- A class with its methods, in the order in which they are to be analysed. Methods that come first
are known to those that call them later. -/
structure ClassCode where
  name : String
  methods : List MethodCode
deriving DecidableEq

end TaintFlow
