/-
Module: TaintFlow.Policy.Declarations
Purpose: A policy that is written down as lists of declarations, and special rules for single calls.
Main exports: Declarations, Declarations.search, Declarations.isSubtype, Declarations.policy, CallRule,
  Policy.withRules
-/
import TaintFlow.Instruction.Kind
import TaintFlow.Policy.Basic

namespace TaintFlow

/-- Declarations about types, fields and classes, the newest first. -/
structure Declarations where
  safeTypes : List String := []
  immutableTypes : List String := []
  fieldStates : List (String × State) := []
  /-- Classes with one of their direct supertypes each. -/
  supertypes : List (String × String) := []
deriving Repr, Inhabited, DecidableEq

namespace Declarations

/-! ### Declaring -/

/-- Values of the type can carry no taint; then nobody can change them either. -/
def addSafeType (declared : Declarations) (type : String) : Declarations :=
  { declared with
    safeTypes := type :: declared.safeTypes
    immutableTypes := type :: declared.immutableTypes }

def addImmutableType (declared : Declarations) (type : String) : Declarations :=
  { declared with immutableTypes := type :: declared.immutableTypes }

/-- Values read from the field have the given state. The newest declaration of a field counts. -/
def addFieldState (declared : Declarations) (field : String) (state : State) : Declarations :=
  { declared with fieldStates := (field, state) :: declared.fieldStates }

/-- The class directly extends or implements the supertype. -/
def addSupertype (declared : Declarations) (className supertype : String) : Declarations :=
  { declared with supertypes := (className, supertype) :: declared.supertypes }

/-! ### Types and fields -/

/-- Primitive values carry no taint. -/
def isSafe (declared : Declarations) (type : String) : Bool :=
  isPrimitive type || type ∈ declared.safeTypes

/-- Primitive values cannot be changed by a callee. -/
def isImmutable (declared : Declarations) (type : String) : Bool :=
  isPrimitive type || type ∈ declared.immutableTypes

def fieldState (declared : Declarations) (field : String) (default : State) : State :=
  (declared.fieldStates.lookup field).getD default

/-! ### Classes -/

/-- The class above all others. -/
def rootClass : String := "java/lang/Object"

/-- The direct supertypes of a class. -/
def directSupertypes (declared : Declarations) (className : String) : List String :=
  (declared.supertypes.filter (·.1 = className)).map (·.2)

/-- The declarations about classes that a search has not seen. -/
def unseen (declared : Declarations) (seen : List String) : List (String × String) :=
  declared.supertypes.filter (·.1 ∉ seen)

/-- When a class is seen for the first time, its supertypes stop being unseen. -/
theorem length_unseen_cons (declared : Declarations) {seen : List String} {current : String}
    (fresh : current ∉ seen) :
    (declared.unseen seen).length =
      (declared.directSupertypes current).length + (declared.unseen (current :: seen)).length := by
  have about : declared.supertypes.filter (·.1 = current) =
      (declared.unseen seen).filter (·.1 = current) := by
    rw [unseen, List.filter_filter]
    apply List.filter_congr
    grind
  have others : declared.unseen (current :: seen) =
      (declared.unseen seen).filter (¬ ·.1 = current) := by
    rw [unseen, unseen, List.filter_filter]
    apply List.filter_congr
    grind
  rw [directSupertypes, List.length_map, about, others, ← List.countP_eq_length_filter,
    ← List.countP_eq_length_filter]
  simpa using List.length_eq_countP_add_countP fun declaration : String × String =>
    decide (declaration.1 = current)

/-- Look for a supertype of a class, going up from the pending classes. These are a stack, which may hold a
class twice: one that has been seen is passed over, and any other makes room for its direct supertypes. The
search ends early where it meets the supertype, or finds that nothing at all has been declared about the
class that it began with. It ends in any case, because each declaration gets onto the stack only once. -/
def search (declared : Declarations) (className supertype : String) (seen : List String) :
    List String → Except MissingType Bool
  | [] => .ok false
  | current :: pending =>
      if _known : current ∈ seen then declared.search className supertype seen pending
      else
        match _listed : declared.directSupertypes current with
        | [] =>
            if current = className then .error ⟨className⟩
            else declared.search className supertype (current :: seen) pending
        | direct =>
            if supertype ∈ direct then .ok true
            else declared.search className supertype (current :: seen) (direct ++ pending)
termination_by pending => (declared.unseen seen).length + pending.length
decreasing_by
  · exact Nat.lt_succ_self _
  · have fewer := declared.length_unseen_cons _known
    grind
  · have fewer := declared.length_unseen_cons _known
    grind

/-- Is the class equal to the supertype, or below it? Something must have been declared about the class
that is asked about, unless no declaration could matter. -/
def isSubtype (declared : Declarations) (className supertype : String) :
    Except MissingType Bool :=
  if className = supertype ∨ supertype = rootClass then .ok true
  else declared.search className supertype [] [className]

/-- The class hierarchy that the declarations describe. -/
def hierarchy (declared : Declarations) : Hierarchy where
  isSubtype := declared.isSubtype
  noticesOnce := true

/-- The policy that the declarations describe. -/
def policy (declared : Declarations) : Policy where
  hierarchy := declared.hierarchy
  isSafe := declared.isSafe
  isImmutable := declared.isImmutable
  fieldState := declared.fieldState

end Declarations

/-! ### Rules for single calls -/

/-- A summary for calls of one method, perhaps only from one caller or with a top of the stack in one
state. -/
structure CallRule where
  className : String
  methodId : String
  caller : Option String := none
  topState : Option State := none
  summary : Summary

/-- Is the rule about this call? -/
def CallRule.applies (rule : CallRule) (frame : Frame) (caller className methodId : String) : Bool :=
  rule.className = className && rule.methodId = methodId
    && rule.caller.all (· = caller)
    && rule.topState.all fun state => frame.stack.head?.any (·.state = state)

/-- A summary for one method in some supertype of one class. -/
structure InheritanceRule where
  className : String
  methodId : String
  summary : Summary

/-- A policy in which single calls have rules of their own; the first rule that applies counts. -/
def Policy.withRules (policy : Policy) (calls : List CallRule) (inherited : List InheritanceRule) :
    Policy :=
  { policy with
    specialCall? := fun frame caller className methodId =>
      (calls.find? (·.applies frame caller className methodId)).map CallRule.summary
    inheritedCall? := fun className methodId =>
      (inherited.find? fun rule => rule.className = className && rule.methodId = methodId).map
        InheritanceRule.summary }

end TaintFlow
