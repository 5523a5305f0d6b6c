/-
Module: TaintFlow.Policy.Basic
Purpose: What the analysis asks about the world around the code: which types matter, what fields hold,
  how classes are related, and whether a call is a special case.
Main exports: Hierarchy, Hierarchy.isSubtypeOfAny, Policy
-/
import TaintFlow.Summary.Basic
import TaintFlow.Trace.Traced

namespace TaintFlow

/-- The one question about classes that the analysis asks. -/
structure Hierarchy where
  /-- Is the class equal to the supertype, or below it? Both are class names in internal form. -/
  isSubtype : String → String → Except MissingType Bool
  /-- Is a class of which nothing is known worth one notice only? -/
  noticesOnce : Bool := false

/-- Is the class known to be equal to the supertype, or below it? -/
def Hierarchy.isBelow (hierarchy : Hierarchy) (className supertype : String) : Bool :=
  match hierarchy.isSubtype className supertype with
  | .ok answer => answer
  | .error _ => false

theorem Hierarchy.isBelow_iff {hierarchy : Hierarchy} {className supertype : String} :
    hierarchy.isBelow className supertype ↔ hierarchy.isSubtype className supertype = .ok true := by
  unfold Hierarchy.isBelow
  split <;> simp_all

/-- Is the class below any of the given types? A class of which nothing is known is not, which is worth
a notice. -/
def Hierarchy.isSubtypeOfAny {ε : Type} (hierarchy : Hierarchy) (className : String) :
    List String → Traced ε Bool
  | [] => pure false
  | supertype :: others =>
      match hierarchy.isSubtype className supertype with
      | .ok true => pure true
      | .ok false => hierarchy.isSubtypeOfAny className others
      | .error missing => do
          Traced.give (.missingType hierarchy.noticesOnce missing className supertype)
          hierarchy.isSubtypeOfAny className others

@[simp] theorem Hierarchy.result_isSubtypeOfAny {ε : Type} (hierarchy : Hierarchy)
    (className : String) (supertypes : List String) :
    (hierarchy.isSubtypeOfAny className supertypes : Traced ε Bool).result =
      .ok (supertypes.any (hierarchy.isBelow className)) := by
  induction supertypes with
  | nil => rfl
  | cons supertype others inductionHypothesis =>
      unfold Hierarchy.isSubtypeOfAny
      split <;> rename_i answered <;>
        simp [inductionHypothesis, Hierarchy.isBelow, answered, bind]

/-- What the analysis asks about types, fields and calls. Types are given as type descriptors, classes
by their names in internal form. -/
structure Policy where
  hierarchy : Hierarchy
  /-- Values of this type can carry no taint. -/
  isSafe : String → Bool
  /-- Nobody can change an instance of this type. -/
  isImmutable : String → Bool
  /-- The state of a field, given by its signature, or else the given one. -/
  fieldState : String → State → State
  /-- The summary of a call that is a special case, from the frame before the call, the key of the
  caller, the class of the callee and its method id. It wins over every stored summary. -/
  specialCall? : Frame → String → String → String → Option Summary := fun _ _ _ _ => none
  /-- A summary declared for the method with the given id in some supertype of the class. -/
  inheritedCall? : String → String → Option Summary := fun _ _ => none

end TaintFlow
