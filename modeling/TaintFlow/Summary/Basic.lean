/-
Module: TaintFlow.Summary.Basic
Purpose: What a call does, told without looking into the callee: the fact about its result, and the
  arguments that it writes to.
Main exports: Summary, Summary.derived, Summary.ofConstructor, Summary.isInformative
-/
import TaintFlow.Taint.Join

namespace TaintFlow

/-- The effect of calling a method on facts. -/
structure Summary where
  /-- The template of the result, if something is known about it. -/
  output : Option Taint := none
  /-- Stack indices, counted from the top at the call, of the arguments that take on the fact about the
  result. -/
  mutated : Std.ExtTreeSet Nat := ∅
  /-- Was the summary written by a human, and not derived from code? -/
  configured : Bool
deriving DecidableEq

namespace Summary

/-- A summary that a human wrote. -/
def ofConfigured (output : Taint) : Summary :=
  { output := some output, configured := true }

/-- A summary that was derived from the code of the method. -/
def derived (output : Taint) : Summary :=
  { output := some output, configured := false }

/-- The summary of a method whose result can carry no taint. -/
def safe : Summary := derived .safe

/-- The summary of a constructor of which nothing is known: the object, and every argument, may then
hold whatever any of the given number of consumed words held. -/
def ofConstructor (words : Nat) : Summary :=
  { output := some (.parametric (List.range words))
    mutated := .ofList (List.range words)
    configured := false }

def addMutated (summary : Summary) (index : Nat) : Summary :=
  { summary with mutated := summary.mutated.insert index }

/-- Does the summary say more than that the result is unknown? -/
def isInformative (summary : Summary) : Bool :=
  !summary.mutated.isEmpty ||
    match summary.output with
    | none => false
    | some output =>
        output.state ≠ .unknown || output.isParametric || output.runtimeClass.isSome ||
          !output.tags.isEmpty || !output.strippedTags.isEmpty

/-- The class that the result is known to be an instance of. -/
def resultClass (summary : Summary) : Option String :=
  summary.output.bind Taint.runtimeClass

/-- Two templates say the same, or neither is there. -/
def OutputEquiv : Option Taint → Option Taint → Prop
  | none, none => True
  | some one, some two => one ≈ two
  | _, _ => False

instance : (one two : Option Taint) → Decidable (OutputEquiv one two)
  | none, none => isTrue trivial
  | some one, some two => inferInstanceAs (Decidable (one ≈ two))
  | none, some _ => isFalse id
  | some _, none => isFalse id

/-- Two summaries say the same. -/
structure Equiv (one two : Summary) : Prop where
  output : OutputEquiv one.output two.output
  mutated : one.mutated = two.mutated
  configured : one.configured = two.configured

instance : HasEquiv Summary := ⟨Equiv⟩

instance (one two : Summary) : Decidable (one ≈ two) :=
  decidable_of_iff
    (OutputEquiv one.output two.output ∧ one.mutated = two.mutated ∧
      one.configured = two.configured)
    ⟨fun ⟨output, mutated, configured⟩ => ⟨output, mutated, configured⟩,
      fun same => ⟨same.output, same.mutated, same.configured⟩⟩

end Summary

end TaintFlow
