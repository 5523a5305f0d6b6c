/-
Module: TaintFlow.Trace.Event
Purpose: Moments of an analysis that observers are told about, and what an observer can answer.
Main exports: Event, Observer, Response
-/
import TaintFlow.Frame.Basic
import TaintFlow.Instruction.Basic

namespace TaintFlow

/-- A moment of the analysis of a method, which is given by its key. Frames are those after the
instruction. -/
inductive Event where
  /-- A field was read or written; the fact is the one about the value. -/
  | field (method : String) (offset : Offset) (field : FieldName) (frame : Frame) (taint : Taint)
  /-- The words of a local were loaded. -/
  | load (method : String) (offset : Offset) (frame : Frame) (words : Nat)
  /-- A call returned; the consumed words are listed from the top. -/
  | invoke (method : String) (offset : Offset) (call : Call) (frame : Frame)
      (arguments : List Taint)
  /-- A value was returned. -/
  | return (method : String) (offset : Offset) (taint : Taint)
  /-- The analysis came to its end; the fact is the one about everything that was returned. -/
  | complete (method : String) (output : Option Taint)

/-- The kinds of moments. -/
inductive EventKind where
  | field
  | load
  | invoke
  | return
  | complete
deriving Repr, Inhabited, DecidableEq

def Event.kind : Event → EventKind
  | field .. => .field
  | load .. => .load
  | invoke .. => .invoke
  | .return .. => .return
  | complete .. => .complete

def EventKind.name : EventKind → String
  | field => "field"
  | load => "load"
  | invoke => "invoke"
  | .return => "return"
  | complete => "complete"

/-- What an observer answers. -/
inductive Response where
  /-- The observer does not listen to such events. -/
  | ignored
  | accepted
  | refused (reason : String)
  /-- The observer broke down. -/
  | crashed
deriving Repr, Inhabited, DecidableEq

/-- Somebody who looks on. Nothing that an observer answers changes the analysis. -/
structure Observer where
  name : String
  respond : Event → Response

/-- An observer that does not listen to anything. -/
def Observer.silent (name : String) : Observer :=
  ⟨name, fun _ => .ignored⟩

/-- An observer that crashes at some kinds of events, refuses some others and accepts the rest. -/
def Observer.scripted (name : String) (refused crashed : List EventKind) : Observer :=
  ⟨name, fun event =>
    if event.kind ∈ crashed then .crashed
    else if event.kind ∈ refused then .refused (event.kind.name ++ " refused")
    else .accepted⟩

end TaintFlow
