/-
Module: TaintFlow.Site
Purpose: Everything that the analysis of a method depends on besides the method, and the place in it
  at which an instruction acts.
Main exports: Options, Context, Site, Context.notify, Site.writeThrough
-/
import TaintFlow.Policy.Basic
import TaintFlow.Program.Body
import TaintFlow.Program.Method
import TaintFlow.Summary.Table

namespace TaintFlow

/-- Settings of an analysis. -/
structure Options where
  /-- Give a notice for every instruction. -/
  printInstructions : Bool := false
  /-- Give a notice for every call. -/
  printInvocations : Bool := false
  /-- Attach a remark to each fact that is made. -/
  remarks : Bool := false
  /-- How often one location may be visited before the method is given up. -/
  maxVisits : Nat := 1000
deriving Repr, Inhabited, DecidableEq

/-- What the analysis of a method depends on besides the method. -/
structure Context where
  policy : Policy
  summaries : SummaryTable := {}
  /-- The order in which the summaries are gone through. -/
  arrangement : Arrangement := .byKey
  options : Options := {}
  observers : List Observer := []

/-- The place at which an instruction acts. -/
structure Site where
  context : Context
  method : Method
  offset : Offset

/-- What is noticed when observers are told about an event. Each of them is told, whatever the others
answer. -/
def eventNotices (observers : List Observer) (event : Event) : List Notice :=
  observers.flatMap fun observer =>
    match observer.respond event with
    | .ignored => []
    | .accepted => [.observed observer.name event]
    | .refused reason =>
        [.observed observer.name event, .observerRefused observer.name reason]
    | .crashed => [.observed observer.name event, .observerCrashed observer.name]

/-- Tell the observers about an event. -/
def Context.notify {ε : Type} (context : Context) (event : Event) : Traced ε Unit :=
  Traced.giveAll (eventNotices context.observers event)

@[simp] theorem Context.result_notify {ε : Type} (context : Context) (event : Event) :
    (context.notify event : Traced ε Unit).result = .ok () := rfl

namespace Site

/-- The location under which facts that stop being safe here are noted. -/
def location (site : Site) : Location :=
  ⟨site.method.key, site.offset⟩

/-- Attach a remark to a fact, if remarks are wanted. -/
def remark (site : Site) (words : Unit → String) (taint : Taint) : Taint :=
  if site.context.options.remarks then { taint with note := some (words ()) } else taint

end Site

/-! ### Writing through to locals -/

/-- If a fact is bound to a local of the frame, that local now carries the fact. -/
def Frame.writeThrough (frame : Frame) (taint : Taint) : Frame :=
  match taint.slot with
  | some slot => { frame with locals := frame.locals.set slot taint }
  | none => frame

/-- Write a fact through to its local. A local that the frame does not have is worth a notice. -/
def Site.writeThrough {ε : Type} (site : Site) (frame : Frame) (taint : Taint) :
    Traced ε Frame := do
  match taint.slot with
  | some slot =>
      Traced.giveIf (frame.locals.length ≤ slot)
        (.noLocal site.method.key slot frame.locals.length)
  | none => pure ()
  return frame.writeThrough taint

@[simp] theorem Site.result_writeThrough {ε : Type} (site : Site) (frame : Frame)
    (taint : Taint) :
    (site.writeThrough frame taint : Traced ε Frame).result = .ok (frame.writeThrough taint) := by
  unfold Site.writeThrough
  cases taint.slot <;> rfl

end TaintFlow
