/-
Module: TaintFlow.Call.Effect
Purpose: Let a call act on a frame, given the summary that describes it.
Main exports: Taint.instantiate, Policy.exposed, Site.applySummary, Site.invoke
-/
import TaintFlow.Call.Resolution

namespace TaintFlow

/-! ### Parts of a call -/

/-- Combine the facts about the words at the given stack indices. -/
def Frame.gather (frame : Frame) (indices : List Nat) : Except Fault (Option Taint) :=
  indices.foldlM (fun gathered index => do
    let word ← frame.peek index
    return Taint.combine gathered (some word)) none

/-- The fact that a template stands for before its tags are accounted for. An unknown value into which
arguments flow is as dangerous as these arguments and as the template is without them. -/
def Taint.resolved (template : Taint) (frame : Frame) : Except Fault Taint :=
  if template.state = .unknown ∧ template.isParametric then do
    let base := Taint.of template.baseState
    match ← frame.gather template.parameters.toList with
    | some arguments => return base.join arguments
    | none => return base
  else .ok template

/-- The fact about the result of a call at a location, from the template of its summary and the frame
right before the call. -/
def Taint.instantiate (template : Taint) (location : Location) (frame : Frame) :
    Except Fault Taint := do
  let taint ← template.resolved frame
  let located := if taint.state = .tainted then taint.addLocation location else taint
  let tags := if taint.state = .safe then taint.tags else taint.tags ∪ template.tags
  return { located with tags := tags \ template.strippedTags }

/-- A fact that takes the place of another one about the same object keeps what identifies that
object. -/
def Taint.identifiedAs (taint object : Taint) : Taint :=
  { taint with
    slot := object.slot
    runtimeClass := object.runtimeClass
    allocation := object.allocation }

/-- What identifies the object that a call returns. A call that writes to its receiver is taken to
return that receiver. -/
def Call.returnedObject (call : Call) (signature : Signature) (summary : Option Summary)
    (frame : Frame) (result : Taint) : Except Fault Taint := do
  let plain :=
    { result with
      runtimeClass := summary.bind Summary.resultClass
      slot := none
      allocation := none }
  let receiverIndex := signature.parameterWords
  if !call.isStatic && summary.any (receiverIndex ∈ ·.mutated) then
    let receiver ← frame.peek receiverIndex
    return { plain with slot := receiver.slot, allocation := receiver.allocation }
  else
    return plain

/-- The fact about the object that a constructor is called on, before it runs. -/
def Call.constructed (call : Call) (signature : Signature) (frame : Frame) :
    Except Fault (Option Taint) :=
  if call.isConstructor && !call.isStatic then some <$> frame.peek signature.parameterWords
  else .ok none

/-- After a constructor call, a second reference to the object that lies right below the consumed words
refers to the object as it is now; `receiver` is the fact about it before the call. -/
def Frame.refreshDuplicate (frame : Frame) (consumed : Nat) (receiver : Option Taint) :
    Except Fault Frame :=
  match receiver, frame.stack[consumed]? with
  | some receiver, some duplicate =>
      if duplicate.SameObject receiver then do
        let initialized ← frame.peek (consumed - 1)
        frame.poke consumed initialized
      else .ok frame
  | _, _ => .ok frame

/-- The stack indices of the arguments that a callee can write to: references to objects that can
change and can carry taint. -/
def Policy.exposed (policy : Policy) (signature : Signature) : List Nat :=
  (signature.stackIndices.filter fun (_, type) =>
    isReference type && !policy.isImmutable type && !policy.isSafe type).map (·.1)

namespace Site

/-- The fact about the result of a call that the given summary describes. -/
def resultTaint (site : Site) (frame : Frame) (summary : Option Summary) : Except Fault Taint :=
  match summary.bind Summary.output with
  | some template => template.instantiate site.location frame
  | none => .ok .unknown

/-- Note on the result of a call where it came from. -/
def signed (site : Site) (call : Call) (result : Taint) : Taint :=
  let remarked := site.remark (fun _ => call.name ++ "()") result
  let sourced := remarked.addSource ⟨.returned, remarked.state, some call.signature⟩
  if sourced.state = .unknown then sourced.addLocation site.location else sourced

/-! ### What a call writes to -/

/-- Replace the fact about a word and, if the word is bound to a local, about that local. -/
def overwrite (site : Site) (frame : Frame) (index : Nat) (taint : Taint) : Traced Fault Frame := do
  let written ← site.writeThrough frame taint
  written.poke index taint

/-- The callee may have stored anything in the argument at a stack index. -/
def exposeArgument (site : Site) (frame : Frame) (index : Nat) : Traced Fault Frame := do
  let argument ← frame.peek index
  let taint := ((argument.join .unknown).identifiedAs argument).addLocation site.location
  site.overwrite frame index taint

/-- Unless a human has said what the callee does, it may store anything in its exposed arguments. -/
def assumeWrites (site : Site) (summary : Option Summary) (signature : Signature)
    (frame : Frame) : Traced Fault Frame :=
  if summary.any Summary.configured then pure frame
  else (site.context.policy.exposed signature).foldlM site.exposeArgument frame

/-- Give the word at a stack index the fact about the result. Summaries are written for callers that
may hold more on the stack, which constructors and static initialisers are used to. -/
def writeArgument (site : Site) (result : Taint) (frame : Frame) (index : Nat) :
    Traced Fault Frame :=
  if index < frame.depth then do
    let argument ← frame.peek index
    site.overwrite frame index (result.identifiedAs argument)
  else do
    let expected := site.method.isConstructor || site.method.isStaticInitializer
    Traced.give (.noArgument expected site.method.key index frame.depth)
    return frame

/-- Give every word that the summary lists as mutated the fact about the result. -/
def writeMutated (site : Site) (summary : Option Summary) (result : Taint) (frame : Frame) :
    Traced Fault Frame :=
  match summary with
  | some summary => summary.mutated.toList.foldlM (site.writeArgument result) frame
  | none => pure frame

/-! ### The call as a whole -/

/-- Let a call act on a frame as its summary says; `receiver` is the fact about the object before a
constructor ran on it. -/
def applySummary (site : Site) (call : Call) (signature : Signature) (receiver : Option Taint)
    (summary : Option Summary) (frame : Frame) : Traced Fault Frame := do
  let consumed := signature.parameterWords + call.receiverWords
  let unsigned ← site.resultTaint frame summary
  let result := site.signed call unsigned
  let assumed ← site.assumeWrites summary signature frame
  let written ← site.writeMutated summary result assumed
  let object ← call.returnedObject signature summary written result
  let refreshed ← written.refreshDuplicate consumed receiver
  let (_, rest) ← refreshed.popMany consumed
  let after := rest.pushWords object signature.returnWords
  site.context.notify
    (.invoke site.method.key site.offset call after (written.stack.take consumed))
  return after

/-- Let a call act on a frame. -/
def invoke (site : Site) (call : Call) (frame : Frame) : Traced Fault Frame := do
  Traced.giveIf site.context.options.printInvocations
    (.invoking site.method.key site.offset call frame)
  let signature ← Signature.parse call.descriptor
  let receiver ← call.constructed signature frame
  let summary ← site.resolve frame call signature
  site.applySummary call signature receiver summary frame

end Site

end TaintFlow
