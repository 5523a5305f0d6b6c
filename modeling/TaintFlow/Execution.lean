/-
Module: TaintFlow.Execution
Purpose: Let instructions act on a frame in place. An instruction may have popped words or written to
  arguments when it fails, and these changes stay.
Main exports: InPlace.invoke, InPlace.act, Site.perform, Site.step
-/
import TaintFlow.Frame.InPlace
import TaintFlow.Step

namespace TaintFlow

namespace InPlace

variable (site : Site)

/-- Tell the observers about an event, which may depend on the frame. -/
def notify (event : Frame → Event) : InPlace Unit :=
  look fun frame => site.context.notify (event frame)

/-! ### Calls -/

/-- Replace the fact about a word and, if the word is bound to a local, first about that local. -/
def overwrite (index : Nat) (taint : Taint) : InPlace Unit := do
  change fun frame => site.writeThrough frame taint
  poke index taint

/-- The callee may have stored anything in the argument at a stack index. -/
def exposeArgument (index : Nat) : InPlace Unit := do
  let argument ← peek index
  overwrite site index
    (((argument.join .unknown).identifiedAs argument).addLocation site.location)

/-- Unless a human has said what the callee does, it may store anything in its exposed arguments. -/
def assumeWrites (summary : Option Summary) (signature : Signature) : InPlace Unit :=
  if summary.any Summary.configured then pure ()
  else forM (site.context.policy.exposed signature) (exposeArgument site)

/-- Give the word at a stack index the fact about the result, if there is such a word. -/
def writeArgument (result : Taint) (index : Nat) : InPlace Unit := do
  let depth ← look fun frame => pure frame.depth
  if index < depth then
    let argument ← peek index
    overwrite site index (result.identifiedAs argument)
  else
    let expected := site.method.isConstructor || site.method.isStaticInitializer
    look fun _ => Traced.give (.noArgument expected site.method.key index depth)

/-- Give every word that the summary lists as mutated the fact about the result. -/
def writeMutated (summary : Option Summary) (result : Taint) : InPlace Unit :=
  match summary with
  | some summary => forM summary.mutated.toList (writeArgument site result)
  | none => pure ()

/-- After a constructor call, let a second reference right below the consumed words refer to the object
as it is now. -/
def refreshDuplicate (consumed : Nat) (receiver : Option Taint) : InPlace Unit := do
  let below ← look fun frame => pure frame.stack[consumed]?
  match receiver, below with
  | some receiver, some duplicate =>
      if duplicate.SameObject receiver then
        let initialized ← peek (consumed - 1)
        poke consumed initialized
  | _, _ => pure ()

/-- Let a call act as its summary says. -/
def applySummary (call : Call) (signature : Signature) (receiver : Option Taint)
    (summary : Option Summary) : InPlace Unit := do
  let consumed := signature.parameterWords + call.receiverWords
  let unsigned ← look fun frame => Traced.silently (site.resultTaint frame summary)
  let result := site.signed call unsigned
  assumeWrites site summary signature
  writeMutated site summary result
  let object ← look fun frame =>
    Traced.silently (call.returnedObject signature summary frame result)
  let words ← look fun frame => pure (frame.stack.take consumed)
  refreshDuplicate consumed receiver
  let _ ← popMany consumed
  pushWords object signature.returnWords
  notify site fun after => .invoke site.method.key site.offset call after words

/-- Let a call act. -/
def invoke (call : Call) : InPlace Unit := do
  look fun frame => Traced.giveIf site.context.options.printInvocations
    (.invoking site.method.key site.offset call frame)
  let signature ← look fun _ => Traced.silently (Signature.parse call.descriptor)
  let receiver ← look fun frame => Traced.silently (call.constructed signature frame)
  let summary ← look fun frame => site.resolve frame call signature
  applySummary site call signature receiver summary

/-! ### Other instructions -/

/-- Read a field. -/
def getField (field : FieldName) (isStatic : Bool) : InPlace Unit := do
  let taint := site.fieldTaint field
  let _ ← popMany (if isStatic then 0 else 1)
  pushWords taint field.kind.words
  notify site fun after => .field site.method.key site.offset field after taint

/-- Write a field. -/
def putField (field : FieldName) (isStatic : Bool) : InPlace Unit := do
  let taint ← peek 0
  let _ ← popMany (field.kind.words + if isStatic then 0 else 1)
  notify site fun rest => .field site.method.key site.offset field rest taint

/-- Load a local. -/
def load (index words : Nat) : InPlace Unit := do
  loadWords index (Frame.rangeWords index words)
  notify site fun after => .load site.method.key site.offset after words

/-- Replace the sizes of an array by the new array. -/
def newArray (dimensions : Nat) : InPlace Unit := do
  let _ ← popMany dimensions
  push site.arrayTaint

/-- Store a value in an array. -/
def arrayStore (kind : Kind) : InPlace Unit := do
  let words ← popMany kind.words
  let _ ← pop
  let array ← pop
  let merged := array.holding words
  change fun frame => site.writeThrough frame merged
  let top ← look fun frame => pure frame.stack.head?
  match top with
  | some top => if top.SameObject array then poke 0 merged
  | none => pure ()

/-- Cast a value. -/
def checkCast (className : String) : InPlace Unit :=
  if site.context.policy.isSafe (classDescriptor className) then do
    let _ ← pop
    push (site.castTaint className)
  else pure ()

/-- Return a value. -/
def giveBack (kind : Kind) : InPlace Taint := do
  let taint ← peek 0
  let _ ← popMany kind.words
  notify site fun _ => .return site.method.key site.offset taint
  return taint

/-- Work that returns nothing from the method. -/
def silent (work : InPlace Unit) : InPlace (Option Taint) := do
  work
  return none

/-- Let an instruction act. What comes out of it is the fact about the value that it returns from the
method. -/
def act : Instruction → InPlace (Option Taint)
  | .constant literal => silent (change fun frame => pure (site.constant literal frame))
  | .getField field isStatic => silent (getField site field isStatic)
  | .putField field isStatic => silent (putField site field isStatic)
  | .load index kind => silent (load site index kind.words)
  | .store index kind => silent (storeWords index kind.words)
  | .new className => silent (change fun frame => pure (site.new className frame))
  | .newArray dimensions => silent (newArray site dimensions)
  | .arrayStore kind => silent (arrayStore site kind)
  | .arrayLoad kind => silent (arrayLoad kind.words)
  | .checkCast className => silent (checkCast site className)
  | .return none => return none
  | .return (some kind) => do
      let taint ← giveBack site kind
      return some taint
  | .invoke call => silent (invoke site call)
  | .concat operands => silent (concatTop operands)
  | .stack moves => silent (shuffle moves)
  | .other consumed produced => silent (replaceTop consumed produced)

end InPlace

namespace Site

/-- Let an instruction act on a frame in place, announcing it if that is wanted. -/
def perform (site : Site) (instruction : Instruction) : InPlace (Option Taint) := do
  InPlace.look fun _ => Traced.giveIf site.context.options.printInstructions
    (.processing site.method.key site.offset instruction)
  InPlace.act site instruction

/-- What an instruction makes of the frame right before it, where it succeeds. -/
def step (site : Site) (instruction : Instruction) (frame : Frame) : Traced Fault Step :=
  (fun (returned, after) => ⟨after, returned⟩) <$> (site.perform instruction).outcome frame

end Site

end TaintFlow
