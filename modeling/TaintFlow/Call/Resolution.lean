/-
Module: TaintFlow.Call.Resolution
Purpose: Choose the summary that describes a call, from what is configured, derived, inherited or
  assumed about the callee.
Main exports: Site.resolve
-/
import TaintFlow.Site
import TaintFlow.Summary.Access

namespace TaintFlow

/-- The class of texts. -/
def stringClass : String := "java/lang/String"

/-- The tags that replacing occurrences of a literal earns. A plain replacement earns a tag if the
literal is the character of the tag, a replacement of patterns if it contains it. -/
def earnedTags (pattern : Bool) (literal : String) : List Tag :=
  Tag.all.filter fun tag =>
    if pattern then tag.character ∈ literal.toList else literal.toList = [tag.character]

namespace Summary

/-- Add tags to the template of the result. -/
def addTags (summary : Summary) (tags : List Tag) : Summary :=
  { summary with output := summary.output.map (tags.foldl Taint.addTag) }

/-- Account for a replacement of characters in a text: if the text to be replaced, which lies below
its replacement on the stack, is a known literal, the result earns tags. -/
def creditReplacement (summary : Summary) (frame : Frame) (className methodName : String) :
    Except Fault Summary :=
  if className = stringClass ∧ (methodName = "replace" ∨ methodName = "replaceAll") then do
    let replaced ← frame.peek 1
    match replaced.literal with
    | some literal => return summary.addTags (earnedTags (methodName = "replaceAll") literal)
    | none => return summary
  else .ok summary

end Summary

/-- The class that the receiver is known to be an instance of, or else the one that the call names. -/
def Call.calleeClass (call : Call) (signature : Signature) (frame : Frame) : Except Fault String :=
  if call.isStatic then .ok (slashed call.owner)
  else do
    let receiver ← frame.peek signature.parameterWords
    return receiver.runtimeClass.getD (slashed call.owner)

/-- Complete what is on record about a callee by what the types alone say. What was configured, or
derived and informative, counts as it is; a result of a safe type is safe; an object is made from the
arguments of its constructor. -/
def Policy.completed (policy : Policy) (call : Call) (signature : Signature) (className : String) :
    Option Summary → Option Summary
  | some summary =>
      if summary.configured || summary.isInformative then some summary
      else if policy.isSafe signature.returnType then some .safe
      else some summary
  | none =>
      if policy.isSafe signature.returnType then some .safe
      else if call.isConstructor && !policy.isSafe (classDescriptor className) then
        some (.ofConstructor (signature.parameterWords + call.receiverWords))
      else none

namespace Site

/-- What is on record about the callee: a rule for this call, a summary for the class of the receiver,
one for the class that the call names, or one for a supertype, in this order. -/
def recorded {ε : Type} (site : Site) (frame : Frame) (call : Call) (className : String) :
    Traced ε (Option Summary) :=
  let policy := site.context.policy
  let summaries := site.context.summaries
  let methodId := call.methodId
  match policy.specialCall? frame site.method.key className methodId with
  | some summary => pure (some summary)
  | none =>
  match summaries.lookup? className methodId with
  | some summary => pure (some summary)
  | none =>
  match summaries.lookup? (slashed call.owner) methodId with
  | some summary => pure (some summary)
  | none =>
  match policy.inheritedCall? className methodId with
  | some summary => pure (some summary)
  | none => summaries.inherited? site.context.arrangement policy.hierarchy className methodId

/-- Apart from the notices, the first record that there is counts. -/
theorem result_recorded {ε : Type} (site : Site) (frame : Frame) (call : Call)
    (className : String) :
    (site.recorded frame call className : Traced ε (Option Summary)).result =
      .ok ((((site.context.policy.specialCall? frame site.method.key className call.methodId).or
        (site.context.summaries.lookup? className call.methodId)).or
        (site.context.summaries.lookup? (slashed call.owner) call.methodId)).or
        (site.context.policy.inheritedCall? className call.methodId) |>.or
        (((site.context.summaries.candidates site.context.arrangement className
          call.methodId).find? fun (owner, _) =>
            site.context.policy.hierarchy.isBelow className owner).map Prod.snd)) := by
  unfold recorded
  dsimp only
  split
  next summary found => simp [found]
  next noRule =>
    split
    next summary found => simp [noRule, found]
    next noneThere =>
      split
      next summary found => simp [noRule, noneThere, found]
      next noneNamed =>
        split
        next summary found => simp [noRule, noneThere, noneNamed, found]
        next noneInherited => simp [noRule, noneThere, noneNamed, noneInherited]

/-- The summary that describes a call seen with the frame right before it, if anything is known. -/
def resolve (site : Site) (frame : Frame) (call : Call) (signature : Signature) :
    Traced Fault (Option Summary) := do
  let className ← call.calleeClass signature frame
  let found ← site.recorded frame call className
  let credited ← Traced.silently
    (found.mapM fun summary => summary.creditReplacement frame className call.name)
  let summary := site.context.policy.completed call signature className credited
  Traced.giveIf summary.isNone (.noSummary className call.methodId site.method.key)
  return summary

end Site

end TaintFlow
