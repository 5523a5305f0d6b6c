/-
Module: TaintFlow.Trace.Notice
Purpose: Everything an analysis has to say while it runs, as values. A notice is told apart from its
  wording, which is fixed here once. What an analysis puts into the table of summaries it also says, so that
  the notices of an analysis tell what it leaves there, whether it succeeds or not.
Main exports: Notice, Notice.line?, Notice.write?, Notice.settle
-/
import Std.Data.ExtTreeSet
import TaintFlow.Failure
import TaintFlow.Summary.Basic
import TaintFlow.Trace.Event

namespace TaintFlow

/-- How much a line of the log matters. -/
inductive Level where
  | debug
  | warning
  | error
deriving Repr, Inhabited, DecidableEq

def Level.name : Level → String
  | debug => "DEBUG"
  | warning => "WARN"
  | error => "ERROR"

/-- Something that an analysis reports while it runs. Methods are given by their keys. -/
inductive Notice where
  /-- An instruction is about to act on a frame. -/
  | processing (method : String) (offset : Offset) (instruction : Instruction)
  /-- A call is about to act on a frame. -/
  | invoking (method : String) (offset : Offset) (call : Call) (frame : Frame)
  /-- Nothing is known about a callee. -/
  | noSummary (className methodId caller : String)
  /-- A summary says that a word is written to that is not on the stack. Some callers have to live
  with that, and for them it is `expected`. -/
  | noArgument (expected : Bool) (method : String) (index depth : Nat)
  /-- A value is bound to a local that the frame does not have. -/
  | noLocal (method : String) (slot count : Nat)
  | entryFrame (method : String) (frame : Frame)
  | queued (offset : Offset)
  | taken (offset : Offset)
  | analyzed (method : String) (locations : Nat)
  /-- A derived summary says nothing and is dropped. -/
  | uninformative (method : String)
  /-- A summary that a human wrote is put into the table. -/
  | configured (key : String) (summary : Summary)
  /-- A derived summary is put into the table. -/
  | committed (key : String) (summary : Summary)
  /-- Nothing is known about the supertypes of a class, which is therefore taken not to be a subtype.
  The notice may be meant for once per missing class. -/
  | missingType (once : Bool) (missing : MissingType) (className supertype : String)
  /-- An observer was told about an event. -/
  | observed (observer : String) (event : Event)
  | observerRefused (observer reason : String)
  | observerCrashed (observer : String)
  | skippedClass (check className : String)
  | methodFailed (method : String) (failure : Failure)

namespace Notice

/-- The log line of a notice, with its level. Observers log for themselves, so what they were told is
not part of the log. -/
def line? : Notice → Option (Level × String)
  | processing method offset instruction =>
      let shown := instruction.text
      some (.debug, s!"{method} @{offset}: {shown}")
  | invoking method offset call frame =>
      let callee := call.signature
      let shown := frame.text
      some (.debug, s!"{method} @{offset}: invoking {callee} with {shown}")
  | noSummary className methodId caller =>
      some (.debug, s!"No config for {className}{methodId} called from {caller}")
  | noArgument expected method index depth =>
      some (if expected then .debug else .warning,
        s!"{method}: mutable stack index {index} is out of range (stack depth {depth})")
  | noLocal method slot count =>
      some (.warning,
        s!"{method}: value bound to local {slot}, but the frame only has {count} local(s)")
  | entryFrame method frame =>
      let shown := frame.text
      some (.debug, s!"Entry frame of {method}: {shown}")
  | queued offset => some (.debug, s!"Adding {offset} to worklist")
  | taken offset => some (.debug, s!"Popped {offset} from worklist")
  | analyzed method locations =>
      some (.debug, s!"Analyzed {method} ({locations} reachable locations)")
  | uninformative method =>
      some (.debug, s!"Not committing uninformative summary of {method}")
  | configured key _ => some (.debug, "Storing configured summary for " ++ Text.quoted key)
  | committed key _ => some (.debug, "Committing derived summary for " ++ Text.quoted key)
  | missingType _ missing className supertype =>
      some (.warning, missing.message ++ "; assuming " ++ Text.quoted className
        ++ " is not a subtype of " ++ Text.quoted supertype)
  | observed _ _ => none
  | observerRefused observer reason =>
      some (.error, s!"Error while executing observer {observer}: {reason}")
  | observerCrashed observer => some (.error, s!"Observer {observer} panicked")
  | skippedClass check className => some (.debug, s!"{check} skips class {className}")
  | methodFailed method failure =>
      let reason := failure.message
      some (.warning, s!"Analysis of {method} failed: {reason}")

/-- What is put into the table of summaries, and under which key. -/
def write? : Notice → Option (String × Summary)
  | configured key summary | committed key summary => some (key, summary)
  | _ => none

/-- Drop the notices about missing classes that are meant for once and have been given before. The set
holds the classes that such notices have been given for. -/
def settle (reported : Std.ExtTreeSet String) :
    List Notice → List Notice × Std.ExtTreeSet String
  | [] => ([], reported)
  | .missingType true missing className supertype :: later =>
      if missing.className ∈ reported then settle reported later
      else
        let (kept, after) := settle (reported.insert missing.className) later
        (.missingType true missing className supertype :: kept, after)
  | notice :: later =>
      let (kept, after) := settle reported later
      (notice :: kept, after)

end Notice

end TaintFlow
