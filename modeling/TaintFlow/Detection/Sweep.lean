/-
Module: TaintFlow.Detection.Sweep
Purpose: Run a check over whole classes. A method that cannot be analysed is put on record and left
  behind; the others go on, and see the summaries of those that came before them. Only where the analysis
  itself breaks down, the sweep ends.
Main exports: Sweep, Check.visitMethod, Check.visitClass, Check.visitClasses
-/
import TaintFlow.Detection.Check
import TaintFlow.Session

namespace TaintFlow

/-- A method that could not be analysed, given by its key. -/
structure Mishap where
  method : String
  failure : Failure
deriving Repr, Inhabited, DecidableEq

def Mishap.message (mishap : Mishap) : String :=
  "Exception while analyzing " ++ mishap.method ++ ": " ++ mishap.failure.message

/-- What has come out of a sweep so far. -/
structure Sweep where
  session : Session
  findings : List Finding := []
  mishaps : List Mishap := []
  /-- Did the analysis break down, so that the rest is left undone? -/
  broken : Bool := false

namespace Check

/-- Analyse a method and check its calls. -/
def visitMethod (check : Check) (sweep : Sweep) (code : MethodCode) :
    Sweep × Except Failure Analysis :=
  let analyzed := sweep.session.analyze code
  let after := { sweep with session := analyzed.1 }
  match analyzed.2 with
  | .ok analysis =>
      ({ after with findings := after.findings ++ check.findings code.body analysis },
        .ok analysis)
  | .error failure => (after, .error failure)

/-- Analyse a method and check its calls; a failure is put on record. -/
def sweepMethod (check : Check) (sweep : Sweep) (code : MethodCode) : Sweep :=
  if sweep.broken then sweep
  else
    let visited := check.visitMethod sweep code
    let after := visited.1
    match visited.2 with
    | .ok _ => after
    | .error failure =>
        if failure.fault.isBreakdown then { after with broken := true }
        else
          { after with
            session := after.session.hear [.methodFailed code.method.key failure]
            mishaps := after.mishaps ++ [⟨code.method.key, failure⟩] }

/-- Analyse the methods of a class, one after the other. -/
def visitClass (check : Check) (sweep : Sweep) (code : ClassCode) : Sweep :=
  if sweep.broken then sweep
  else if check.covers code.name then code.methods.foldl check.sweepMethod sweep
  else { sweep with session := sweep.session.hear [.skippedClass check.name code.name] }

/-- Analyse classes, one after the other. -/
def visitClasses (check : Check) (sweep : Sweep) (classes : List ClassCode) : Sweep :=
  classes.foldl check.visitClass sweep

end Check

end TaintFlow
