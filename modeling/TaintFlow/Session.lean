/-
Module: TaintFlow.Session
Purpose: Analyses that follow each other and share one table of summaries.
Main exports: Session, Session.configure, Session.commit, Session.analyze
-/
import TaintFlow.Analysis
import TaintFlow.Program.Code

namespace TaintFlow

/-- A row of analyses: what they depend on, and what they have had to say. -/
structure Session where
  context : Context
  /-- The classes that have been reported as missing, where one report is enough. -/
  reported : Std.ExtTreeSet String := ∅
  /-- The notices given so far. -/
  notices : List Notice := []

namespace Session

def summaries (session : Session) : SummaryTable :=
  session.context.summaries

/-- Take note of what a computation had to say, without what need not be said again, and of what it put into
the table. -/
def hear (session : Session) (notices : List Notice) : Session :=
  let (kept, reported) := Notice.settle session.reported notices
  { context := { session.context with summaries := session.summaries.replay notices }
    reported
    notices := session.notices ++ kept }

/-- Put a question, and take note of what is said on the way to the answer. -/
def ask {ε α : Type} (session : Session) (question : Traced ε α) : Session × Except ε α :=
  (session.hear question.notices, question.result)

/-- Store a summary that a human wrote. -/
def configure (session : Session) (key : String) (summary : Summary) : Session :=
  session.hear [.configured key summary]

/-- Store summaries that a human wrote, one after the other. -/
def configureAll (session : Session) (entries : List (String × Summary)) : Session :=
  entries.foldl (fun known (key, summary) => known.configure key summary) session

/-- Offer a derived summary. -/
def commit (session : Session) (key : String) (summary : Summary) : Session × Commit :=
  let (_, outcome) := session.summaries.commit key summary
  (session.hear (outcome.notices key summary), outcome)

/-- The task of analysing a method. -/
def task (session : Session) (code : MethodCode) : Task :=
  ⟨session.context, code.method, code.body⟩

/-- Analyse a method. Whether that succeeds or not, what it has put into the table is there for the analyses
that follow. -/
def analyze (session : Session) (code : MethodCode) : Session × Except Failure Analysis :=
  let outcome := (session.task code).run
  (session.hear outcome.notices, outcome.result.map Prod.fst)

end Session

end TaintFlow
