/-
Module: TaintFlow.Summary.Access
Purpose: Use a table of summaries while analyses run, with the notices that this gives.
Main exports: SummaryTable.offer, SummaryTable.replay, SummaryTable.inherited?
-/
import TaintFlow.Policy.Basic
import TaintFlow.Summary.Table

namespace TaintFlow

/-- Only a summary that was stored is worth a notice. -/
def Commit.notices (key : String) (summary : Summary) : Commit → List Notice
  | .inserted => [.committed key summary]
  | .keptConfigured | .keptDerived => []

namespace SummaryTable

variable {ε : Type}

/-- Offer a derived summary. -/
def offer (table : SummaryTable) (key : String) (summary : Summary) :
    Traced ε (SummaryTable × Commit) := do
  let (after, commit) := table.commit key summary
  Traced.giveAll (commit.notices key summary)
  return (after, commit)

/-- The table as it is after all that the notices say has been put into it. -/
def replay (table : SummaryTable) (notices : List Notice) : SummaryTable :=
  (notices.filterMap Notice.write?).foldl (fun known (key, summary) => known.put key summary) table

/-- What is said about a summary that is offered is what becomes of the table. -/
theorem replay_commit (table : SummaryTable) (key : String) (summary : Summary) :
    table.replay ((table.commit key summary).2.notices key summary) = (table.commit key summary).1 := by
  unfold commit
  split
  next present _ => cases configured : present.configured <;> rfl
  next => rfl

/-- The first summary whose class is above the given one. -/
def firstAbove (hierarchy : Hierarchy) (className : String) :
    List (String × Summary) → Traced ε (Option Summary)
  | [] => pure none
  | (owner, summary) :: others => do
      if ← hierarchy.isSubtypeOfAny className [owner] then return some summary
      else firstAbove hierarchy className others

/-- A summary stored for the method with the given id in some proper supertype of the class; where
there are several, the one that comes first when the table is gone through. -/
def inherited? (table : SummaryTable) (arrangement : Arrangement) (hierarchy : Hierarchy)
    (className methodId : String) : Traced ε (Option Summary) :=
  firstAbove hierarchy className (table.candidates arrangement className methodId)

/-- Apart from the notices, the search takes the first summary whose class is above the given one. -/
theorem result_firstAbove (hierarchy : Hierarchy) (className : String)
    (known : List (String × Summary)) :
    (firstAbove hierarchy className known : Traced ε (Option Summary)).result =
      .ok ((known.find? fun (owner, _) => hierarchy.isBelow className owner).map Prod.snd) := by
  induction known with
  | nil => rfl
  | cons candidate others inductionHypothesis =>
      obtain ⟨owner, summary⟩ := candidate
      simp only [firstAbove, Traced.result_bind, Hierarchy.result_isSubtypeOfAny]
      cases below : hierarchy.isBelow className owner <;>
        simp_all [bind, Except.bind]

@[simp] theorem result_inherited? (table : SummaryTable) (arrangement : Arrangement)
    (hierarchy : Hierarchy) (className methodId : String) :
    (table.inherited? arrangement hierarchy className methodId : Traced ε (Option Summary)).result =
      .ok (((table.candidates arrangement className methodId).find? fun (owner, _) =>
        hierarchy.isBelow className owner).map Prod.snd) :=
  result_firstAbove hierarchy className (table.candidates arrangement className methodId)

end SummaryTable

end TaintFlow
