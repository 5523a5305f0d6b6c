/-
Module: TaintFlow.Summary.Table
Purpose: The summaries known so far, by method key. What a human configured replaces what is there;
  what was derived is only kept where nothing is there yet.
Main exports: SummaryTable, Arrangement, SummaryTable.put, SummaryTable.commit, SummaryTable.candidates,
  SummaryTable.mem_candidates_iff
-/
import Std.Data.ExtTreeMap
import TaintFlow.Program.Method
import TaintFlow.Summary.Basic

namespace TaintFlow

/-- Summaries by method key. -/
structure SummaryTable where
  entries : Std.ExtTreeMap String Summary := ∅
deriving DecidableEq

/-- The order in which a table is gone through. A table has none of its own: any order will do that is
the same whenever the table holds the same. -/
structure Arrangement where
  arrange : List (String × Summary) → List (String × Summary)
  perm : ∀ entries, (arrange entries).Perm entries

/-- Go through a table by its keys, the smallest first. -/
def Arrangement.byKey : Arrangement where
  arrange entries := entries
  perm := List.Perm.refl

/-- What became of a derived summary that was offered to a table. -/
inductive Commit where
  | inserted
  /-- A configured summary was there already. -/
  | keptConfigured
  /-- A derived summary was there already. -/
  | keptDerived
deriving Repr, Inhabited, DecidableEq

namespace SummaryTable

def empty : SummaryTable := {}

instance : Inhabited SummaryTable := ⟨empty⟩

def get? (table : SummaryTable) (key : String) : Option Summary :=
  table.entries[key]?

def contains (table : SummaryTable) (key : String) : Bool :=
  table.entries.contains key

def size (table : SummaryTable) : Nat :=
  table.entries.size

/-- The summary of the method with the given id in a class. -/
def lookup? (table : SummaryTable) (className methodId : String) : Option Summary :=
  table.get? (methodKey className methodId)

/-- Store a summary that a human wrote, in place of what was there. -/
def put (table : SummaryTable) (key : String) (summary : Summary) : SummaryTable :=
  ⟨table.entries.insert key summary⟩

/-- Offer a derived summary: it is stored unless the key has a summary. -/
def commit (table : SummaryTable) (key : String) (summary : Summary) : SummaryTable × Commit :=
  match table.get? key with
  | some present => (table, if present.configured then .keptConfigured else .keptDerived)
  | none => (table.put key summary, .inserted)

@[simp] theorem get?_empty (key : String) : empty.get? key = none := by
  simp [get?, empty]

theorem get?_put (table : SummaryTable) (key other : String) (summary : Summary) :
    (table.put key summary).get? other = if key = other then some summary else table.get? other := by
  simp [get?, put, Std.ExtTreeMap.getElem?_insert]

/-- What was there stays there, and only an absent key takes the summary that is offered. -/
theorem get?_commit (table : SummaryTable) (key other : String) (summary : Summary) :
    (table.commit key summary).1.get? other =
      if key = other then some ((table.get? key).getD summary) else table.get? other := by
  cases known : table.get? key with
  | none => simp [commit, known, get?_put]
  | some present =>
      by_cases same : key = other
      · simp [commit, known, ← same]
      · simp [commit, known, same]

/-- Cut a method id off the end of a key; what remains names the class. -/
def ownerOf? (key methodId : String) : Option String :=
  if methodId.toList <:+ key.toList then
    some (String.ofList (key.toList.take (key.toList.length - methodId.toList.length)))
  else none

/-- The summaries for a method id in other classes, with the names of these classes, in the order in which
the table is gone through. A class name in internal form has no dot in it. -/
def candidates (table : SummaryTable) (arrangement : Arrangement) (className methodId : String) :
    List (String × Summary) :=
  (arrangement.arrange table.entries.toList).filterMap fun (key, summary) =>
    match ownerOf? key methodId with
    | some owner =>
        if owner = className ∨ '.' ∈ owner.toList then none else some (owner, summary)
    | none => none

theorem ownerOf?_eq_some_iff {key methodId owner : String} :
    ownerOf? key methodId = some owner ↔ key = methodKey owner methodId := by
  unfold ownerOf? methodKey
  constructor
  · intro found
    split at found
    next ends =>
      obtain ⟨before, text⟩ := ends
      cases found
      rw [← String.toList_inj, ← text]
      simp
    next => cases found
  · rintro rfl
    simp

/-- The candidates are what is stored for the method id in other classes whose names are in internal
form. -/
theorem mem_candidates_iff {table : SummaryTable} {arrangement : Arrangement}
    {className methodId owner : String} {summary : Summary} :
    (owner, summary) ∈ table.candidates arrangement className methodId ↔
      owner ≠ className ∧ '.' ∉ owner.toList ∧
        table.get? (methodKey owner methodId) = some summary := by
  simp only [candidates, List.mem_filterMap, Prod.exists, (arrangement.perm _).mem_iff]
  constructor
  · rintro ⟨key, stored, listed, kept⟩
    split at kept
    next named found =>
      split at kept
      next => cases kept
      next admitted =>
        cases kept
        obtain ⟨other, internal⟩ := not_or.1 admitted
        refine ⟨other, internal, ?_⟩
        rw [← ownerOf?_eq_some_iff.1 found]
        exact Std.ExtTreeMap.mem_toList_iff_getElem?_eq_some.1 listed
    next => cases kept
  · rintro ⟨other, internal, stored⟩
    refine ⟨methodKey owner methodId, summary, ?_, ?_⟩
    · exact Std.ExtTreeMap.mem_toList_iff_getElem?_eq_some.2 stored
    · rw [ownerOf?_eq_some_iff.2 rfl]
      exact if_neg (not_or.2 ⟨other, internal⟩)

end SummaryTable

end TaintFlow
