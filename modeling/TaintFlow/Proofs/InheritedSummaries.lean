/-
Module: TaintFlow.Proofs.InheritedSummaries
Purpose: Whose summary is inherited. In the key of a summary the name of a class and the id of a method stand
  side by side, names and descriptors may have dots in them, and one id may be the end of another. A class in
  internal form has no dot, though, and an id begins with one, so that a key can be read in one way only: what
  is inherited is said about the method that was asked for, and in a class above the one that was asked about.
Main exports: NamesMethod, NamesMethod.unique, Declarations.NamesAbove, SummaryTable.Inherits,
  SummaryTable.inherits_of_find, SummaryTable.inherited_from_supertype
-/
import Mathlib.Logic.ExistsUnique
import TaintFlow.Policy.Declarations
import TaintFlow.Summary.Access

namespace TaintFlow

/-! ### What a key names -/

/-- The key is that of the method with the given id, which begins with a dot, in a class whose name is in
internal form. -/
structure NamesMethod (key className methodId : String) : Prop where
  internal : '.' ∉ className.toList
  dotted : methodId.toList.head? = some '.'
  spelled : key = methodKey className methodId

/-- The class is what stands before the first dot, however many there are. -/
theorem NamesMethod.className_eq {key className methodId : String}
    (names : NamesMethod key className methodId) :
    className.toList = key.toList.takeWhile (· ≠ '.') := by
  rcases List.head?_eq_some_iff.1 names.dotted with ⟨name, begins⟩
  have inside : ∀ letter ∈ className.toList, decide (letter ≠ '.') = true := by
    intro letter member
    have noDot : letter ≠ '.' := ne_of_mem_of_not_mem member names.internal
    simpa using noDot
  rw [names.spelled, methodKey, String.toList_append, begins, List.takeWhile_append_of_pos inside]
  simp

/-- A key can be read in one way only. -/
theorem NamesMethod.unique {key className methodId className' methodId' : String}
    (first : NamesMethod key className methodId) (second : NamesMethod key className' methodId') :
    className = className' ∧ methodId = methodId' := by
  have sameClass : className = className' := by
    rw [← String.toList_inj, first.className_eq, second.className_eq]
  have sameKey : className ++ methodId = className' ++ methodId' :=
    first.spelled.symm.trans second.spelled
  rw [sameClass] at sameKey
  exact ⟨sameClass, (String.append_right_inj className').1 sameKey⟩

/-- The key is that of the method with the given id in a proper supertype of the class. -/
def Declarations.NamesAbove (declared : Declarations) (key className methodId : String) : Prop :=
  ∃ owner, NamesMethod key owner methodId ∧ owner ≠ className ∧
    declared.isSubtype className owner = .ok true

namespace SummaryTable

variable {ε : Type} {table : SummaryTable} {arrangement : Arrangement} {declared : Declarations}
  {className methodId : String}

theorem contains_iff {key : String} : table.contains key ↔ ∃ summary, table.get? key = some summary := by
  rw [contains, Std.ExtTreeMap.contains_eq_isSome_getElem?, Option.isSome_iff_exists]
  rfl

/-! ### What is found -/

/-- An answer to the question what a class inherits for a method: there is one exactly if some summary is
stored for that method in a proper supertype of the class, and it is such a summary. -/
structure Inherits (table : SummaryTable) (declared : Declarations) (className methodId : String)
    (found : Option Summary) : Prop where
  found_iff : found.isSome ↔ ∃ key, table.contains key ∧ declared.NamesAbove key className methodId
  stored : ∀ summary ∈ found, ∃ key, table.get? key = some summary ∧
    declared.NamesAbove key className methodId

/-- The candidates in supertypes of the class are what is stored under keys that name the method there. -/
theorem exists_key_iff {summary : Summary} (dotted : methodId.toList.head? = some '.') :
    (∃ owner, (owner, summary) ∈ table.candidates arrangement className methodId ∧
        declared.hierarchy.isBelow className owner) ↔
      ∃ key, table.get? key = some summary ∧ declared.NamesAbove key className methodId := by
  constructor
  · rintro ⟨owner, candidate, below⟩
    rcases mem_candidates_iff.1 candidate with ⟨other, internal, stored⟩
    exact ⟨methodKey owner methodId, stored, owner, ⟨internal, dotted, rfl⟩, other,
      Hierarchy.isBelow_iff.1 below⟩
  · rintro ⟨key, stored, owner, names, other, below⟩
    rw [names.spelled] at stored
    exact ⟨owner, mem_candidates_iff.2 ⟨other, names.internal, stored⟩, Hierarchy.isBelow_iff.2 below⟩

/-- Whichever candidate is met first, it is a right answer. -/
theorem inherits_of_find {order : List (String × Summary)} (dotted : methodId.toList.head? = some '.')
    (arranged : order.Perm (table.candidates arrangement className methodId)) :
    table.Inherits declared className methodId
      ((order.find? fun (owner, _) => declared.hierarchy.isBelow className owner).map Prod.snd) where
  found_iff := by
    rw [Option.isSome_map, List.find?_isSome]
    constructor
    · rintro ⟨⟨owner, summary⟩, listed, below⟩
      rcases (exists_key_iff dotted).1 ⟨owner, arranged.mem_iff.1 listed, below⟩ with ⟨key, stored, above⟩
      exact ⟨key, contains_iff.2 ⟨summary, stored⟩, above⟩
    · rintro ⟨key, stored, above⟩
      rcases contains_iff.1 stored with ⟨summary, isStored⟩
      rcases (exists_key_iff dotted).2 ⟨key, isStored, above⟩ with ⟨owner, candidate, below⟩
      exact ⟨(owner, summary), arranged.mem_iff.2 candidate, below⟩
  stored := by
    intro summary found
    rcases Option.map_eq_some_iff.1 found with ⟨⟨owner, stored⟩, met, rfl⟩
    have candidate := arranged.mem_iff.1 (List.mem_of_find?_eq_some met)
    have below := List.find?_some met
    exact (exists_key_iff dotted).1 ⟨owner, candidate, below⟩

/-- Let every key of a table name a method, by an id that begins with a dot, in a class in internal form.
Then it names only this one method of this one class. The search for what a class inherits for a method ends
with a summary exactly if the table has a key that names this very method in a class that is another one and
that the class is below, and the summary is stored under such a key. In which order the table, or the
candidates in it, are gone through makes no difference to that. -/
theorem inherited_from_supertype
    (named : ∀ key, table.contains key → ∃ owner ownId, NamesMethod key owner ownId)
    (arrangement : Arrangement) (declared : Declarations) (className : String)
    (dotted : methodId.toList.head? = some '.') :
    (∀ key, table.contains key → ∃! method : String × String, NamesMethod key method.1 method.2) ∧
      (∃ found,
        (table.inherited? arrangement declared.hierarchy className methodId :
            Traced ε (Option Summary)).result = .ok found ∧
          table.Inherits declared className methodId found) ∧
      ∀ order, order.Perm (table.candidates arrangement className methodId) →
        ∃ found,
          (firstAbove declared.hierarchy className order : Traced ε (Option Summary)).result = .ok found ∧
          table.Inherits declared className methodId found := by
  refine ⟨?_, ?_, ?_⟩
  · intro key isStored
    rcases named key isStored with ⟨owner, ownId, names⟩
    refine ⟨(owner, ownId), names, ?_⟩
    intro method names'
    rcases names'.unique names with ⟨sameClass, sameId⟩
    exact Prod.ext sameClass sameId
  · exact ⟨_, result_inherited? table arrangement declared.hierarchy className methodId,
      inherits_of_find dotted (.refl _)⟩
  · intro order arranged
    exact ⟨_, result_firstAbove declared.hierarchy className order, inherits_of_find dotted arranged⟩

end SummaryTable

/-- Titles of pages, of texts, and of the parts of texts, the id of which ends in that of a title. -/
def titles : SummaryTable :=
  ((SummaryTable.empty.put "Page.title()V" .safe).put "Text.part.title()V" (.derived .null)).put
    "Text.title()V" (.derived .tainted)

/-- Pages are texts, and something has been declared above them that is no class. -/
def pages : Declarations :=
  { supertypes := [("Page", "Text.part"), ("Page", "Text")] }

/-- A page inherits the title of a text, and neither its own title nor that of the parts of a text. -/
theorem titles_inherited_from_text :
    ∃ found,
      (titles.inherited? .byKey pages.hierarchy "Page" ".title()V" :
          Traced Fault (Option Summary)).result = .ok found ∧
        titles.Inherits pages "Page" ".title()V" found ∧ found = some (.derived .tainted) := by
  have named : ∀ key, titles.contains key → ∃ owner ownId, NamesMethod key owner ownId := by
    intro key isStored
    have isTitle : key = "Text.title()V" ∨ key = "Text.part.title()V" ∨ key = "Page.title()V" := by
      rcases SummaryTable.contains_iff.1 isStored with ⟨summary, stored⟩
      simp only [titles, SummaryTable.get?_put, SummaryTable.get?_empty] at stored
      grind
    rcases isTitle with rfl | rfl | rfl
    · exact ⟨"Text", ".title()V", by decide, by decide, rfl⟩
    · exact ⟨"Text", ".part.title()V", by decide, by decide, rfl⟩
    · exact ⟨"Page", ".title()V", by decide, by decide, rfl⟩
  have dotted : ".title()V".toList.head? = some '.' := by decide
  rcases (SummaryTable.inherited_from_supertype named .byKey pages "Page" dotted).2.1 with
    ⟨found, answered, inherits⟩
  have isText : (titles.inherited? .byKey pages.hierarchy "Page" ".title()V" :
      Traced Fault (Option Summary)).result.toOption = some (some (.derived .tainted)) := by
    decide +kernel
  rw [answered] at isText
  exact ⟨found, answered, inherits, Option.some.inj isText⟩

end TaintFlow
