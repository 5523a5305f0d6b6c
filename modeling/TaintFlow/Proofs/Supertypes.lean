/-
Module: TaintFlow.Proofs.Supertypes
Purpose: Which classes lie above a class, whatever has been declared: the hierarchy may have cycles, say a
  thing twice, and name classes of which nothing else is said. The search for a supertype leaves off early
  where it can; what it has seen and what it has pending are still a frontier all the time, so that a search
  that runs dry has seen all that declarations lead to. A question about two classes is therefore always
  answered, and rightly.
Main exports: Declarations.Extends, Declarations.Explored, Declarations.Answers, Declarations.search_answers,
  Declarations.isSubtype_decides
-/
import Mathlib.Logic.Relation
import TaintFlow.Policy.Declarations

namespace TaintFlow.Declarations

variable {declared : Declarations} {className supertype current other : String} {seen pending : List String}

/-- The supertype has been declared to be a direct one of the class. -/
def Extends (declared : Declarations) (className supertype : String) : Prop :=
  (className, supertype) ∈ declared.supertypes

theorem mem_directSupertypes :
    supertype ∈ declared.directSupertypes className ↔ declared.Extends className supertype := by
  simp [directSupertypes, Extends]

theorem directSupertypes_eq_nil_iff :
    declared.directSupertypes className = [] ↔ ∀ other, ¬ declared.Extends className other := by
  simp only [List.eq_nil_iff_forall_not_mem, mem_directSupertypes]

/-- A class that lies below another one has a direct supertype. -/
theorem exists_extends_of_above (above : Relation.TransGen declared.Extends className supertype) :
    ∃ other, declared.Extends className other := by
  rcases Relation.TransGen.head'_iff.1 above with ⟨other, declares, -⟩
  exact ⟨other, declares⟩

/-! ### The frontier of a search -/

/-- How far the search for a supertype of a class has come. -/
structure Explored (declared : Declarations) (className supertype : String) (seen pending : List String) :
    Prop where
  /-- The search began with the class itself. -/
  begun : className ∈ seen ∨ className ∈ pending
  /-- It has not ended for want of declarations about the class. -/
  declares : className ∈ seen → ∃ other, declared.Extends className other
  /-- Declarations lead to all that is pending. -/
  reached : ∀ current ∈ pending, Relation.ReflTransGen declared.Extends className current
  /-- What lies right above a class that was seen was seen too, or is pending. -/
  frontier : ∀ current ∈ seen, ∀ other, declared.Extends current other → other ∈ seen ∨ other ∈ pending
  /-- No class that was seen lies right below the supertype. -/
  missed : ∀ current ∈ seen, ¬ declared.Extends current supertype

namespace Explored

theorem start : declared.Explored className supertype [] [className] where
  begun := Or.inr List.mem_cons_self
  declares member := by cases member
  reached current member := by
    rw [List.mem_singleton.1 member]
  frontier current member := by cases member
  missed current member := by cases member

/-- To pass over a class that was seen loses none. -/
theorem mem_of_skip (known : current ∈ seen) (listed : other ∈ seen ∨ other ∈ current :: pending) :
    other ∈ seen ∨ other ∈ pending := by
  rcases listed with isSeen | isPending
  · exact Or.inl isSeen
  · rcases List.mem_cons.1 isPending with rfl | isPending
    · exact Or.inl known
    · exact Or.inr isPending

/-- A class that was seen is passed over. -/
theorem skip (explored : declared.Explored className supertype seen (current :: pending))
    (known : current ∈ seen) : declared.Explored className supertype seen pending where
  begun := mem_of_skip known explored.begun
  declares := explored.declares
  reached other member := explored.reached other (List.mem_cons_of_mem current member)
  frontier below isSeen other extend := mem_of_skip known (explored.frontier below isSeen other extend)
  missed := explored.missed

/-- To see a class and put others in its place loses none. -/
theorem mem_of_expand (direct : List String) (listed : other ∈ seen ∨ other ∈ current :: pending) :
    other ∈ current :: seen ∨ other ∈ direct ++ pending := by
  rcases listed with isSeen | isPending
  · exact Or.inl (List.mem_cons_of_mem current isSeen)
  · rcases List.mem_cons.1 isPending with rfl | isPending
    · exact Or.inl List.mem_cons_self
    · exact Or.inr (List.mem_append_right direct isPending)

/-- A class makes room for its direct supertypes. -/
theorem expand (explored : declared.Explored className supertype seen (current :: pending))
    (declares : current = className → ∃ other, declared.Extends className other)
    (missed : ¬ declared.Extends current supertype) :
    declared.Explored className supertype (current :: seen)
      (declared.directSupertypes current ++ pending) where
  begun := mem_of_expand _ explored.begun
  declares member := by
    rcases List.mem_cons.1 member with same | isSeen
    · exact declares same.symm
    · exact explored.declares isSeen
  reached other member := by
    rcases List.mem_append.1 member with isDirect | isPending
    · exact (explored.reached current List.mem_cons_self).tail (mem_directSupertypes.1 isDirect)
    · exact explored.reached other (List.mem_cons_of_mem current isPending)
  frontier below isSeen other extend := by
    rcases List.mem_cons.1 isSeen with rfl | isSeen
    · exact Or.inr (List.mem_append_left pending (mem_directSupertypes.2 extend))
    · exact mem_of_expand _ (explored.frontier below isSeen other extend)
  missed below isSeen := by
    rcases List.mem_cons.1 isSeen with rfl | isSeen
    · exact missed
    · exact explored.missed below isSeen

/-- When nothing is pending any more, all that declarations lead to has been seen. -/
theorem mem_seen (explored : declared.Explored className supertype seen [])
    (above : Relation.ReflTransGen declared.Extends className other) : other ∈ seen := by
  induction above with
  | refl => simpa using explored.begun
  | tail _ extend inductionHypothesis => simpa using explored.frontier _ inductionHypothesis _ extend

theorem not_above (explored : declared.Explored className supertype seen []) :
    ¬ Relation.TransGen declared.Extends className supertype := by
  intro above
  rcases Relation.TransGen.tail'_iff.1 above with ⟨below, reached, extend⟩
  exact explored.missed below (explored.mem_seen reached) extend

end Explored

/-! ### What the search answers -/

/-- The right answers to the question whether a class lies below another one. -/
inductive Answers (declared : Declarations) (className supertype : String) : Except MissingType Bool → Prop where
  | below (above : Relation.TransGen declared.Extends className supertype) :
      Answers declared className supertype (.ok true)
  | apart {other : String} (declares : declared.Extends className other)
      (unrelated : ¬ Relation.TransGen declared.Extends className supertype) :
      Answers declared className supertype (.ok false)
  | missing (undeclared : ∀ other, ¬ declared.Extends className other) :
      Answers declared className supertype (.error ⟨className⟩)

/-- However far it has come, the search ends, and with the right answer. -/
theorem search_answers (explored : declared.Explored className supertype seen pending) :
    declared.Answers className supertype (declared.search className supertype seen pending) := by
  fun_induction search with
  | case1 seen =>
      have begun : className ∈ seen := by simpa using explored.begun
      rcases explored.declares begun with ⟨other, declares⟩
      exact .apart declares explored.not_above
  | case2 seen current pending known inductionHypothesis =>
      exact inductionHypothesis (explored.skip known)
  | case3 seen pending fresh nothing =>
      exact .missing (directSupertypes_eq_nil_iff.1 nothing)
  | case4 seen current pending fresh nothing different inductionHypothesis =>
      have undeclared := directSupertypes_eq_nil_iff.1 nothing
      have expanded := explored.expand (fun same => absurd same different) (undeclared supertype)
      rw [nothing, List.nil_append] at expanded
      exact inductionHypothesis expanded
  | case5 seen current pending fresh something isDirect =>
      have reached := explored.reached current List.mem_cons_self
      exact .below (Relation.TransGen.tail' reached (mem_directSupertypes.1 isDirect))
  | case6 seen current pending fresh something isNotDirect inductionHypothesis =>
      apply inductionHypothesis
      apply explored.expand
      · rintro rfl
        rcases List.exists_mem_of_ne_nil _ something with ⟨other, isDirect⟩
        exact ⟨other, mem_directSupertypes.1 isDirect⟩
      · exact fun extend => isNotDirect (mem_directSupertypes.2 extend)

/-- Under any declarations, a question about two classes has one of three answers. The first class is
equal to the second or below it exactly if the two are the same, or the second is the class above all
others, or declarations lead from the first to the second in one or more steps. Otherwise it is missing
exactly if no supertype of it has been declared, and else it is not below. -/
theorem isSubtype_decides (declared : Declarations) (className supertype : String) :
    (declared.isSubtype className supertype = .ok true ↔
        className = supertype ∨ supertype = "java/lang/Object" ∨
          Relation.TransGen declared.Extends className supertype) ∧
      (∀ missing, declared.isSubtype className supertype = .error missing ↔
        missing = ⟨className⟩ ∧ className ≠ supertype ∧ supertype ≠ "java/lang/Object" ∧
          ∀ other, ¬ declared.Extends className other) ∧
      (declared.isSubtype className supertype = .ok false ↔
        className ≠ supertype ∧ supertype ≠ "java/lang/Object" ∧
          (∃ other, declared.Extends className other) ∧
          ¬ Relation.TransGen declared.Extends className supertype) := by
  have isRoot : rootClass = "java/lang/Object" := rfl
  rw [← isRoot]
  unfold isSubtype
  split
  next trivially => grind
  next different =>
    have explored : declared.Explored className supertype [] [className] := .start
    have answers := search_answers explored
    generalize declared.search className supertype [] [className] = answer at answers
    cases answers with
    | below above =>
        have declares := exists_extends_of_above above
        grind
    | apart declares unrelated => grind
    | missing undeclared =>
        have unrelated : ¬ Relation.TransGen declared.Extends className supertype := by
          intro above
          rcases exists_extends_of_above above with ⟨other, declares⟩
          exact undeclared other declares
        grind

/-- Two classes that extend each other, and one above them of which nothing is known. -/
example :
    let declared := ((Declarations.addSupertype {} "A" "B").addSupertype "B" "A").addSupertype "B" "C"
    declared.isSubtype "A" "C" = .ok true ∧ declared.isSubtype "A" "D" = .ok false ∧
      declared.isSubtype "C" "A" = .error ⟨"C"⟩ := by
  cbv

end TaintFlow.Declarations
