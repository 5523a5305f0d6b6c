/-
Module: TaintFlow.Proofs.EqualFrames
Purpose: Frames that say the same are interchangeable. Facts that differ only in the order of their
  provenance, or in the states recorded inside it, stay so under all that instructions do to them, and
  instructions never look at the difference. The analysis may therefore drop a frame that says the same as
  one that it has seen.
Main exports: Taint.Equiv.sameObject_iff, Frame.equiv_iff_related, Site.parallel_equiv,
  Site.step_respects_equiv
-/
import TaintFlow.Policy.Declarations
import TaintFlow.Proofs.Faults
import TaintFlow.Proofs.JoinLaws
import TaintFlow.Proofs.ParallelCalls

namespace TaintFlow

/-! ### Facts that say the same -/

namespace Taint

variable {one two three four : Taint}

theorem Equiv.concat (first : one ≈ two) (second : three ≈ four) :
    one.concat three ≈ two.concat four := by
  have joined := first.join second
  unfold Taint.concat
  rw [first.literal, second.literal]
  split
  · exact { joined with literal := rfl }
  · exact joined

theorem Equiv.identify (same : one ≈ two) (slot : Option Nat) (runtimeClass : Option String)
    (allocation : Option Offset) :
    { one with slot, runtimeClass, allocation } ≈ { two with slot, runtimeClass, allocation } :=
  { same with slot := rfl, runtimeClass := rfl, allocation := rfl }

theorem Equiv.retag (same : one ≈ two) (added stripped : TagSet) :
    Equiv { one with tags := (if one.state = .safe then one.tags else one.tags ∪ added) \ stripped }
      { two with tags := (if two.state = .safe then two.tags else two.tags ∪ added) \ stripped } :=
  { same with tags := by rw [same.state, same.tags] }

theorem Equiv.addLocation (same : one ≈ two) (location : Location) :
    one.addLocation location ≈ two.addLocation location where
  __ := same
  locations := sameLocations_iff.2 fun wanted => by
    have known := sameLocations_iff.1 same.locations wanted
    exact mem_keys_record.trans ((or_congr_left known).trans mem_keys_record.symm)

/-- The state recorded inside a source does not matter. -/
theorem Equiv.addSource {source source' : Source} (same : one ≈ two) (sameKey : source.key = source'.key) :
    one.addSource source ≈ two.addSource source' where
  __ := same
  sources := sameSources_iff.2 fun wanted => by
    have known := sameSources_iff.1 same.sources wanted
    have noted : source.key = wanted ↔ source'.key = wanted := by rw [sameKey]
    exact mem_keys_record.trans ((or_congr known noted).trans mem_keys_record.symm)

/-- Whether two values refer to the same object can be told from facts that say the same. -/
theorem Equiv.sameObject_iff (first : one ≈ two) (second : three ≈ four) :
    one.SameObject three ↔ two.SameObject four := by
  have traced : one.allocation.isSome ∨ one.slot.isSome ↔ two.allocation.isSome ∨ two.slot.isSome := by
    rw [first.allocation, first.slot]
  have agree : one ≈ three ↔ two ≈ four :=
    ⟨fun same => (first.symm.trans same).trans second, fun same => (first.trans same).trans second.symm⟩
  exact and_congr traced agree

theorem respected_equiv : Respected fun one two : Taint => one ≈ two where
  binds same _ := { same with slot := rfl }
  elements same := { same with runtimeClass := rfl, allocation := rfl }
  concats first second := first.concat second
  texts same := same.identify none none none

end Taint

/-! ### Frames that say the same -/

theorem Frame.cellsEquiv_iff {ones twos : List Taint} :
    CellsEquiv ones twos ↔ List.Forall₂ (fun one two => one ≈ two) ones twos := by
  induction ones generalizing twos with
  | nil =>
      cases twos with
      | nil => exact ⟨fun _ => .nil, fun _ => trivial⟩
      | cons two twos => exact ⟨False.elim, fun related => nomatch related⟩
  | cons one ones inductionHypothesis =>
      cases twos with
      | nil => exact ⟨False.elim, fun related => nomatch related⟩
      | cons two twos =>
          rw [List.forall₂_cons, ← inductionHypothesis]
          exact Iff.rfl

theorem Frame.equiv_iff_related {one two : Frame} :
    one ≈ two ↔ Frame.Related (fun one two => one ≈ two) one two :=
  ⟨fun same => ⟨cellsEquiv_iff.1 same.locals, cellsEquiv_iff.1 same.stack⟩,
    fun related => ⟨cellsEquiv_iff.2 related.locals, cellsEquiv_iff.2 related.stack⟩⟩

theorem Summary.outputEquiv_iff {one two : Option Taint} :
    OutputEquiv one two ↔ Option.Rel (fun one two => one ≈ two) one two := by
  cases one with
  | none =>
      cases two with
      | none => exact ⟨fun _ => .none, fun _ => trivial⟩
      | some two => exact ⟨False.elim, fun related => nomatch related⟩
  | some one =>
      cases two with
      | none => exact ⟨False.elim, fun related => nomatch related⟩
      | some two =>
          constructor
          · intro same
            exact .some same
          · intro related
            cases related with
            | some same => exact same

/-! ### Instructions -/

namespace Site

variable (site : Site) {one two : Taint}

theorem remark_equiv (words : Unit → String) (same : one ≈ two) :
    site.remark words one ≈ site.remark words two := by
  unfold remark
  split
  · exact { same with note := rfl }
  · exact same

theorem signed_equiv (call : Call) (same : one ≈ two) : site.signed call one ≈ site.signed call two := by
  have remarked := site.remark_equiv (fun _ => call.name ++ "()") same
  unfold signed
  generalize site.remark _ one = first at remarked ⊢
  generalize site.remark _ two = second at remarked ⊢
  have sourced : first.addSource ⟨.returned, first.state, some call.signature⟩ ≈
      second.addSource ⟨.returned, second.state, some call.signature⟩ :=
    remarked.addSource rfl
  dsimp only
  rw [sourced.state]
  split
  · exact sourced.addLocation _
  · exact sourced

variable {site}

/-- A place does the same to facts that say the same, if no rule of the policy looks at the frame. -/
theorem parallel_equiv {declared : Declarations} (declares : site.context.policy = declared.policy) :
    site.Parallel site fun one two => one ≈ two where
  toRespected := Taint.respected_equiv
  toTwins := ⟨rfl, rfl, rfl, rfl, rfl⟩
  rules _ _ _ _ := by
    rw [declares]
    rfl
  reflexive := Taint.Equiv.refl
  state same := same.state
  literal same := same.literal
  runtimeClass same := same.runtimeClass
  slot same := same.slot
  allocation same := same.allocation
  joins first second := first.join second
  identifies same slot runtimeClass allocation := same.identify slot runtimeClass allocation
  retags same added stripped := same.retag added stripped
  locates same location := same.addLocation location
  signs same call := site.signed_equiv call same
  makes instruction one made two made' := by
    cases Option.mem_unique made made'
    exact .refl one

/-- Frames that say the same are interchangeable: on both of them an instruction fails with the same fault,
which is one of the code or a breakdown over it, or it leaves frames that say the same and adds the same to
what the method returns. -/
theorem step_respects_equiv {declared : Declarations} {frame frame' : Frame} {output output' : Option Taint}
    (declares : site.context.policy = declared.policy) (instruction : Instruction)
    (same : frame ≈ frame') (sameOutput : Summary.OutputEquiv output output') :
    (∃ fault, fault.isStructural ∧ (site.step instruction frame).result = .error fault ∧
        (site.step instruction frame').result = .error fault) ∨
      ∃ step step', (site.step instruction frame).result = .ok step ∧
        (site.step instruction frame').result = .ok step' ∧ step.frame ≈ step'.frame ∧
        Summary.OutputEquiv (Taint.combine output step.returned)
          (Taint.combine output' step'.returned) := by
  have parallel := parallel_equiv declares
  have judges {duplicate object duplicate' object' : Taint}
      (_ : site.Compares frame instruction duplicate object)
      (_ : site.Compares frame' instruction duplicate' object') (duplicates : duplicate ≈ duplicate')
      (objects : object ≈ object') : duplicate.SameObject object ↔ duplicate'.SameObject object' :=
    duplicates.sameObject_iff objects
  have lockstep := parallel.lockstep_step judges (Frame.equiv_iff_related.1 same)
  have structural := site.structural_step frame instruction
  generalize (site.step instruction frame).result = ended at lockstep structural ⊢
  generalize (site.step instruction frame').result = ended' at lockstep ⊢
  cases lockstep with
  | error fault => exact Or.inl ⟨fault, structural fault rfl, rfl, rfl⟩
  | ok steps =>
      have outputs := parallel.combine (Summary.outputEquiv_iff.1 sameOutput) steps.returned
      exact Or.inr ⟨_, _, rfl, rfl, Frame.equiv_iff_related.2 steps.frame,
        Summary.outputEquiv_iff.2 outputs⟩

end Site

/-- A frame before a store to an array that a local holds and that lies on the stack twice. What is known of
the array came from two sources, which the references list in different orders. -/
def storingListed (first second : Source) : Frame :=
  let listed (first second : Source) : Taint :=
    { (Taint.unknown.addSource first).addSource second with slot := some 0 }
  ⟨[listed first second], [.tainted, .safe, listed first second, listed second first]⟩

/-- Two frames that differ in these orders, and in the states recorded with the sources, still do so after
the store, and still say the same. -/
theorem storingListed_interchangeable :
    let one := storingListed ⟨.field, .tainted, some "Log.line"⟩ ⟨.parameter, .unknown, none⟩
    let two := storingListed ⟨.parameter, .safe, none⟩ ⟨.field, .unknown, some "Log.line"⟩
    one ≈ two ∧
      ∃ step step', ((collectingLoop.site 6).step (.arrayStore .reference) one).result = .ok step ∧
        ((collectingLoop.site 6).step (.arrayStore .reference) two).result = .ok step' ∧
        step.frame ≠ step'.frame ∧ step.frame ≈ step'.frame := by
  intro one two
  have same : one ≈ two := by decide
  have stored : (((collectingLoop.site 6).step (.arrayStore .reference) one).result.toOption.bind fun step =>
      ((collectingLoop.site 6).step (.arrayStore .reference) two).result.toOption.map fun step' =>
        decide (step.frame ≠ step'.frame)) = some true := by
    decide +kernel
  have declares : (collectingLoop.site 6).context.policy =
      Declarations.policy { fieldStates := [("Log.line", .tainted)] } :=
    rfl
  have nothingYet : Summary.OutputEquiv none none := trivial
  rcases Site.step_respects_equiv declares (.arrayStore .reference) same nothingYet with
    ⟨fault, -, failed, -⟩ | ⟨step, step', acted, acted', frames, -⟩
  · rw [failed] at stored
    cases stored
  · rw [acted, acted'] at stored
    exact ⟨same, step, step', acted, acted', by simpa [Except.toOption] using stored, frames⟩

end TaintFlow
