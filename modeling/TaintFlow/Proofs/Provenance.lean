/-
Module: TaintFlow.Proofs.Provenance
Purpose: Instructions invent no provenance. The sources, locations and arguments that facts name after
  an instruction are those that they named before, those that the instruction itself mentions, and
  those in the templates of summaries.
Main exports: Site.mentioned, Site.carries_encloses, Site.step_enclosed
-/
import TaintFlow.Proofs.Calls
import TaintFlow.Proofs.Rank

namespace TaintFlow

variable {bound taint : Taint} {frame : Frame}

/-- Tags are no part of provenance. -/
theorem Taint.Encloses.retag (tags : TagSet) (encloses : bound.Encloses taint) :
    bound.Encloses { taint with tags } :=
  ⟨encloses.sources, encloses.locations, encloses.parameters⟩

theorem Taint.encloses_of (state : State) : bound.Encloses (.of state) :=
  Taint.encloses_of_nothing rfl rfl rfl

theorem Taint.key_mem_addSource (taint : Taint) (source : Source) :
    source.key ∈ (taint.addSource source).sources.map Source.key :=
  mem_keys_record.2 (Or.inr rfl)

theorem Taint.mem_addLocation (taint : Taint) (location : Location) :
    location ∈ (taint.addLocation location).locations.map id :=
  mem_keys_record.2 (Or.inr rfl)

namespace Site

variable {site : Site} {call : Call}

/-- The provenance that an instruction mentions by itself. -/
def mentioned (site : Site) : Instruction → Taint
  | .getField field _ =>
      (Taint.unknown.addSource ⟨.field, .unknown, some field.signature⟩).addLocation site.location
  | .invoke call =>
      (Taint.unknown.addSource ⟨.returned, .unknown, some call.signature⟩).addLocation site.location
  | _ => .unknown

theorem fieldTaint_enclosed {field : FieldName} {isStatic : Bool}
    (mentions : bound.Encloses (site.mentioned (.getField field isStatic))) :
    bound.Encloses (site.fieldTaint field) := by
  have sourced : (SourceKind.field, some field.signature) ∈ bound.sources.map Source.key :=
    mentions.sources _ (Taint.key_mem_addSource .unknown ⟨.field, .unknown, some field.signature⟩)
  have named : site.location ∈ bound.locations.map id :=
    mentions.locations _ (Taint.mem_addLocation _ site.location)
  unfold fieldTaint
  dsimp only
  refine remark_holds (Taint.closed_encloses bound) (Taint.Encloses.addSource ?_ ?_)
  · split
    · exact Taint.encloses_of _
    · exact (Taint.encloses_of _).addLocation named
  · exact sourced

theorem made_enclosed {instruction : Instruction}
    (mentions : bound.Encloses (site.mentioned instruction)) :
    ∀ taint ∈ site.made instruction, bound.Encloses taint := by
  have remarked {fact : Taint} {words : Unit → String} (noSources : fact.sources = [])
      (noLocations : fact.locations = []) (noParameters : fact.parameters = ∅) :
      bound.Encloses (site.remark words fact) :=
    remark_holds (Taint.closed_encloses bound)
      (Taint.encloses_of_nothing noSources noLocations noParameters)
  intro taint made
  cases instruction <;> cases made
  case constant.refl literal => cases literal <;> exact remarked rfl rfl rfl
  case getField.refl field isStatic => exact fieldTaint_enclosed mentions
  case new.refl className => exact remarked rfl rfl rfl
  case newArray.refl dimensions => exact remarked rfl rfl rfl
  case checkCast.refl className => exact remarked rfl rfl rfl
  case concat.refl operands => exact Taint.encloses_of_nothing rfl rfl rfl
  case other.refl consumed produced => exact Taint.encloses_of .unknown

/-- A call names only itself and where it is made. -/
theorem carries_encloses (mentions : bound.Encloses (site.mentioned (.invoke call))) :
    site.Carries call bound.Encloses where
  toClosed := Taint.closed_encloses bound
  bare := Taint.encloses_of
  retags := Taint.Encloses.retag
  locates encloses :=
    encloses.addLocation (mentions.locations _ (Taint.mem_addLocation _ site.location))
  signs state encloses := by
    have sourced : (SourceKind.returned, some call.signature) ∈ bound.sources.map Source.key :=
      mentions.sources _
        (Taint.key_mem_addSource .unknown ⟨.returned, .unknown, some call.signature⟩)
    exact encloses.addSource sourced

/-- No instruction makes facts name anything that they did not name before, that it does not mention,
and that no summary mentions. -/
theorem step_enclosed {instruction : Instruction} {step : Step}
    (mentions : bound.Encloses (site.mentioned instruction))
    (admits : site.context.Admits bound.Encloses) (all : frame.All bound.Encloses)
    (acted : (site.step instruction frame).result = .ok step) :
    step.frame.All bound.Encloses ∧ ∀ taint ∈ step.returned, bound.Encloses taint := by
  refine step_keeps (Taint.closed_encloses bound) (made_enclosed mentions) ?_ admits all acted
  rintro call rfl
  exact carries_encloses mentions

end Site

end TaintFlow
