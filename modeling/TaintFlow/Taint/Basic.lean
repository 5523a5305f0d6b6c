/-
Module: TaintFlow.Taint.Basic
Purpose: The fact that the analysis keeps for every local and every operand stack word, and the ways
  to make one and to add to it.
Main exports: Taint, Taint.of, Taint.parametric, Taint.addSource, Taint.Equiv
-/
import TaintFlow.Taint.Origin
import TaintFlow.Taint.Tag

namespace TaintFlow

/-- What is known about one value. Its provenance is kept without repetitions, which is part of what a
fact is: two facts can be compared list by list only because of that. -/
structure Taint where
  state : State
  /-- Dangerous characters that have been escaped in the value. -/
  tags : TagSet := ∅
  /-- On the result template of a summary: tags that the call strips from its result. -/
  strippedTags : TagSet := ∅
  sources : List Source := []
  locations : List Location := []
  /-- Stack indices, counted from the top at a call, of the arguments that flow into the value. -/
  parameters : Std.ExtTreeSet Nat := ∅
  /-- The state that the value has whatever the arguments in `parameters` are. -/
  baseState : State := .safe
  /-- The literal text that the value is known to be. -/
  literal : Option String := none
  /-- The class that the value is known to be an instance of. -/
  runtimeClass : Option String := none
  /-- The local that the value was loaded from or stored to. -/
  slot : Option Nat := none
  /-- Where the object that the value refers to was created. -/
  allocation : Option Offset := none
  /-- A remark for a human reader. -/
  note : Option String := none
  /-- No source is noted twice. -/
  sourcesDistinct : (sources.map Source.key).Nodup := by simp
  /-- No location is noted twice. -/
  locationsDistinct : (locations.map id).Nodup := by simp
deriving DecidableEq

namespace Taint

/-! ### Making facts -/

/-- A fact that consists of a state only. -/
def of (state : State) : Taint := { state }

instance : Inhabited Taint := ⟨of .unknown⟩

def safe : Taint := of .safe

def null : Taint := of .null

def unknown : Taint := of .unknown

def tainted : Taint := of .tainted

/-- A safe value that is known to be the given literal. -/
def constant (text : String) : Taint :=
  { state := .safe, literal := some text }

/-- An unknown value that is as dangerous as the given arguments of the call. -/
def parametric (indices : List Nat) : Taint :=
  { state := .unknown, parameters := .ofList indices }

/-! ### Adding to facts -/

def addTag (taint : Taint) (tag : Tag) : Taint :=
  { taint with tags := taint.tags.insert tag }

def removeTag (taint : Taint) (tag : Tag) : Taint :=
  { taint with tags := taint.tags.erase tag }

/-- Have a result template strip a tag. -/
def addStrippedTag (taint : Taint) (tag : Tag) : Taint :=
  { taint with strippedTags := taint.strippedTags.insert tag }

/-- Note a source, unless one of the same kind and name is there. -/
def addSource (taint : Taint) (source : Source) : Taint :=
  { taint with
    sources := record Source.key taint.sources source
    sourcesDistinct := nodup_keys_record taint.sourcesDistinct }

/-- Note a location, unless it is there. -/
def addLocation (taint : Taint) (location : Location) : Taint :=
  { taint with
    locations := record id taint.locations location
    locationsDistinct := nodup_keys_record taint.locationsDistinct }

def addParameter (taint : Taint) (index : Nat) : Taint :=
  { taint with parameters := taint.parameters.insert index }

/-- Do arguments of the call flow into the value? -/
def isParametric (taint : Taint) : Bool :=
  !taint.parameters.isEmpty

/-! ### When two facts say the same -/

/-- Two facts say the same: they agree in everything but the order of their provenance and the states
recorded inside their sources. -/
structure Equiv (one two : Taint) : Prop where
  state : one.state = two.state
  tags : one.tags = two.tags
  strippedTags : one.strippedTags = two.strippedTags
  sources : SameBy Source.key one.sources two.sources
  locations : SameBy id one.locations two.locations
  parameters : one.parameters = two.parameters
  baseState : one.baseState = two.baseState
  literal : one.literal = two.literal
  runtimeClass : one.runtimeClass = two.runtimeClass
  slot : one.slot = two.slot
  allocation : one.allocation = two.allocation
  note : one.note = two.note

instance : HasEquiv Taint := ⟨Equiv⟩

instance (one two : Taint) : Decidable (Equiv one two) :=
  decidable_of_iff
    (one.state = two.state ∧ one.tags = two.tags ∧ one.strippedTags = two.strippedTags ∧
      SameBy Source.key one.sources two.sources ∧ SameBy id one.locations two.locations ∧
      one.parameters = two.parameters ∧ one.baseState = two.baseState ∧
      one.literal = two.literal ∧ one.runtimeClass = two.runtimeClass ∧ one.slot = two.slot ∧
      one.allocation = two.allocation ∧ one.note = two.note)
    ⟨fun ⟨state, tags, strippedTags, sources, locations, parameters, baseState, literal,
        runtimeClass, slot, allocation, note⟩ =>
      ⟨state, tags, strippedTags, sources, locations, parameters, baseState, literal,
        runtimeClass, slot, allocation, note⟩,
    fun same =>
      ⟨same.state, same.tags, same.strippedTags, same.sources, same.locations, same.parameters,
        same.baseState, same.literal, same.runtimeClass, same.slot, same.allocation, same.note⟩⟩

instance (one two : Taint) : Decidable (one ≈ two) :=
  inferInstanceAs (Decidable (Equiv one two))

/-- Both values certainly refer to the same object. A value that is neither bound to a local nor traced
to where its object was created is never sure of that. -/
def SameObject (one two : Taint) : Prop :=
  (one.allocation.isSome ∨ one.slot.isSome) ∧ one ≈ two

instance (one two : Taint) : Decidable (SameObject one two) :=
  inferInstanceAs (Decidable (_ ∧ _))

/-! ### Showing facts -/

/-- A fact on one line: its state, its remark, its tags and the local it is bound to. -/
def text (taint : Taint) : String :=
  taint.state.name
    ++ taint.note.elim "" (" " ++ ·)
    ++ (if taint.tags.isEmpty then "" else " " ++ TagSet.text taint.tags)
    ++ taint.slot.elim "" (fun slot => " @" ++ toString slot)

end Taint

end TaintFlow
