/-
Module: TaintFlow.Taint.Join
Purpose: Combine the facts that reach one point on several ways, or that one operation consumes. The
  more dangerous state wins, provenance accumulates, and what the value is known to be survives
  only where both sides agree.
Main exports: Taint.join, Taint.concat, Taint.combine, Taint.absorb
-/
import TaintFlow.Taint.Basic

namespace TaintFlow

/-- What two sides agree on, and nothing where they differ. -/
def agreed {α : Type} [DecidableEq α] (one two : Option α) : Option α :=
  if one = two then one else none

@[simp] theorem agreed_self {α : Type} [DecidableEq α] (one : Option α) : agreed one one = one := by
  simp [agreed]

theorem agreed_comm {α : Type} [DecidableEq α] (one two : Option α) :
    agreed one two = agreed two one := by
  unfold agreed
  split <;> split <;> simp_all

theorem agreed_assoc {α : Type} [DecidableEq α] (one two three : Option α) :
    agreed (agreed one two) three = agreed one (agreed two three) := by
  grind [agreed]

namespace Taint

/-- The state that a value adds to the result of a call whatever the arguments are. A value that no
argument flows into adds its whole state. -/
def contribution (taint : Taint) : State :=
  if taint.isParametric then taint.baseState else taint.state

/-- Combine two facts. Tags survive only between two safe values: on anything else they would vouch
for a part of the value that they do not cover. -/
def join (one two : Taint) : Taint :=
  let state := one.state.merge two.state
  let parameters := one.parameters ∪ two.parameters
  { state
    tags := if state = .safe then one.tags ∪ two.tags else ∅
    strippedTags := one.strippedTags ∪ two.strippedTags
    sources := recordAll Source.key one.sources two.sources
    locations := recordAll id one.locations two.locations
    parameters
    baseState :=
      if parameters.isEmpty then one.baseState.merge two.baseState
      else one.contribution.merge two.contribution
    literal := agreed one.literal two.literal
    runtimeClass := agreed one.runtimeClass two.runtimeClass
    slot := agreed one.slot two.slot
    allocation := agreed one.allocation two.allocation
    note := agreed one.note two.note
    sourcesDistinct := nodup_keys_recordAll one.sourcesDistinct
    locationsDistinct := nodup_keys_recordAll one.locationsDistinct }

/-- Combine the facts of two texts that are put one after the other: two known literals make a known
literal. -/
def concat (one two : Taint) : Taint :=
  let joined := one.join two
  match one.literal, two.literal with
  | some left, some right => { joined with literal := some (left ++ right) }
  | _, _ => joined

/-- Combine what may be known on two sides; nothing known on one side leaves the other as it is. -/
def combine : Option Taint → Option Taint → Option Taint
  | none, two => two
  | one, none => one
  | some one, some two => some (one.join two)

/-- The second fact adds nothing to the first one. -/
def Absorbs (one two : Taint) : Prop :=
  one.join two ≈ one

instance (one two : Taint) : Decidable (Absorbs one two) :=
  inferInstanceAs (Decidable (_ ≈ _))

/-- A fact after another one has met it. A fact to which nothing is added stays as it is, down to the
order of its provenance. -/
def absorb (one two : Taint) : Taint :=
  if one.Absorbs two then one else one.join two

@[simp] theorem state_join (one two : Taint) :
    (one.join two).state = one.state.merge two.state := rfl

@[simp] theorem state_concat (one two : Taint) :
    (one.concat two).state = one.state.merge two.state := by
  unfold concat
  split <;> rfl

end Taint

end TaintFlow
