/-
Module: TaintFlow.Taint.State
Purpose: How far a value is trusted. The states form a chain, and merging two of them keeps the
  more dangerous one.
Main exports: State, State.danger, State.merge
-/

namespace TaintFlow

/-- How far a value is trusted, from harmless to contradictory. -/
inductive State where
  /-- Known not to carry data that an attacker controls. -/
  | safe
  /-- Known to be the null reference. -/
  | null
  /-- Nothing is known. -/
  | unknown
  /-- Known to carry data that an attacker controls. -/
  | tainted
  /-- Made from facts that contradict each other; absorbs whatever it is merged with. -/
  | invalid
deriving Repr, Inhabited, DecidableEq

namespace State

/-- The place of a state in the chain. -/
def danger : State → Nat
  | safe => 0
  | null => 1
  | unknown => 2
  | tainted => 3
  | invalid => 4

/-- A state is at most another one when it is no more dangerous. -/
instance : LE State := ⟨fun one two => one.danger ≤ two.danger⟩

instance : LT State := ⟨fun one two => one.danger < two.danger⟩

instance (one two : State) : Decidable (one ≤ two) :=
  inferInstanceAs (Decidable (one.danger ≤ two.danger))

instance (one two : State) : Decidable (one < two) :=
  inferInstanceAs (Decidable (one.danger < two.danger))

instance : Ord State := ⟨fun one two => compare one.danger two.danger⟩

/-- The more dangerous of two states. -/
def merge (one two : State) : State :=
  if two ≤ one then one else two

/-- The name under which a state is shown. -/
def name : State → String
  | safe => "Safe"
  | null => "Null"
  | unknown => "Unknown"
  | tainted => "Tainted"
  | invalid => "Invalid"

/-! ### The chain and its merge -/

theorem le_def {one two : State} : one ≤ two ↔ one.danger ≤ two.danger := Iff.rfl

theorem danger_inj {one two : State} (same : one.danger = two.danger) : one = two := by
  cases one <;> cases two <;> simp_all [danger]

@[simp] theorem danger_merge (one two : State) :
    (one.merge two).danger = max one.danger two.danger := by
  unfold merge
  split <;> rename_i order <;> rw [le_def] at order <;> omega

protected theorem le_refl (one : State) : one ≤ one := Nat.le_refl _

protected theorem le_trans {one two three : State} (first : one ≤ two) (second : two ≤ three) :
    one ≤ three := Nat.le_trans first second

protected theorem le_antisymm {one two : State} (first : one ≤ two) (second : two ≤ one) :
    one = two := danger_inj (Nat.le_antisymm first second)

@[simp] theorem merge_self (one : State) : one.merge one = one := by
  simp [merge]

theorem merge_comm (one two : State) : one.merge two = two.merge one :=
  danger_inj (by simp [Nat.max_comm])

theorem merge_assoc (one two three : State) :
    (one.merge two).merge three = one.merge (two.merge three) :=
  danger_inj (by simp [Nat.max_assoc])

@[simp] theorem safe_merge (one : State) : safe.merge one = one := by
  cases one <;> rfl

@[simp] theorem merge_safe (one : State) : one.merge safe = one := by
  cases one <;> rfl

theorem le_merge_left (one two : State) : one ≤ one.merge two := by
  rw [le_def, danger_merge]; omega

theorem le_merge_right (one two : State) : two ≤ one.merge two := by
  rw [le_def, danger_merge]; omega

/-- Merging is the least upper bound of the chain. -/
theorem merge_le_iff {one two bound : State} :
    one.merge two ≤ bound ↔ one ≤ bound ∧ two ≤ bound := by
  simp only [le_def, danger_merge]; omega

end State

end TaintFlow
