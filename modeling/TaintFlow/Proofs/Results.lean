/-
Module: TaintFlow.Proofs.Results
Purpose: Take computations that may fail apart: what a success says about the parts, how two computations
  compare, and which faults a computation can end with.
Main exports: bind_eq_ok_iff, mapError_eq_ok_iff, foldlM_keeps, Lockstep, Raises
-/
import TaintFlow.Trace.Traced

namespace TaintFlow

variable {ε ε' α β : Type}

/-- A sequence succeeds exactly if its parts do. -/
theorem bind_eq_ok_iff {first : Except ε α} {next : α → Except ε β} {result : β} :
    (first >>= next) = .ok result ↔ ∃ value, first = .ok value ∧ next value = .ok result := by
  cases first with
  | error problem => simp [bind, Except.bind]
  | ok value => simp [bind, Except.bind]

theorem pure_eq_ok_iff {value result : α} :
    (pure value : Except ε α) = .ok result ↔ value = result := by
  simp [pure, Except.pure]

@[simp] theorem mapError_ok (widen : ε → ε') (value : α) :
    (Except.ok value).mapError widen = .ok value := rfl

@[simp] theorem mapError_error (widen : ε → ε') (problem : ε) :
    (Except.error problem : Except ε α).mapError widen = .error (widen problem) := rfl

/-- Putting a problem into a wider frame does not touch a success. -/
theorem mapError_eq_ok_iff {computation : Except ε α} {widen : ε → ε'} {value : α} :
    computation.mapError widen = .ok value ↔ computation = .ok value := by
  cases computation <;> simp

theorem toOption_eq_some_iff {computation : Except ε α} {value : α} :
    computation.toOption = some value ↔ computation = .ok value := by
  cases computation <;> simp [Except.toOption]

/-- What every round of a loop keeps, the loop keeps. -/
theorem foldlM_keeps_of_mem {step : β → α → Except ε β} {start result : β} {items : List α}
    (keeps : β → Prop)
    (each : ∀ value item next, item ∈ items → keeps value → step value item = .ok next → keeps next)
    (begun : keeps start) (looped : items.foldlM step start = .ok result) : keeps result := by
  induction items generalizing start with
  | nil =>
      cases looped
      exact begun
  | cons item later inductionHypothesis =>
      rw [List.foldlM_cons, bind_eq_ok_iff] at looped
      obtain ⟨next, stepped, rest⟩ := looped
      have kept := each start item next List.mem_cons_self begun stepped
      refine inductionHypothesis ?_ kept rest
      exact fun value other after member => each value other after (List.mem_cons_of_mem item member)

theorem foldlM_keeps {step : β → α → Except ε β} {start result : β} {items : List α}
    (keeps : β → Prop) (each : ∀ value item next, keeps value → step value item = .ok next → keeps next)
    (begun : keeps start) (looped : items.foldlM step start = .ok result) : keeps result :=
  foldlM_keeps_of_mem keeps (fun value item next _ => each value item next) begun looped

/-! ### Two computations side by side -/

section Lockstep

variable {γ δ : Type} {related : α → β → Prop} {related' : γ → δ → Prop}

/-- Two computations go in lockstep: they fail with the same problem, or both succeed, with values that
are related. -/
inductive Lockstep (related : α → β → Prop) : Except ε α → Except ε β → Prop where
  | ok {value : α} {value' : β} (values : related value value') :
      Lockstep related (.ok value) (.ok value')
  | error (problem : ε) : Lockstep related (.error problem) (.error problem)

/-- A computation goes in lockstep with itself. -/
theorem lockstep_self (computation : Except ε α) : Lockstep (· = ·) computation computation := by
  cases computation with
  | error problem => exact .error problem
  | ok value => exact .ok rfl

variable {first : Except ε α} {first' : Except ε β} {next : α → Except ε γ} {next' : β → Except ε δ}

/-- Where both computations succeed, their values are related. -/
theorem Lockstep.of_eq_ok {value : α} {value' : β} (lockstep : Lockstep related first first')
    (ended : first = .ok value) (ended' : first' = .ok value') : related value value' := by
  subst ended
  subst ended'
  cases lockstep with
  | ok values => exact values

/-- The second parts of two sequences only have to be looked at where the first ones succeed. -/
theorem Lockstep.bind_of_eq_ok (head : Lockstep related first first')
    (tail : ∀ value value', first = .ok value → first' = .ok value' → related value value' →
      Lockstep related' (next value) (next' value')) :
    Lockstep related' (first >>= next) (first' >>= next') := by
  cases head with
  | error problem => exact .error problem
  | ok values => exact tail _ _ rfl rfl values

theorem Lockstep.bind (head : Lockstep related first first')
    (tail : ∀ value value', related value value' → Lockstep related' (next value) (next' value')) :
    Lockstep related' (first >>= next) (first' >>= next') :=
  head.bind_of_eq_ok fun value value' _ _ => tail value value'

/-- Two loops over the same items go in lockstep if their rounds do. -/
theorem lockstep_foldlM {ι : Type} {step : α → ι → Except ε α} {step' : β → ι → Except ε β}
    {start : α} {start' : β} {items : List ι}
    (each : ∀ item value value', related value value' →
      Lockstep related (step value item) (step' value' item))
    (begun : related start start') :
    Lockstep related (items.foldlM step start) (items.foldlM step' start') := by
  induction items generalizing start start' with
  | nil => exact .ok begun
  | cons item later inductionHypothesis =>
      rw [List.foldlM_cons, List.foldlM_cons]
      exact (each item start start' begun).bind fun value value' values => inductionHypothesis values

theorem lockstep_result_bind_of_eq_ok {first : Traced ε α} {first' : Traced ε β} {next : α → Traced ε γ}
    {next' : β → Traced ε δ} (head : Lockstep related first.result first'.result)
    (tail : ∀ value value', first.result = .ok value → first'.result = .ok value' →
      related value value' → Lockstep related' (next value).result (next' value').result) :
    Lockstep related' (first >>= next).result (first' >>= next').result := by
  rw [Traced.result_bind, Traced.result_bind]
  exact head.bind_of_eq_ok tail

theorem lockstep_result_bind {first : Traced ε α} {first' : Traced ε β} {next : α → Traced ε γ}
    {next' : β → Traced ε δ} (head : Lockstep related first.result first'.result)
    (tail : ∀ value value', related value value' →
      Lockstep related' (next value).result (next' value').result) :
    Lockstep related' (first >>= next).result (first' >>= next').result :=
  lockstep_result_bind_of_eq_ok head fun value value' _ _ => tail value value'

theorem lockstep_result_foldlM {ι : Type} {step : α → ι → Traced ε α} {step' : β → ι → Traced ε β}
    {start : α} {start' : β} {items : List ι}
    (each : ∀ item value value', related value value' →
      Lockstep related (step value item).result (step' value' item).result)
    (begun : related start start') :
    Lockstep related (items.foldlM step start).result (items.foldlM step' start').result := by
  rw [Traced.result_foldlM, Traced.result_foldlM]
  exact lockstep_foldlM each begun

end Lockstep

/-! ### Problems -/

/-- If the computation fails, then with an allowed problem. -/
def Raises (allowed : ε → Prop) (computation : Except ε α) : Prop :=
  ∀ problem, computation = .error problem → allowed problem

variable {allowed : ε → Prop}

theorem raises_ok (value : α) : Raises allowed (.ok value) := by
  intro problem failed
  cases failed

theorem raises_error {problem : ε} (isAllowed : allowed problem) :
    Raises allowed (.error problem : Except ε α) := by
  intro other failed
  cases failed
  exact isAllowed

theorem Raises.imp {allowed' : ε → Prop} {computation : Except ε α} (raises : Raises allowed computation)
    (implies : ∀ problem, allowed problem → allowed' problem) : Raises allowed' computation :=
  fun problem failed => implies problem (raises problem failed)

/-- The second part of a sequence only has to be looked at where the first one succeeds. -/
theorem Raises.bind_of_eq_ok {first : Except ε α} {next : α → Except ε β} (head : Raises allowed first)
    (tail : ∀ value, first = .ok value → Raises allowed (next value)) :
    Raises allowed (first >>= next) := by
  cases first with
  | error problem => exact raises_error (head problem rfl)
  | ok value => exact tail value rfl

theorem Raises.bind {first : Except ε α} {next : α → Except ε β} (head : Raises allowed first)
    (tail : ∀ value, Raises allowed (next value)) : Raises allowed (first >>= next) :=
  head.bind_of_eq_ok fun value _ => tail value

/-- A loop fails as its rounds do, each of which may rely on what the rounds before it have kept. -/
theorem Raises.foldlM_of_keeps {step : β → α → Except ε β} {start : β} {items : List α}
    (keeps : β → Prop) (each : ∀ value item, keeps value → Raises allowed (step value item))
    (kept : ∀ value item next, keeps value → step value item = .ok next → keeps next)
    (begun : keeps start) : Raises allowed (items.foldlM step start) := by
  induction items generalizing start with
  | nil => exact raises_ok start
  | cons item later inductionHypothesis =>
      rw [List.foldlM_cons]
      exact (each start item begun).bind_of_eq_ok fun next stepped =>
        inductionHypothesis (kept start item next begun stepped)

theorem Raises.foldlM {step : β → α → Except ε β} {start : β} {items : List α}
    (each : ∀ value item, Raises allowed (step value item)) :
    Raises allowed (items.foldlM step start) :=
  foldlM_of_keeps (fun _ => True) (fun value item _ => each value item) (fun _ _ _ _ _ => trivial)
    trivial

theorem Raises.mapError {computation : Except ε α} {widen : ε → ε'} {allowed' : ε' → Prop}
    (raises : Raises allowed computation)
    (widens : ∀ problem, allowed problem → allowed' (widen problem)) :
    Raises allowed' (computation.mapError widen) := by
  cases computation with
  | error problem => exact raises_error (widens problem (raises problem rfl))
  | ok value => exact raises_ok value

theorem raises_result_bind {first : Traced ε α} {next : α → Traced ε β}
    (head : Raises allowed first.result) (tail : ∀ value, Raises allowed (next value).result) :
    Raises allowed (first >>= next).result := by
  rw [Traced.result_bind]
  exact head.bind tail

theorem raises_result_foldlM {step : β → α → Traced ε β} {start : β} {items : List α}
    (each : ∀ value item, Raises allowed (step value item).result) :
    Raises allowed (items.foldlM step start).result := by
  rw [Traced.result_foldlM]
  exact Raises.foldlM each

end TaintFlow
