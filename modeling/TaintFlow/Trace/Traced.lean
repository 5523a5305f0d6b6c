/-
Module: TaintFlow.Trace.Traced
Purpose: Computations that may fail and that give notices as they go, also before they fail. Notices
  have no influence on results: taking the result is a map of monads, so that every statement about
  results can forget about notices.
Main exports: Traced, Traced.give, Traced.result_bind
-/
import TaintFlow.Trace.Notice

namespace TaintFlow

/-- The notices of a computation in the order in which they were given, and what came out of it. -/
structure Traced (ε α : Type) where
  notices : List Notice
  result : Except ε α

namespace Traced

variable {ε ε' α β : Type}

instance : Monad (Traced ε) where
  pure value := ⟨[], .ok value⟩
  bind first next :=
    match first.result with
    | .ok value =>
        let second := next value
        ⟨first.notices ++ second.notices, second.result⟩
    | .error problem => ⟨first.notices, .error problem⟩

/-- Fail. -/
def fail (problem : ε) : Traced ε α :=
  ⟨[], .error problem⟩

/-- Give notices. -/
def giveAll (notices : List Notice) : Traced ε Unit :=
  ⟨notices, .ok ()⟩

/-- Give a notice. -/
def give (notice : Notice) : Traced ε Unit :=
  giveAll [notice]

/-- Give a notice if there is a reason to. -/
def giveIf (wanted : Bool) (notice : Notice) : Traced ε Unit :=
  giveAll (if wanted then [notice] else [])

/-- A computation that has nothing to say. -/
def silently (result : Except ε α) : Traced ε α :=
  ⟨[], result⟩

instance : MonadLift (Except ε) (Traced ε) := ⟨silently⟩

/-- Put a problem into a wider frame. -/
def mapError (widen : ε → ε') (computation : Traced ε α) : Traced ε' α :=
  ⟨computation.notices, computation.result.mapError widen⟩

/-! ### Results without notices -/

@[ext] theorem ext {one two : Traced ε α} (notices : one.notices = two.notices)
    (result : one.result = two.result) : one = two := by
  cases one; cases two; simp_all

@[simp] theorem result_pure (value : α) : (pure value : Traced ε α).result = .ok value := rfl

@[simp] theorem result_bind (first : Traced ε α) (next : α → Traced ε β) :
    (first >>= next).result = first.result >>= fun value => (next value).result := by
  obtain ⟨notices, result⟩ := first
  cases result <;> rfl

@[simp] theorem result_map (change : α → β) (computation : Traced ε α) :
    (change <$> computation).result = change <$> computation.result := by
  obtain ⟨notices, result⟩ := computation
  cases result <;> rfl

@[simp] theorem result_fail (problem : ε) : (fail problem : Traced ε α).result = .error problem := rfl

@[simp] theorem result_giveAll (notices : List Notice) :
    (giveAll notices : Traced ε Unit).result = .ok () := rfl

@[simp] theorem result_give (notice : Notice) : (give notice : Traced ε Unit).result = .ok () := rfl

@[simp] theorem result_giveIf (wanted : Bool) (notice : Notice) :
    (giveIf wanted notice : Traced ε Unit).result = .ok () := rfl

@[simp] theorem result_silently (result : Except ε α) : (silently result).result = result := rfl

@[simp] theorem result_liftM (result : Except ε α) :
    (liftM result : Traced ε α).result = result := rfl

@[simp] theorem result_monadLift (result : Except ε α) :
    (MonadLift.monadLift result : Traced ε α).result = result := rfl

@[simp] theorem result_mapError (widen : ε → ε') (computation : Traced ε α) :
    (computation.mapError widen).result = computation.result.mapError widen := rfl

/-- The result of a loop is the loop over the results. -/
@[simp] theorem result_foldlM (step : β → α → Traced ε β) (start : β) (items : List α) :
    (items.foldlM step start).result =
      items.foldlM (fun value item => (step value item).result) start := by
  induction items generalizing start with
  | nil => rfl
  | cons item later inductionHypothesis =>
      simp only [List.foldlM_cons, result_bind, inductionHypothesis]

instance : LawfulMonad (Traced ε) := LawfulMonad.mk' _
  (by
    intro α computation
    obtain ⟨notices, result⟩ := computation
    cases result <;> simp [Functor.map])
  (by
    intro α β value next
    rfl)
  (by
    intro α β γ first second third
    obtain ⟨notices, result⟩ := first
    cases result with
    | error problem => rfl
    | ok value =>
        simp only [bind]
        cases (second value).result <;> simp)

/-! ### Computations that have nothing to say -/

theorem silently_bind (first : Except ε α) (next : α → Except ε β) :
    silently (first >>= next) = silently first >>= fun value => silently (next value) := by
  cases first <;> rfl

theorem silently_map (change : α → β) (computation : Except ε α) :
    silently (change <$> computation) = change <$> silently computation := by
  cases computation <;> rfl

theorem liftM_eq_silently (computation : Except ε α) :
    (liftM computation : Traced ε α) = silently computation := rfl

end Traced

end TaintFlow
