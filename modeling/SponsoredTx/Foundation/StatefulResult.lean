import Mathlib.Tactic.Common

/-!
# Fallible computations that keep their state when they fail

A call of a stateful program either returns a value or an error, and in both cases it leaves a
state behind. `EStateM ε σ α` is that shape: the error constructor carries a state too, so writes
made before a failure stay visible and atomicity has to be proved. This module collects the rules
by which such a computation is executed step by step (`bind_ok`, `bind_error`, `bind_ensure_of`,
`bind_ensure_of_not`), the final state of a result whichever way it ended (`finalState`), and two
ways of embedding a computation: on a component of a larger state (`onPart`) and under a
translation of its errors (`mapError`). `Preserves` is the rule for what neither a success nor a
failure changes, with one lemma for each way of building a computation.
-/

set_option autoImplicit false
set_option relaxedAutoImplicit false

namespace SponsoredTx.Foundation.StatefulResult

universe u

variable {ε ε' σ τ α β : Type u}

/-! ### Executing a computation step by step -/

/-- The state a computation leaves behind, whether it returned a value or an error. -/
def finalState : EStateM.Result ε σ α → σ
  | .ok _ s => s
  | .error _ s => s

@[simp] theorem finalState_ok (a : α) (s : σ) :
    finalState (.ok a s : EStateM.Result ε σ α) = s := rfl

@[simp] theorem finalState_error (e : ε) (s : σ) :
    finalState (.error e s : EStateM.Result ε σ α) = s := rfl

/-- A computation whose first part returns continues from the value and the state returned. -/
theorem bind_ok {x : EStateM ε σ α} {f : α → EStateM ε σ β} {s s' : σ} {a : α}
    (hx : x s = .ok a s') : (x >>= f) s = f a s' := by
  change EStateM.bind x f s = f a s'
  simp only [EStateM.bind, hx]

/-- A computation whose first part fails fails with the same error and leaves its state. -/
theorem bind_error {x : EStateM ε σ α} {f : α → EStateM ε σ β} {s s' : σ} {e : ε}
    (hx : x s = .error e s') : (x >>= f) s = .error e s' := by
  change EStateM.bind x f s = .error e s'
  simp only [EStateM.bind, hx]

/-- A computation that returns went through its first part. -/
theorem bind_eq_ok_iff {x : EStateM ε σ α} {f : α → EStateM ε σ β} {s s' : σ} {b : β} :
    (x >>= f) s = .ok b s' ↔ ∃ a middle, x s = .ok a middle ∧ f a middle = .ok b s' := by
  constructor
  · intro hrun
    cases hx : x s with
    | ok a middle => exact ⟨a, middle, rfl, (bind_ok hx).symm.trans hrun⟩
    | error e middle =>
      rw [bind_error hx] at hrun
      cases hrun
  · rintro ⟨a, middle, hx, hf⟩
    rw [bind_ok hx, hf]

@[simp] theorem pure_run (a : α) (s : σ) : (pure a : EStateM ε σ α) s = .ok a s := rfl

@[simp] theorem throw_run (e : ε) (s : σ) : (throw e : EStateM ε σ α) s = .error e s := rfl

/-- Reading the state returns it and leaves it as it is. -/
theorem bind_get (f : σ → EStateM ε σ β) (s : σ) : (get >>= f) s = f s s := rfl

@[simp] theorem modify_run (g : σ → σ) (s : σ) :
    (modify g : EStateM ε σ PUnit) s = .ok ⟨⟩ (g s) := rfl

/-! ### Guards -/

/-- The guard of a call: continue when the condition holds, fail with the given error when it does
not. -/
def ensure (condition : Prop) [Decidable condition] (e : ε) : EStateM ε σ PUnit :=
  if condition then pure ⟨⟩ else throw e

/-- A guard whose condition holds is passed without a trace. -/
theorem bind_ensure_of {condition : Prop} [Decidable condition] (hcondition : condition) (e : ε)
    (f : PUnit → EStateM ε σ β) (s : σ) : (ensure condition e >>= f) s = f ⟨⟩ s := by
  refine bind_ok ?_
  simp only [ensure, if_pos hcondition, pure_run]

/-- A guard whose condition fails ends the call with its error and the state as it is. -/
theorem bind_ensure_of_not {condition : Prop} [Decidable condition] (hcondition : ¬ condition)
    (e : ε) (f : PUnit → EStateM ε σ β) (s : σ) :
    (ensure condition e >>= f) s = .error e s := by
  refine bind_error ?_
  simp only [ensure, if_neg hcondition, throw_run]

/-! ### Embedding a computation -/

/-- A computation on one component of a larger state: `part` reads the component and `setPart`
writes it back, also when the computation fails. -/
def onPart (part : σ → τ) (setPart : τ → σ → σ) (x : EStateM ε τ α) : EStateM ε σ α := fun s ↦
  match x (part s) with
  | .ok a t => .ok a (setPart t s)
  | .error e t => .error e (setPart t s)

theorem onPart_ok {part : σ → τ} {setPart : τ → σ → σ} {x : EStateM ε τ α} {s : σ} {a : α}
    {t : τ} (hx : x (part s) = .ok a t) : onPart part setPart x s = .ok a (setPart t s) := by
  simp only [onPart, hx]

theorem onPart_error {part : σ → τ} {setPart : τ → σ → σ} {x : EStateM ε τ α} {s : σ} {e : ε}
    {t : τ} (hx : x (part s) = .error e t) :
    onPart part setPart x s = .error e (setPart t s) := by
  simp only [onPart, hx]

/-- A computation on a component returns exactly if it does so on the component alone. -/
theorem onPart_eq_ok_iff {part : σ → τ} {setPart : τ → σ → σ} {x : EStateM ε τ α} {s s' : σ}
    {a : α} : onPart part setPart x s = .ok a s' ↔
      ∃ t, x (part s) = .ok a t ∧ s' = setPart t s := by
  constructor
  · intro hrun
    cases hx : x (part s) with
    | ok b t =>
      rw [onPart_ok hx] at hrun
      cases hrun
      exact ⟨t, rfl, rfl⟩
    | error e t =>
      rw [onPart_error hx] at hrun
      cases hrun
  · rintro ⟨t, hx, rfl⟩
    exact onPart_ok hx

/-- The same computation with its errors translated. -/
def mapError (f : ε → ε') (x : EStateM ε σ α) : EStateM ε' σ α := fun s ↦
  match x s with
  | .ok a s' => .ok a s'
  | .error e s' => .error (f e) s'

theorem mapError_ok {f : ε → ε'} {x : EStateM ε σ α} {s s' : σ} {a : α}
    (hx : x s = .ok a s') : mapError f x s = .ok a s' := by
  simp only [mapError, hx]

theorem mapError_error {f : ε → ε'} {x : EStateM ε σ α} {s s' : σ} {e : ε}
    (hx : x s = .error e s') : mapError f x s = .error (f e) s' := by
  simp only [mapError, hx]

/-! ### What a computation preserves -/

/-- A property of the state that a computation keeps, whether it returns a value or an error. -/
def Preserves (P : σ → Prop) (x : EStateM ε σ α) : Prop :=
  ∀ s, P s → P (finalState (x s))

namespace Preserves

variable {P : σ → Prop}

protected theorem pure (a : α) : Preserves P (pure a : EStateM ε σ α) :=
  fun _ hs ↦ hs

protected theorem throw (e : ε) : Preserves P (throw e : EStateM ε σ α) :=
  fun _ hs ↦ hs

protected theorem get : Preserves P (get : EStateM ε σ σ) :=
  fun _ hs ↦ hs

protected theorem modify {g : σ → σ} (hg : ∀ s, P s → P (g s)) :
    Preserves P (modify g : EStateM ε σ PUnit) :=
  hg

/-- What both parts of a computation keep, the computation keeps. -/
protected theorem bind {x : EStateM ε σ α} {f : α → EStateM ε σ β} (hx : Preserves P x)
    (hf : ∀ a, Preserves P (f a)) : Preserves P (x >>= f) := by
  intro s hs
  have hfirst := hx s hs
  cases hrun : x s with
  | ok a s' =>
    rw [hrun, finalState_ok] at hfirst
    rw [bind_ok hrun]
    exact hf a s' hfirst
  | error e s' =>
    rw [hrun, finalState_error] at hfirst
    rw [bind_error hrun]
    exact hfirst

/-- A guard keeps every property. -/
protected theorem ensure (condition : Prop) [Decidable condition] (e : ε) :
    Preserves P (ensure condition e : EStateM ε σ PUnit) := by
  intro s hs
  by_cases hcondition : condition
  · simp only [StatefulResult.ensure, if_pos hcondition, pure_run, finalState_ok]
    exact hs
  · simp only [StatefulResult.ensure, if_neg hcondition, throw_run, finalState_error]
    exact hs

/-- A computation on a component keeps what does not depend on the component. -/
protected theorem onPart {part : σ → τ} {setPart : τ → σ → σ}
    (hset : ∀ t s, P s → P (setPart t s)) (x : EStateM ε τ α) :
    Preserves P (onPart part setPart x) := by
  intro s hs
  cases hrun : x (part s) with
  | ok a t =>
    rw [onPart_ok hrun]
    exact hset t s hs
  | error e t =>
    rw [onPart_error hrun]
    exact hset t s hs

end Preserves

end SponsoredTx.Foundation.StatefulResult
