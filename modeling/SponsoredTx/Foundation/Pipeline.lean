import SponsoredTx.Foundation.Runs

/-!
# Transactions with hooks around their bodies

A runtime does not execute the body of a transaction alone. It weighs the transaction, validates it,
prepares it, executes the body and settles it, and each of these hooks may fail or change the state.
`Hooks` is such a set of hooks over arbitrary types, `process` runs one transaction and
`processAll` a sequence. A transaction whose hooks fail is rejected and leaves no trace.

`process_cases` says once what can become of a transaction. A sequence is a run in the sense of
`Foundation.Runs` (`processAll_eq`), so the rules for runs hold of it.
-/

set_option autoImplicit false
set_option relaxedAutoImplicit false

namespace SponsoredTx.Foundation.Pipeline

open Runs

/-- The hooks around the body of a transaction: `Info` is what is known about it in advance, `Ctx`
what validation hands to the body, `Val` and `Pre` what the hooks hand to each other. -/
structure Hooks (Tx Info Validity Ctx Report Weight ε σ Val Pre : Type) where
  weigh : Tx → Info
  validate : Tx → Info → EStateM ε σ (Validity × Val × Ctx)
  prepare : Tx → Info → Ctx → Val → EStateM ε σ Pre
  settle : Tx → Info → Pre → Report → EStateM ε σ Weight

/-- What becomes of a transaction. -/
inductive Outcome (Validity Report Weight ε : Type)
  | rejected (e : ε)
  | included (validity : Validity) (report : Report) (unspent : Weight)

section Hooks

variable {Tx Info Validity Ctx Report Weight ε σ Val Pre : Type}

/-- Run one transaction with its hooks. -/
def process (hooks : Hooks Tx Info Validity Ctx Report Weight ε σ Val Pre)
    (body : Tx → Info → Ctx → σ → Report × σ) (s : σ) (tx : Tx) :
    Outcome Validity Report Weight ε × σ :=
  let info := hooks.weigh tx
  match hooks.validate tx info s with
  | .error e _ => (.rejected e, s)
  | .ok (validity, val, ctx) validated =>
    match hooks.prepare tx info ctx val validated with
    | .error e _ => (.rejected e, s)
    | .ok pre prepared =>
      let (report, executed) := body tx info ctx prepared
      match hooks.settle tx info pre report executed with
      | .error e _ => (.rejected e, s)
      | .ok unspent settled => (.included validity report unspent, settled)

/-- Run a sequence of transactions. -/
def processAll (hooks : Hooks Tx Info Validity Ctx Report Weight ε σ Val Pre)
    (body : Tx → Info → Ctx → σ → Report × σ) :
    σ → List Tx → List (Outcome Validity Report Weight ε) × σ
  | s, [] => ([], s)
  | s, tx :: rest =>
    let (outcome, next) := process hooks body s tx
    let (outcomes, final) := processAll hooks body next rest
    (outcome :: outcomes, final)

/-- A sequence of transactions is a sequence of steps. -/
theorem processAll_eq (hooks : Hooks Tx Info Validity Ctx Report Weight ε σ Val Pre)
    (body : Tx → Info → Ctx → σ → Report × σ) (s : σ) (txs : List Tx) :
    processAll hooks body s txs =
      (outputs (process hooks body) (fun _ ↦ true) s txs, runState (process hooks body) s txs) := by
  induction txs generalizing s with
  | nil => rfl
  | cons tx rest ih => simp only [processAll, outputs, runState, ih, if_true]

/-- A property that every transaction preserves is preserved by every sequence. -/
theorem processAll_invariant {hooks : Hooks Tx Info Validity Ctx Report Weight ε σ Val Pre}
    {body : Tx → Info → Ctx → σ → Report × σ} {P : σ → Prop} {txs : List Tx}
    (hpreserves : ∀ s, ∀ tx ∈ txs, P s → P (process hooks body s tx).2) {s : σ} (hinv : P s) :
    P (processAll hooks body s txs).2 := by
  rw [processAll_eq]
  exact runState_invariant hpreserves hinv

section Process

variable (hooks : Hooks Tx Info Validity Ctx Report Weight ε σ Val Pre)
  (body : Tx → Info → Ctx → σ → Report × σ) {s : σ} {tx : Tx}

/-- A transaction that is not valid is rejected. -/
theorem process_of_invalid {e : ε} {s' : σ}
    (hvalidate : hooks.validate tx (hooks.weigh tx) s = .error e s') :
    process hooks body s tx = (.rejected e, s) := by
  simp only [process, hvalidate]

/-- A transaction that goes through its hooks is included. -/
theorem process_of_settled {validity : Validity} {val : Val} {ctx : Ctx} {pre : Pre}
    {unspent : Weight} {validated prepared settled : σ}
    (hvalidate : hooks.validate tx (hooks.weigh tx) s = .ok (validity, val, ctx) validated)
    (hprepare : hooks.prepare tx (hooks.weigh tx) ctx val validated = .ok pre prepared)
    (hsettle : hooks.settle tx (hooks.weigh tx) pre (body tx (hooks.weigh tx) ctx prepared).1
      (body tx (hooks.weigh tx) ctx prepared).2 = .ok unspent settled) :
    process hooks body s tx =
      (.included validity (body tx (hooks.weigh tx) ctx prepared).1 unspent, settled) := by
  simp only [process, hvalidate, hprepare, hsettle]

end Process

/-- A transaction is rejected without a trace, or it is included and went through its hooks. -/
theorem process_cases (hooks : Hooks Tx Info Validity Ctx Report Weight ε σ Val Pre)
    (body : Tx → Info → Ctx → σ → Report × σ) (s : σ) (tx : Tx) :
    (∃ e, process hooks body s tx = (.rejected e, s)) ∨
    ∃ validity val ctx validated pre prepared unspent settled,
      hooks.validate tx (hooks.weigh tx) s = .ok (validity, val, ctx) validated ∧
      hooks.prepare tx (hooks.weigh tx) ctx val validated = .ok pre prepared ∧
      hooks.settle tx (hooks.weigh tx) pre (body tx (hooks.weigh tx) ctx prepared).1
        (body tx (hooks.weigh tx) ctx prepared).2 = .ok unspent settled ∧
      process hooks body s tx =
        (.included validity (body tx (hooks.weigh tx) ctx prepared).1 unspent, settled) := by
  cases hvalidate : hooks.validate tx (hooks.weigh tx) s with
  | error e _ => exact Or.inl ⟨e, process_of_invalid hooks body hvalidate⟩
  | ok found validated =>
    obtain ⟨validity, val, ctx⟩ := found
    cases hprepare : hooks.prepare tx (hooks.weigh tx) ctx val validated with
    | error e _ =>
      refine Or.inl ⟨e, ?_⟩
      simp only [process, hvalidate, hprepare]
    | ok pre prepared =>
      cases hsettle : hooks.settle tx (hooks.weigh tx) pre
          (body tx (hooks.weigh tx) ctx prepared).1 (body tx (hooks.weigh tx) ctx prepared).2 with
      | error e _ =>
        refine Or.inl ⟨e, ?_⟩
        simp only [process, hvalidate, hprepare, hsettle]
      | ok unspent settled =>
        exact Or.inr ⟨validity, val, ctx, validated, pre, prepared, unspent, settled, rfl,
          hprepare, hsettle, process_of_settled hooks body hvalidate hprepare hsettle⟩

end Hooks

end SponsoredTx.Foundation.Pipeline
