import Mathlib.Data.Fintype.Basic
import SponsoredTx.Foundation.HoldLedger

/-!
# The sponsor lifecycle of `pallets/sponsored-tx/src/lib.rs`

The data types of `types.rs` and of the pallet declaration (`SponsorPolicy`, `SponsorState`,
`HoldReason`, `Event`, `Error`), the state the pallet works on (`PalletState`), the seven
dispatchables in the order of their call indices (`registerSponsor`, `increaseBudget`,
`decreaseBudget`, `setPolicy`, `pause`, `resume`, `unregister`), and the helpers of the pallet's
inner `impl` block (`budgetOnHold`, `pendingOnHold`, `moveBudgetToPending`,
`restorePendingToBudget`, `ensureValidPolicy`).

Every fallible function is an `EStateM` computation: a failure keeps the writes made before it, as
it does in the runtime without a storage layer around the call. The balances pallet is the parameter
`balances`. Balances are natural numbers: the runtime's `u128` never overflows, because every amount
is part of a total issuance that fits.

`log::error!` lines are recorded in `PalletState.log` and the credits handed to
`Config::FeeDestination` in `PalletState.routed`, so that "only logged" and "routed" are statements
about the model. Weights of the dispatchables and the storage hasher are left out: no function here
reads them.
-/

set_option autoImplicit false
set_option relaxedAutoImplicit false

namespace SponsoredTx.Pallet

open Foundation.StatefulResult Foundation.HoldLedger

/-! ### Types -/

/-- `HoldReason`: the two reasons for which the pallet holds balance on a sponsor account. -/
inductive HoldReason
  | sponsorshipBudget
  | sponsorshipPending
  deriving DecidableEq, Repr

instance : Fintype HoldReason where
  elems := {.sponsorshipBudget, .sponsorshipPending}
  complete := fun reason ↦ by cases reason <;> decide

/-- `BoundedVec<T, S>`: a list that carries the proof of its length bound. -/
structure BoundedVec (α : Type) (bound : ℕ) where
  toList : List α
  length_le : toList.length ≤ bound
  deriving DecidableEq

/-- `SponsorPolicy`: who may use the sponsor, and how much one transaction may cost with its tip. -/
structure SponsorPolicy (Account : Type) (maxAllowedCallers : ℕ) where
  allowedCallers : BoundedVec Account maxAllowedCallers
  maxFeePerTx : ℕ
  deriving DecidableEq

/-- `SponsorState`: the stored entry of a sponsor. -/
structure SponsorState (Account : Type) (maxAllowedCallers : ℕ) where
  active : Bool
  policy : SponsorPolicy Account maxAllowedCallers
  deriving DecidableEq

/-- `Event`: the events of the pallet. -/
inductive Event (Account : Type)
  | sponsorRegistered (sponsor : Account) (initialBudget : ℕ)
  | budgetIncreased (sponsor : Account) (amount newBudget : ℕ)
  | budgetDecreased (sponsor : Account) (amount newBudget : ℕ)
  | sponsorPolicyUpdated (sponsor : Account)
  | sponsorPaused (sponsor : Account)
  | sponsorResumed (sponsor : Account)
  | sponsorUnregistered (sponsor : Account)
  | sponsoredTransactionFeePaid (sponsor signer : Account) (actualFee tip : ℕ)
  deriving DecidableEq, Repr

/-- The sponsor an event is about. -/
def Event.sponsor {Account : Type} : Event Account → Account
  | .sponsorRegistered sponsor _ => sponsor
  | .budgetIncreased sponsor _ _ => sponsor
  | .budgetDecreased sponsor _ _ => sponsor
  | .sponsorPolicyUpdated sponsor => sponsor
  | .sponsorPaused sponsor => sponsor
  | .sponsorResumed sponsor => sponsor
  | .sponsorUnregistered sponsor => sponsor
  | .sponsoredTransactionFeePaid sponsor _ _ _ => sponsor

/-- `Error`: the errors of the pallet. -/
inductive Error
  | alreadyRegistered
  | notRegistered
  | alreadyPaused
  | alreadyActive
  | emptyAllowlist
  | duplicateAllowedCaller
  | zeroBudget
  | insufficientAvailableBudget
  | pendingBudgetNotEmpty
  deriving DecidableEq, Repr

/-- The errors a dispatchable can return: the origin is not signed, an error of the pallet, or an
error of the balances pallet. -/
inductive DispatchError
  | badOrigin
  | module (e : Error)
  | token (e : TokenError)
  deriving DecidableEq, Repr

/-- The system origins a call can arrive with. -/
inductive RawOrigin (Account : Type)
  | root
  | signed (who : Account)
  | none
  | authorized
  deriving DecidableEq, Repr

/-- The lines that `log::error!` writes under the target `runtime::sponsored_tx`. -/
inductive LogLine (Account : Type)
  /-- `failed to release sponsorship pending hold for {who}: {error}` -/
  | failedToReleasePending (who : Account) (error : TokenError)
  /-- `failed to restore sponsorship budget hold for {who}: {error}` -/
  | failedToRestoreBudget (who : Account) (error : TokenError)
  /-- `actual sponsored fee exceeded estimate, clamping. estimated: {estimated},
  actual: {actual}` -/
  | actualFeeExceededEstimate (estimated actual : ℕ)
  /-- `sponsored pending hold for {sponsor} was short by {missing}` -/
  | pendingHoldShort (sponsor : Account) (missing : ℕ)
  deriving DecidableEq, Repr

/-- What the pallet reads and writes: its storage map `Sponsors`, the storage of the pallets it
calls, the deposited events, the fee and tip credits routed to `FeeDestination`, and the log. -/
structure PalletState (Account Ledger : Type) (maxAllowedCallers : ℕ) where
  sponsors : Account → Option (SponsorState Account maxAllowedCallers)
  ledger : Ledger
  events : List (Event Account)
  routed : List (ℕ × ℕ)
  log : List (LogLine Account)

section Dispatchables

variable {Account Ledger : Type} {maxAllowedCallers : ℕ} [DecidableEq Account]

/-! ### Reading and writing the state -/

/-- Run an operation of the balances pallet on the pallet state. -/
def onLedger {α : Type} (op : EStateM TokenError Ledger α) :
    EStateM DispatchError (PalletState Account Ledger maxAllowedCallers) α :=
  onPart PalletState.ledger (fun ledger st ↦ { st with ledger }) (mapError DispatchError.token op)

/-- `Self::deposit_event`. -/
def PalletState.depositEvent (st : PalletState Account Ledger maxAllowedCallers)
    (event : Event Account) : PalletState Account Ledger maxAllowedCallers :=
  { st with events := st.events ++ [event] }

/-- `log::error!`. -/
def PalletState.logError (st : PalletState Account Ledger maxAllowedCallers)
    (line : LogLine Account) : PalletState Account Ledger maxAllowedCallers :=
  { st with log := st.log ++ [line] }

/-- Write the entry of one account in `Sponsors`; `none` removes it. -/
def PalletState.setSponsor (st : PalletState Account Ledger maxAllowedCallers) (who : Account)
    (entry : Option (SponsorState Account maxAllowedCallers)) :
    PalletState Account Ledger maxAllowedCallers :=
  { st with sponsors := Function.update st.sponsors who entry }

/-- `Sponsors::<T>::try_mutate`: the entry is written back only if the closure succeeds. -/
def tryMutateSponsor (who : Account)
    (mutate : Option (SponsorState Account maxAllowedCallers) →
      Except Error (Option (SponsorState Account maxAllowedCallers))) :
    EStateM DispatchError (PalletState Account Ledger maxAllowedCallers) PUnit := do
  let st ← get
  match mutate (st.sponsors who) with
  | .ok entry => modify fun st ↦ st.setSponsor who entry
  | .error e => throw (.module e)

/-- `ensure_signed`. -/
def ensureSigned {σ : Type} : RawOrigin Account → EStateM DispatchError σ Account
  | .signed who => pure who
  | .root => throw .badOrigin
  | .none => throw .badOrigin
  | .authorized => throw .badOrigin

/-! ### Checks and views of the inner `impl` block -/

/-- `budget_on_hold`. -/
def budgetOnHold (balances : Balances Account HoldReason Ledger)
    (st : PalletState Account Ledger maxAllowedCallers) (who : Account) : ℕ :=
  (balances.account st.ledger who).onHold .sponsorshipBudget

/-- `pending_on_hold`. -/
def pendingOnHold (balances : Balances Account HoldReason Ledger)
    (st : PalletState Account Ledger maxAllowedCallers) (who : Account) : ℕ :=
  (balances.account st.ledger who).onHold .sponsorshipPending

/-- `ensure_registered`. -/
def ensureRegistered (who : Account) :
    EStateM DispatchError (PalletState Account Ledger maxAllowedCallers) PUnit := do
  let st ← get
  ensure (st.sponsors who).isSome (.module .notRegistered)

/-- The loop of `ensure_valid_policy` over the enumerated allowlist: position `idx` is compared with
every later position. -/
def ensureNoDuplicates (callers : List Account) : List (Account × ℕ) → Except Error Unit
  | [] => .ok ()
  | (caller, idx) :: rest =>
    if (callers.drop (idx + 1)).any (fun other ↦ other == caller) then
      .error .duplicateAllowedCaller
    else ensureNoDuplicates callers rest

/-- `ensure_valid_policy`. -/
def ensureValidPolicy (policy : SponsorPolicy Account maxAllowedCallers) : Except Error Unit :=
  if policy.allowedCallers.toList.isEmpty then .error .emptyAllowlist
  else ensureNoDuplicates policy.allowedCallers.toList policy.allowedCallers.toList.zipIdx

/-- The `?` on a result whose error is a pallet error. -/
def orModuleError {σ : Type} : Except Error Unit → EStateM DispatchError σ PUnit
  | .ok _ => pure ⟨⟩
  | .error e => throw (.module e)

/-! ### The dispatchables -/

/-- `register_sponsor`. -/
def registerSponsor (balances : Balances Account HoldReason Ledger) (origin : RawOrigin Account)
    (initialBudget : ℕ) (policy : SponsorPolicy Account maxAllowedCallers) :
    EStateM DispatchError (PalletState Account Ledger maxAllowedCallers) PUnit := do
  let sponsor ← ensureSigned origin
  ensure (initialBudget ≠ 0) (.module .zeroBudget)
  let st ← get
  ensure (¬ (st.sponsors sponsor).isSome) (.module .alreadyRegistered)
  orModuleError (ensureValidPolicy policy)
  onLedger (balances.hold .sponsorshipBudget sponsor initialBudget)
  modify fun st ↦ st.setSponsor sponsor (some { active := true, policy })
  modify fun st ↦ st.depositEvent (.sponsorRegistered sponsor initialBudget)

/-- `increase_budget`. -/
def increaseBudget (balances : Balances Account HoldReason Ledger) (origin : RawOrigin Account)
    (amount : ℕ) : EStateM DispatchError (PalletState Account Ledger maxAllowedCallers) PUnit := do
  let sponsor ← ensureSigned origin
  ensure (amount ≠ 0) (.module .zeroBudget)
  ensureRegistered sponsor
  onLedger (balances.hold .sponsorshipBudget sponsor amount)
  modify fun st ↦
    st.depositEvent (.budgetIncreased sponsor amount (budgetOnHold balances st sponsor))

/-- `decrease_budget`. -/
def decreaseBudget (balances : Balances Account HoldReason Ledger) (origin : RawOrigin Account)
    (amount : ℕ) : EStateM DispatchError (PalletState Account Ledger maxAllowedCallers) PUnit := do
  let sponsor ← ensureSigned origin
  ensure (amount ≠ 0) (.module .zeroBudget)
  ensureRegistered sponsor
  let st ← get
  ensure (amount ≤ budgetOnHold balances st sponsor) (.module .insufficientAvailableBudget)
  let _ ← onLedger (balances.release .sponsorshipBudget sponsor amount .exact)
  modify fun st ↦
    st.depositEvent (.budgetDecreased sponsor amount (budgetOnHold balances st sponsor))

/-- `set_policy`. -/
def setPolicy (origin : RawOrigin Account) (policy : SponsorPolicy Account maxAllowedCallers) :
    EStateM DispatchError (PalletState Account Ledger maxAllowedCallers) PUnit := do
  let sponsor ← ensureSigned origin
  orModuleError (ensureValidPolicy policy)
  tryMutateSponsor sponsor fun
    | none => .error .notRegistered
    | some state => .ok (some { state with policy })
  modify fun st ↦ st.depositEvent (.sponsorPolicyUpdated sponsor)

/-- `pause`. -/
def pause (origin : RawOrigin Account) :
    EStateM DispatchError (PalletState Account Ledger maxAllowedCallers) PUnit := do
  let sponsor ← ensureSigned origin
  tryMutateSponsor sponsor fun
    | none => .error .notRegistered
    | some state =>
      if state.active then .ok (some { state with active := false }) else .error .alreadyPaused
  modify fun st ↦ st.depositEvent (.sponsorPaused sponsor)

/-- `resume`. -/
def resume (origin : RawOrigin Account) :
    EStateM DispatchError (PalletState Account Ledger maxAllowedCallers) PUnit := do
  let sponsor ← ensureSigned origin
  tryMutateSponsor sponsor fun
    | none => .error .notRegistered
    | some state =>
      if ¬ state.active then .ok (some { state with active := true }) else .error .alreadyActive
  modify fun st ↦ st.depositEvent (.sponsorResumed sponsor)

/-- `unregister`. -/
def unregister (balances : Balances Account HoldReason Ledger) (origin : RawOrigin Account) :
    EStateM DispatchError (PalletState Account Ledger maxAllowedCallers) PUnit := do
  let sponsor ← ensureSigned origin
  ensureRegistered sponsor
  let st ← get
  ensure (pendingOnHold balances st sponsor = 0) (.module .pendingBudgetNotEmpty)
  let budget := budgetOnHold balances st sponsor
  if budget ≠ 0 then
    let _ ← onLedger (balances.release .sponsorshipBudget sponsor budget .exact)
  modify fun st ↦ st.setSponsor sponsor none
  modify fun st ↦ st.depositEvent (.sponsorUnregistered sponsor)

/-- The calls of the pallet, in the order of their call indices. -/
inductive Call (Account : Type) (maxAllowedCallers : ℕ)
  | registerSponsor (initialBudget : ℕ) (policy : SponsorPolicy Account maxAllowedCallers)
  | increaseBudget (amount : ℕ)
  | decreaseBudget (amount : ℕ)
  | setPolicy (policy : SponsorPolicy Account maxAllowedCallers)
  | pause
  | resume
  | unregister

/-- Dispatch a call of the pallet with an origin. -/
def dispatch (balances : Balances Account HoldReason Ledger) (origin : RawOrigin Account) :
    Call Account maxAllowedCallers →
      EStateM DispatchError (PalletState Account Ledger maxAllowedCallers) PUnit
  | .registerSponsor initialBudget policy => registerSponsor balances origin initialBudget policy
  | .increaseBudget amount => increaseBudget balances origin amount
  | .decreaseBudget amount => decreaseBudget balances origin amount
  | .setPolicy policy => setPolicy origin policy
  | .pause => pause origin
  | .resume => resume origin
  | .unregister => unregister balances origin

/-! ### Moving the reservation -/

/-- The transaction validity errors the payment extension can meet. -/
inductive InvalidTransaction
  | call
  | payment
  | future
  | stale
  | badProof
  | ancientBirthBlock
  | exhaustsResources
  | custom (code : UInt8)
  | badMandatory
  | mandatoryValidation
  | badSigner
  | indeterminateImplicit
  | unknownOrigin
  deriving DecidableEq, Repr

/-- `TransactionValidityError`; the `Unknown` half is what lookups outside this pallet return. -/
inductive TransactionValidityError
  | invalid (e : InvalidTransaction)
  | unknown (code : UInt8)
  deriving DecidableEq, Repr

/-- The closure `to_validity` of `move_budget_to_pending`: every ledger error becomes `Payment`. -/
def toValidity (_ : TokenError) : TransactionValidityError :=
  .invalid .payment

/-- `move_budget_to_pending`: release from the budget hold, then hold as pending. -/
def moveBudgetToPending (balances : Balances Account HoldReason Ledger) (who : Account)
    (amount : ℕ) :
    EStateM TransactionValidityError (PalletState Account Ledger maxAllowedCallers) PUnit := do
  let _ ← onPart PalletState.ledger (fun ledger st ↦ { st with ledger })
    (mapError toValidity (balances.release .sponsorshipBudget who amount .exact))
  onPart PalletState.ledger (fun ledger st ↦ { st with ledger })
    (mapError toValidity (balances.hold .sponsorshipPending who amount))

/-- `restore_pending_to_budget`: pending hold to free to budget hold, with both failures logged and
swallowed. -/
def restorePendingToBudget (balances : Balances Account HoldReason Ledger) (who : Account)
    (st : PalletState Account Ledger maxAllowedCallers) :
    PalletState Account Ledger maxAllowedCallers :=
  let pending := pendingOnHold balances st who
  if pending = 0 then st
  else
    match balances.release .sponsorshipPending who pending .bestEffort st.ledger with
    | .error e ledger => { st with ledger }.logError (.failedToReleasePending who e)
    | .ok released ledger =>
      if released = 0 then { st with ledger }
      else
        match balances.hold .sponsorshipBudget who released ledger with
        | .error e ledger => { st with ledger }.logError (.failedToRestoreBudget who e)
        | .ok _ ledger => { st with ledger }

end Dispatchables

end SponsoredTx.Pallet
