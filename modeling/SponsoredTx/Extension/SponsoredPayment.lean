import SponsoredTx.Foundation.SaturatingWeight
import SponsoredTx.Pallet.SponsorLifecycle

/-!
# The payment extension of `pallets/sponsored-tx/src/extension.rs`

`SponsoredChargeTransactionPayment` with its four methods `weight`, `validate`, `prepare` and
`postDispatchDetails`, and the settlement `settleSponsoredFee` with the steps of its body under
their own names (`clampToEstimate`, `slashPending`, `routeCredit`).

`Config` collects what the pallet's `Config` trait and its supertraits supply: the balances pallet,
the base extension `ChargeTransactionPayment`, the database weight and the fee destination.
`TransactionPayment` stands for the fee functions of `pallet_transaction_payment`. They read the fee
multiplier, which changes from block to block, so they are an argument of the methods that call
them and not a part of `Config`.

The runtime pays fees through `FungibleAdapter<Balances, ()>`, so the fee balance is the balance
type and every `saturated_into` of the source is the identity here. The arguments that `validate`
only hands on to the base extension, the implication and the transaction source, are left out.
-/

set_option autoImplicit false
set_option relaxedAutoImplicit false

namespace SponsoredTx.Extension

open Foundation.StatefulResult Foundation.HoldLedger Foundation.SaturatingWeight Pallet

/-! ### What the framework supplies -/

/-- `DispatchClass`. -/
inductive DispatchClass
  | normal
  | operational
  | mandatory
  deriving DecidableEq, Repr

/-- `Pays`: whether a call pays a fee. -/
inductive Pays
  | yes
  | no
  deriving DecidableEq, Repr

/-- `DispatchInfo`: what is known about a call before it is dispatched. -/
structure DispatchInfo where
  callWeight : Weight
  extensionWeight : Weight
  dispatchClass : DispatchClass
  paysFee : Pays
  deriving DecidableEq, Repr

/-- `PostDispatchInfo`: what a call reports after it was dispatched. -/
structure PostDispatchInfo where
  actualWeight : Option Weight
  paysFee : Pays
  deriving DecidableEq, Repr

/-- `DispatchInfo::total_weight`. -/
def DispatchInfo.totalWeight (info : DispatchInfo) : Weight :=
  info.callWeight.saturatingAdd info.extensionWeight

/-- `PostDispatchInfo::calc_actual_weight`: the reported weight, capped by the weight known
before. -/
def PostDispatchInfo.calcActualWeight (post : PostDispatchInfo) (info : DispatchInfo) : Weight :=
  match post.actualWeight with
  | some weight => weight.min info.totalWeight
  | none => info.totalWeight

/-- `PostDispatchInfo::pays_fee`: a fee is paid only if neither side waives it. -/
def PostDispatchInfo.calcPaysFee (post : PostDispatchInfo) (info : DispatchInfo) : Pays :=
  match info.paysFee, post.paysFee with
  | .yes, .yes => .yes
  | _, _ => .no

/-- The fee functions of `pallet_transaction_payment`, as they stand in one block. -/
structure TransactionPayment where
  computeFee : UInt32 → DispatchInfo → ℕ → ℕ
  computeActualFee : UInt32 → DispatchInfo → PostDispatchInfo → ℕ → ℕ

/-- The call as its post-dispatch report describes it: the reported weight and fee waiver in place
of the declared ones. -/
def DispatchInfo.reported (info : DispatchInfo) (post : PostDispatchInfo) : DispatchInfo :=
  { info with
    callWeight := post.calcActualWeight info
    extensionWeight := .zero
    paysFee := post.calcPaysFee info }

/-- What `pallet_transaction_payment` documents about its two fee functions: the actual fee is the
fee of the call as reported, and a fee never rises when the weight falls or the fee is waived. -/
structure TransactionPayment.Monotone (fees : TransactionPayment) : Prop where
  computeActualFee_eq : ∀ len info post tip,
    fees.computeActualFee len info post tip = fees.computeFee len (info.reported post) tip
  computeFee_mono : ∀ len (info info' : DispatchInfo) tip,
    info'.totalWeight.AllLte info.totalWeight → info'.dispatchClass = info.dispatchClass →
    (info'.paysFee = info.paysFee ∨ info'.paysFee = .no) →
    fees.computeFee len info' tip ≤ fees.computeFee len info tip

/-- A report can lower the weight and waive the fee, never the reverse, so the actual fee is at most
the fee computed before the call. -/
theorem TransactionPayment.Monotone.computeActualFee_le {fees : TransactionPayment}
    (hmonotone : fees.Monotone) (len : UInt32) (info : DispatchInfo) (post : PostDispatchInfo)
    (tip : ℕ) : fees.computeActualFee len info post tip ≤ fees.computeFee len info tip := by
  have hweight : (info.reported post).totalWeight.AllLte info.totalWeight := by
    simp only [DispatchInfo.reported, DispatchInfo.totalWeight, Weight.saturatingAdd_zero]
    unfold PostDispatchInfo.calcActualWeight
    cases post.actualWeight with
    | none => exact Weight.AllLte.refl _
    | some weight => exact Weight.min_allLte_right _ _
  have hpays : (info.reported post).paysFee = info.paysFee ∨
      (info.reported post).paysFee = .no := by
    simp only [DispatchInfo.reported, PostDispatchInfo.calcPaysFee]
    cases info.paysFee <;> cases post.paysFee <;> simp
  rw [hmonotone.computeActualFee_eq]
  exact hmonotone.computeFee_mono len info (info.reported post) tip hweight rfl hpays

/-- `ValidTransaction`. -/
structure ValidTransaction where
  priority : UInt64
  requires : List (List UInt8)
  provides : List (List UInt8)
  longevity : UInt64
  propagate : Bool
  deriving DecidableEq, Repr

/-- `ValidTransaction::default`. -/
def ValidTransaction.default : ValidTransaction where
  priority := 0
  requires := []
  provides := []
  longevity := UInt64.ofNat u64Max
  propagate := true

/-- The base extension `ChargeTransactionPayment`, which takes the unsponsored path. -/
structure ChargeTransactionPayment (Account Ledger RuntimeCall BaseVal BasePre : Type) where
  weight : ℕ → RuntimeCall → Weight
  validate : ℕ → RawOrigin Account → RuntimeCall → DispatchInfo → ℕ →
    EStateM TransactionValidityError Ledger (ValidTransaction × BaseVal × RawOrigin Account)
  prepare : ℕ → BaseVal → RawOrigin Account → RuntimeCall → DispatchInfo → ℕ →
    EStateM TransactionValidityError Ledger BasePre
  postDispatchDetails : BasePre → DispatchInfo → PostDispatchInfo → ℕ →
    Except DispatchError Unit → EStateM TransactionValidityError Ledger Weight
  getPriority : DispatchInfo → ℕ → ℕ → ℕ → UInt64

/-- What the pallet's `Config` supplies. `feeDestination` is `FeeDestination::on_unbalanceds` on the
list of credits it is given. -/
structure Config (Account Ledger RuntimeCall BaseVal BasePre : Type) where
  balances : Balances Account HoldReason Ledger
  base : ChargeTransactionPayment Account Ledger RuntimeCall BaseVal BasePre
  dbWeight : RuntimeDbWeight
  feeDestination : List ℕ → Ledger → Ledger

/-- `FeeDestination = ()`: the credits are merged and dropped. -/
def unitDestination {Account Ledger : Type} (balances : Balances Account HoldReason Ledger)
    (credits : List ℕ) (ledger : Ledger) : Ledger :=
  balances.dropCredit credits.sum ledger

/-- What is assumed of the runtime around the pallet: the balances pallet is an exact ledger with
the given existential deposit, and `FeeDestination = ()`. -/
structure Config.Sound {Account Ledger RuntimeCall BaseVal BasePre : Type} [DecidableEq Account]
    (config : Config Account Ledger RuntimeCall BaseVal BasePre) (deposit : ℕ) : Prop where
  exact : config.balances.Exact deposit
  burns : config.feeDestination = unitDestination config.balances

/-! ### The extension and its values -/

/-- `InvalidSponsoredTransaction`: why a sponsored transaction is invalid. -/
inductive InvalidSponsoredTransaction
  | unsupportedOrigin
  | unknownSponsor
  | inactiveSponsor
  | callerNotAllowed
  | feeCapExceeded
  | insufficientBudget
  deriving DecidableEq, Repr

/-- The `repr(u8)` of `InvalidSponsoredTransaction`. -/
def InvalidSponsoredTransaction.code : InvalidSponsoredTransaction → UInt8
  | .unsupportedOrigin => 0
  | .unknownSponsor => 1
  | .inactiveSponsor => 2
  | .callerNotAllowed => 3
  | .feeCapExceeded => 4
  | .insufficientBudget => 5

/-- `invalid`. -/
def invalid (reason : InvalidSponsoredTransaction) : TransactionValidityError :=
  .invalid (.custom reason.code)

/-- `SponsoredChargeTransactionPayment`: the tip, and the sponsor if there is one. -/
structure SponsoredChargeTransactionPayment (Account : Type) where
  tip : ℕ
  sponsor : Option Account
  deriving DecidableEq, Repr

/-- `SponsoredVal`: what validation hands to `prepare`. -/
inductive SponsoredVal (Account BaseVal : Type)
  | unsponsored (val : BaseVal)
  | sponsored (sponsor signer : Account) (feeWithTip tip : ℕ)

/-- `SponsoredPre`: what `prepare` hands to the settlement. -/
inductive SponsoredPre (Account BasePre : Type)
  | unsponsored (pre : BasePre)
  | sponsored (sponsor signer : Account) (estimatedFeeWithTip tip : ℕ)

/-- `as_system_origin_signer`. -/
def asSystemOriginSigner {Account : Type} : RawOrigin Account → Option Account
  | .signed who => some who
  | .root => none
  | .none => none
  | .authorized => none

section Methods

variable {Account Ledger RuntimeCall BaseVal BasePre : Type} {maxAllowedCallers : ℕ}
  [DecidableEq Account]

/-- The test of `validate` on an account of the allowlist: `account == &signer`. -/
def isCaller (signer account : Account) : Bool :=
  account == signer

/-- The allowlist test of `validate`: some account of the list is the signer. -/
def callerAllowed (policy : SponsorPolicy Account maxAllowedCallers) (signer : Account) : Bool :=
  policy.allowedCallers.toList.any (isCaller signer)

/-- The test finds the accounts of the list and no others. -/
@[simp] theorem callerAllowed_iff (policy : SponsorPolicy Account maxAllowedCallers)
    (signer : Account) :
    callerAllowed policy signer = true ↔ signer ∈ policy.allowedCallers.toList := by
  simp [callerAllowed, isCaller]

namespace SponsoredChargeTransactionPayment

/-- `weight`: the overhead of validation and preparation. -/
def weight (config : Config Account Ledger RuntimeCall BaseVal BasePre)
    (self : SponsoredChargeTransactionPayment Account) (call : RuntimeCall) : Weight :=
  let base := config.base.weight self.tip call
  if self.sponsor.isSome then base.saturatingAdd (config.dbWeight.readsWrites 2 2) else base

/-- `validate`. -/
def validate (config : Config Account Ledger RuntimeCall BaseVal BasePre)
    (fees : TransactionPayment) (self : SponsoredChargeTransactionPayment Account)
    (origin : RawOrigin Account) (call : RuntimeCall) (info : DispatchInfo) (len : ℕ) :
    EStateM TransactionValidityError (PalletState Account Ledger maxAllowedCallers)
      (ValidTransaction × SponsoredVal Account BaseVal × RawOrigin Account) :=
  match self.sponsor with
  | none => do
    let (validity, val, origin) ← onPart PalletState.ledger (fun ledger st ↦ { st with ledger })
      (config.base.validate self.tip origin call info len)
    return (validity, .unsponsored val, origin)
  | some sponsor =>
    match asSystemOriginSigner origin with
    | none => throw (invalid .unsupportedOrigin)
    | some signer => do
      let st ← get
      match st.sponsors sponsor with
      | none => throw (invalid .unknownSponsor)
      | some state =>
        ensure state.active (invalid .inactiveSponsor)
        ensure (callerAllowed state.policy signer) (invalid .callerNotAllowed)
        let feeWithTip := fees.computeFee (UInt32.ofNat len) info self.tip
        ensure (¬ feeWithTip > state.policy.maxFeePerTx) (invalid .feeCapExceeded)
        ensure (¬ budgetOnHold config.balances st sponsor < feeWithTip)
          (invalid .insufficientBudget)
        let validity := { ValidTransaction.default with
          priority := config.base.getPriority info len self.tip feeWithTip }
        return (validity, .sponsored sponsor signer feeWithTip self.tip, origin)

/-- `prepare`. -/
def prepare (config : Config Account Ledger RuntimeCall BaseVal BasePre)
    (self : SponsoredChargeTransactionPayment Account) (val : SponsoredVal Account BaseVal)
    (origin : RawOrigin Account) (call : RuntimeCall) (info : DispatchInfo) (len : ℕ) :
    EStateM TransactionValidityError (PalletState Account Ledger maxAllowedCallers)
      (SponsoredPre Account BasePre) :=
  match val with
  | .unsponsored val => do
    let pre ← onPart PalletState.ledger (fun ledger st ↦ { st with ledger })
      (config.base.prepare self.tip val origin call info len)
    return .unsponsored pre
  | .sponsored sponsor signer feeWithTip tip => do
    moveBudgetToPending config.balances sponsor feeWithTip
    return .sponsored sponsor signer feeWithTip tip

end SponsoredChargeTransactionPayment

/-! ### Settlement -/

/-- `SPONSORED_POST_DISPATCH_READS`. -/
def sponsoredPostDispatchReads : UInt64 := 7

/-- `SPONSORED_POST_DISPATCH_WRITES`. -/
def sponsoredPostDispatchWrites : UInt64 := 7

/-- The first adjustment of the charged fee: a fee above the estimate is logged and clamped. -/
def clampToEstimate (estimatedFeeWithTip chargedFeeWithTip : ℕ)
    (st : PalletState Account Ledger maxAllowedCallers) :
    ℕ × PalletState Account Ledger maxAllowedCallers :=
  if chargedFeeWithTip > estimatedFeeWithTip then
    (estimatedFeeWithTip,
      st.logError (.actualFeeExceededEstimate estimatedFeeWithTip chargedFeeWithTip))
  else (chargedFeeWithTip, st)

/-- The slash of the pending hold and the second adjustment of the charged fee: what the hold was
short of is logged and subtracted. Returns the credit and the fee. -/
def slashPending (balances : Balances Account HoldReason Ledger) (sponsor : Account)
    (chargedFeeWithTip : ℕ) (st : PalletState Account Ledger maxAllowedCallers) :
    ℕ × ℕ × PalletState Account Ledger maxAllowedCallers :=
  let ((credit, missing), ledger) :=
    balances.slash .sponsorshipPending sponsor chargedFeeWithTip st.ledger
  let st := { st with ledger }
  if missing ≠ 0 then
    (credit, chargedFeeWithTip - missing, st.logError (.pendingHoldShort sponsor missing))
  else (credit, chargedFeeWithTip, st)

/-- The split of the credit at the tip, and `FeeDestination::on_unbalanceds` on the fee credit and
the tip credit. -/
def routeCredit (config : Config Account Ledger RuntimeCall BaseVal BasePre)
    (credit actualTip : ℕ) (st : PalletState Account Ledger maxAllowedCallers) :
    PalletState Account Ledger maxAllowedCallers :=
  let tipCredit := min credit actualTip
  let feeCredit := credit - tipCredit
  { st with
    ledger := config.feeDestination [feeCredit, tipCredit] st.ledger
    routed := st.routed ++ [(feeCredit, tipCredit)] }

/-- `settle_sponsored_fee`. -/
def settleSponsoredFee (config : Config Account Ledger RuntimeCall BaseVal BasePre)
    (fees : TransactionPayment) (sponsor signer : Account) (estimatedFeeWithTip tip : ℕ)
    (info : DispatchInfo) (post : PostDispatchInfo) (len : ℕ)
    (st : PalletState Account Ledger maxAllowedCallers) :
    Weight × PalletState Account Ledger maxAllowedCallers :=
  let settlementWeight :=
    config.dbWeight.readsWrites sponsoredPostDispatchReads sponsoredPostDispatchWrites
  let chargedFeeWithTip := fees.computeActualFee (UInt32.ofNat len) info post tip
  let (chargedFeeWithTip, st) := clampToEstimate estimatedFeeWithTip chargedFeeWithTip st
  let (credit, chargedFeeWithTip, st) := slashPending config.balances sponsor chargedFeeWithTip st
  let actualTip := min tip chargedFeeWithTip
  let st := routeCredit config credit actualTip st
  let st := restorePendingToBudget config.balances sponsor st
  let st := st.depositEvent
    (.sponsoredTransactionFeePaid sponsor signer chargedFeeWithTip actualTip)
  (settlementWeight, st)

/-- `post_dispatch_details`. -/
def postDispatchDetails (config : Config Account Ledger RuntimeCall BaseVal BasePre)
    (fees : TransactionPayment) (pre : SponsoredPre Account BasePre) (info : DispatchInfo)
    (post : PostDispatchInfo) (len : ℕ) (result : Except DispatchError Unit) :
    EStateM TransactionValidityError (PalletState Account Ledger maxAllowedCallers) Weight :=
  match pre with
  | .unsponsored pre =>
    onPart PalletState.ledger (fun ledger st ↦ { st with ledger })
      (config.base.postDispatchDetails pre info post len result)
  | .sponsored sponsor signer estimatedFeeWithTip tip => fun st ↦
    let (weight, st) :=
      settleSponsoredFee config fees sponsor signer estimatedFeeWithTip tip info post len st
    .ok weight st

end Methods

end SponsoredTx.Extension
