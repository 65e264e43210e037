import SponsoredTx.Extension.SponsoredPayment

/-!
# The test runtime of `pallets/sponsored-tx/src/mock.rs`

The runtime of the pallet's own tests, over the reference ledger: an existential deposit of one, a
fixed weight fee of one next to a base fee of one and no length fee (`mockFees`), no database
weight, burned fees, and three accounts with a free balance of 1,000 (`mockState`). It is sound
(`mockConfig_sound`), its fees are monotone (`mockFees_monotone`) and its issuance covers its
balances (`mockState_backed`), so every assumption made of the runtime in this development is
satisfiable together.
-/

set_option autoImplicit false
set_option relaxedAutoImplicit false

namespace SponsoredTx.Extension

open Foundation.HoldLedger Foundation.SaturatingWeight Pallet

/-- The ledger of the test runtime. -/
abbrev MockLedger : Type := ReferenceLedger ℕ HoldReason

/-- The balances pallet of the test runtime. -/
def mockBalances : Balances ℕ HoldReason MockLedger :=
  referenceBalances ℕ HoldReason 1

/-- A base extension that refuses every transaction: the tests that use it take the sponsored
path. -/
def mockBase : ChargeTransactionPayment ℕ MockLedger Unit Unit Unit where
  weight := fun _ _ ↦ .zero
  validate := fun _ _ _ _ _ ledger ↦ .error (.invalid .payment) ledger
  prepare := fun _ _ _ _ _ _ ledger ↦ .error (.invalid .payment) ledger
  postDispatchDetails := fun _ _ _ _ _ ledger ↦ .ok .zero ledger
  getPriority := fun _ _ _ _ ↦ 0

/-- The test runtime over a given balances pallet. -/
def mockConfigOver (balances : Balances ℕ HoldReason MockLedger) :
    Config ℕ MockLedger Unit Unit Unit where
  balances := balances
  base := mockBase
  dbWeight := { read := 0, write := 0 }
  feeDestination := unitDestination balances

/-- The test runtime. -/
def mockConfig : Config ℕ MockLedger Unit Unit Unit :=
  mockConfigOver mockBalances

theorem mockConfig_sound : mockConfig.Sound 1 where
  exact := referenceBalances_exact 1
  burns := rfl

/-- The fee of the test runtime: a base fee of one, a weight fee of one, and the tip. -/
def mockFee (info : DispatchInfo) (tip : ℕ) : ℕ :=
  match info.paysFee with
  | .yes => 2 + tip
  | .no => tip

/-- The fee functions of the test runtime. -/
def mockFees : TransactionPayment where
  computeFee := fun _ info tip ↦ mockFee info tip
  computeActualFee := fun _ info post tip ↦ mockFee (info.reported post) tip

theorem mockFees_monotone : mockFees.Monotone where
  computeActualFee_eq := fun _ _ _ _ ↦ rfl
  computeFee_mono := by
    intro _ info info' tip _ _ hpays
    change mockFee info' tip ≤ mockFee info tip
    rcases hpays with heq | hno
    · simp only [mockFee, heq, le_refl]
    · simp only [mockFee, hno]
      cases info.paysFee <;> simp

/-- An account of the test runtime with a free balance. -/
def mockAccount (free : ℕ) : AccountData HoldReason where
  free := free
  onHold := fun _ ↦ 0
  untracked := 0
  alive := free ≠ 0

/-- `new_test_ext`: the accounts 1, 2 and 3 with a free balance of 1,000 each. -/
def mockState : PalletState ℕ MockLedger 8 where
  sponsors := fun _ ↦ none
  ledger :=
    { account := fun who ↦ mockAccount (if who ∈ ({1, 2, 3} : Finset ℕ) then 1000 else 0)
      totalIssuance := 3000 }
  events := []
  routed := []
  log := []

/-- The issuance of the test runtime is the sum of its three accounts. -/
theorem mockState_backed : mockBalances.Backed mockState.ledger := by
  refine Balances.Backed.of_support {1, 2, 3} (fun who hwho ↦ ?_) (by decide)
  change (mockAccount (if who ∈ ({1, 2, 3} : Finset ℕ) then 1000 else 0)).total = 0
  rw [if_neg hwho]
  decide

/-- The information about the `remark` call of the tests. -/
def mockInfo : DispatchInfo where
  callWeight := .zero
  extensionWeight := .zero
  dispatchClass := .normal
  paysFee := .yes

/-- A report that changes nothing about the call. -/
def mockPost : PostDispatchInfo where
  actualWeight := none
  paysFee := .yes

/-- `policy`: an allowlist and a fee cap. -/
def mockPolicy (callers : List ℕ) (hcallers : callers.length ≤ 8) (maxFeePerTx : ℕ) :
    SponsorPolicy ℕ 8 where
  allowedCallers := ⟨callers, hcallers⟩
  maxFeePerTx := maxFeePerTx

/-- The policy of sponsor 1: account 2 may send transactions with fees up to 50. -/
def mockSponsorPolicy : SponsorPolicy ℕ 8 :=
  mockPolicy [2] (by decide) 50

/-- A policy for two callers: accounts 2 and 3 may send transactions with fees up to 50. -/
def mockPairPolicy : SponsorPolicy ℕ 8 :=
  mockPolicy [2, 3] (by decide) 50

end SponsoredTx.Extension
