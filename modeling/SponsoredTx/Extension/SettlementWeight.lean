import SponsoredTx.Extension.MockRuntime

/-!
# The weight of a sponsored settlement

The framework reserves `weight(call)` for the extension before the call, and subtracts from the
accounted weight whatever `post_dispatch_details` returns, because that return value is the
*unspent* weight. The sponsored path returns its settlement cost instead, seven reads and seven
writes, so the cost is taken off the account once where it should have been left on.

`accountedWeight` is the framework's sum, and `SettlementAccounted` the property that it covers the
call and the settlement. `settlementAccounted_iff` says exactly when the sponsored path has it: the
weight of the base extension must happen to contain twelve reads and twelve writes, the two reads
and writes that `weight` adds being counted against the fourteen that are needed.
`not_settlementAccounted_rocksDb` is the database weight of the runtime, where the account falls
even below the weight of the call.
-/

set_option autoImplicit false
set_option relaxedAutoImplicit false

namespace SponsoredTx.Extension

open Foundation.SaturatingWeight Pallet

variable {Account Ledger RuntimeCall BaseVal BasePre : Type} {maxAllowedCallers : ℕ}

/-- The weight the framework accounts for a transaction: the actual weight of the call and the
weight reserved for the extension, less the unspent weight that the extension returned. -/
def accountedWeight (config : Config Account Ledger RuntimeCall BaseVal BasePre)
    (self : SponsoredChargeTransactionPayment Account) (call : RuntimeCall)
    (actualCallWeight unspent : Weight) : Weight :=
  (actualCallWeight.saturatingAdd (self.weight config call)).saturatingSub unspent

/-- The settlement cost the code counts for itself: seven reads and seven writes. -/
def settlementCost (config : Config Account Ledger RuntimeCall BaseVal BasePre) : Weight :=
  config.dbWeight.readsWrites sponsoredPostDispatchReads sponsoredPostDispatchWrites

/-- The sponsored path is accounted in full: with the weight that `post_dispatch_details` returns
refunded, the accounted weight is in both parts at least the actual weight of the call plus the
settlement cost. -/
def SettlementAccounted (config : Config Account Ledger RuntimeCall BaseVal BasePre)
    (fees : TransactionPayment) (self : SponsoredChargeTransactionPayment Account)
    (sponsor signer : Account) (estimatedFeeWithTip : ℕ) (call : RuntimeCall)
    (actualCallWeight : Weight) (info : DispatchInfo) (post : PostDispatchInfo) (len : ℕ)
    (result : Except DispatchError Unit) (st : PalletState Account Ledger maxAllowedCallers) :
    Prop :=
  ∃ unspent st',
    postDispatchDetails config fees (.sponsored sponsor signer estimatedFeeWithTip self.tip) info
      post len result st = .ok unspent st' ∧
    actualCallWeight.refTime.toNat + (settlementCost config).refTime.toNat ≤
      (accountedWeight config self call actualCallWeight unspent).refTime.toNat ∧
    actualCallWeight.proofSize.toNat + (settlementCost config).proofSize.toNat ≤
      (accountedWeight config self call actualCallWeight unspent).proofSize.toNat

/-- A number of reads and the same number of writes cost that many times the price of both, up to
saturation. -/
theorem toNat_readsWrites_refTime (price : RuntimeDbWeight) (count : UInt64) :
    (price.readsWrites count count).refTime.toNat =
      min (count.toNat * (price.read.toNat + price.write.toNat)) u64Max := by
  simp only [RuntimeDbWeight.readsWrites, toNat_satAdd, toNat_satMul]
  rw [Nat.mul_add, Nat.mul_comm count.toNat price.read.toNat,
    Nat.mul_comm count.toNat price.write.toNat]
  omega

/-- The sponsored path returns its settlement cost, whatever happened in the transaction. -/
theorem postDispatchDetails_sponsored_weight
    (config : Config Account Ledger RuntimeCall BaseVal BasePre) (fees : TransactionPayment)
    (sponsor signer : Account) (estimatedFeeWithTip tip : ℕ) (info : DispatchInfo)
    (post : PostDispatchInfo) (len : ℕ) (result : Except DispatchError Unit)
    (st : PalletState Account Ledger maxAllowedCallers) :
    postDispatchDetails config fees (.sponsored sponsor signer estimatedFeeWithTip tip) info post
        len result st =
      .ok (settlementCost config) (settleSponsoredFee config fees sponsor signer
        estimatedFeeWithTip tip info post len st).2 :=
  rfl

/-- Exactly when the sponsored path is accounted in full. Assumes: the extension names a sponsor.
The computation time of twelve reads and twelve writes must be covered by the base extension, and
the sum must not leave the 64 bits of a weight; the proof size is always covered. -/
theorem settlementAccounted_iff (config : Config Account Ledger RuntimeCall BaseVal BasePre)
    (fees : TransactionPayment) {self : SponsoredChargeTransactionPayment Account}
    {sponsor : Account} (hsponsor : self.sponsor = some sponsor) (signer : Account)
    (estimatedFeeWithTip : ℕ) (call : RuntimeCall) (actualCallWeight : Weight) (info : DispatchInfo)
    (post : PostDispatchInfo) (len : ℕ) (result : Except DispatchError Unit)
    (st : PalletState Account Ledger maxAllowedCallers) :
    SettlementAccounted config fees self sponsor signer estimatedFeeWithTip call actualCallWeight
        info post len result st ↔
      12 * (config.dbWeight.read.toNat + config.dbWeight.write.toNat) ≤
          (config.base.weight self.tip call).refTime.toNat ∧
        actualCallWeight.refTime.toNat +
          14 * (config.dbWeight.read.toNat + config.dbWeight.write.toNat) ≤ u64Max := by
  have hweight : self.weight config call =
      (config.base.weight self.tip call).saturatingAdd (config.dbWeight.readsWrites 2 2) := by
    rw [SponsoredChargeTransactionPayment.weight, hsponsor]
    rfl
  have hcost : (settlementCost config).refTime.toNat =
      min (7 * (config.dbWeight.read.toNat + config.dbWeight.write.toNat)) u64Max :=
    toNat_readsWrites_refTime config.dbWeight 7
  have hextra : (config.dbWeight.readsWrites 2 2).refTime.toNat =
      min (2 * (config.dbWeight.read.toNat + config.dbWeight.write.toNat)) u64Max :=
    toNat_readsWrites_refTime config.dbWeight 2
  have htime : (accountedWeight config self call actualCallWeight
      (settlementCost config)).refTime.toNat =
        min (actualCallWeight.refTime.toNat +
          min ((config.base.weight self.tip call).refTime.toNat +
            (config.dbWeight.readsWrites 2 2).refTime.toNat) u64Max) u64Max -
              (settlementCost config).refTime.toNat := by
    simp only [accountedWeight, hweight, Weight.saturatingAdd, Weight.saturatingSub, toNat_satAdd,
      toNat_satSub]
  have hsize : actualCallWeight.proofSize.toNat + (settlementCost config).proofSize.toNat ≤
      (accountedWeight config self call actualCallWeight
        (settlementCost config)).proofSize.toNat := by
    have hbound := toNat_le_u64Max actualCallWeight.proofSize
    have hzero : (settlementCost config).proofSize.toNat = 0 := rfl
    simp only [accountedWeight, Weight.saturatingAdd, Weight.saturatingSub, toNat_satAdd,
      toNat_satSub, hzero]
    omega
  have hmax : 0 < u64Max := by decide
  have hactual := toNat_le_u64Max actualCallWeight.refTime
  have hbase := toNat_le_u64Max (config.base.weight self.tip call).refTime
  constructor
  · rintro ⟨unspent, st', hreturned, hcovered, -⟩
    rw [postDispatchDetails_sponsored_weight] at hreturned
    obtain ⟨rfl, -⟩ := EStateM.Result.ok.inj hreturned
    rw [htime, hcost, hextra] at hcovered
    omega
  · rintro ⟨hbaseCovers, hfits⟩
    refine ⟨_, _, postDispatchDetails_sponsored_weight .., ?_, hsize⟩
    rw [htime, hcost, hextra]
    omega

/-- The test runtime with the database weight of `runtime/src/weights/rocksdb_weights.rs` and a base
extension that costs a given time. -/
def rocksDbConfig (baseTime : UInt64) : Config ℕ MockLedger Unit Unit Unit :=
  { mockConfig with
    base := { mockBase with weight := fun _ _ ↦ { refTime := baseTime, proofSize := 0 } }
    dbWeight := { read := 25000000, write := 100000000 } }

/-- With the database weight of the runtime, a base extension of one and a half milliseconds is just
enough: a sponsored call of one millisecond is accounted with its settlement. -/
theorem settlementAccounted_rocksDb :
    SettlementAccounted (rocksDbConfig 1500000000) mockFees ⟨0, some 1⟩ 1 2 2 ()
        { refTime := 1000000000, proofSize := 0 } mockInfo mockPost 0 (.ok ()) mockState ∧
      (settlementCost (rocksDbConfig 1500000000)).refTime = 875000000 ∧
      accountedWeight (rocksDbConfig 1500000000) ⟨0, some 1⟩ ()
        { refTime := 1000000000, proofSize := 0 } (settlementCost (rocksDbConfig 1500000000)) =
          { refTime := 1875000000, proofSize := 0 } := by
  refine ⟨?_, by decide, by decide⟩
  exact (settlementAccounted_iff (rocksDbConfig 1500000000) mockFees rfl 2 2 ()
    { refTime := 1000000000, proofSize := 0 } mockInfo mockPost 0 (.ok ()) mockState).mpr
      ⟨by decide, by decide⟩

/-- With the database weight of the runtime and a base extension of a tenth of a millisecond, a
sponsored call of one millisecond is accounted at less than half of its own weight, and the
settlement not at all. -/
theorem not_settlementAccounted_rocksDb :
    ¬ SettlementAccounted (rocksDbConfig 100000000) mockFees ⟨0, some 1⟩ 1 2 2 ()
        { refTime := 1000000000, proofSize := 0 } mockInfo mockPost 0 (.ok ()) mockState ∧
      accountedWeight (rocksDbConfig 100000000) ⟨0, some 1⟩ ()
        { refTime := 1000000000, proofSize := 0 } (settlementCost (rocksDbConfig 100000000)) =
          { refTime := 475000000, proofSize := 0 } := by
  constructor
  · rintro ⟨unspent, st', hreturned, hcovered, -⟩
    rw [postDispatchDetails_sponsored_weight] at hreturned
    obtain ⟨rfl, -⟩ := EStateM.Result.ok.inj hreturned
    revert hcovered
    decide
  · decide

end SponsoredTx.Extension
