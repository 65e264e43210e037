import SponsoredTx.Chain.SponsoredRuns

/-!
# What validation admits and preparation executes

`validate` looks at the budget hold only; `prepare` performs a release and a hold, which have
conditions of their own. `AdmissionExecutes` is the property that the two agree on one transaction
in one state. `admissionExecutes_iff` says that in every reachable state they agree except in one
situation: the worst-case fee is zero and the sponsor's account has no provider. A hold of zero
still asks for the account, and unlike `restore_pending_to_budget` and `unregister`,
`move_budget_to_pending` does not skip it. `not_admissionExecutes_reaped` reaches that situation: a
sponsor withdraws its budget without unregistering and then empties its account.
-/

set_option autoImplicit false
set_option relaxedAutoImplicit false

namespace SponsoredTx.Chain

open Foundation.StatefulResult Foundation.HoldLedger Foundation.Runs Pallet Extension

variable {Account Ledger RuntimeCall BaseVal BasePre : Type} {maxAllowedCallers : ℕ}
  [DecidableEq Account]

/-- `prepare` succeeded and moved exactly the given fee from the budget hold of the sponsor to its
pending hold: its free balance, all other accounts and the map of sponsors are as before. -/
structure Reserves (balances : Balances Account HoldReason Ledger)
    (before : PalletState Account Ledger maxAllowedCallers) (sponsor : Account) (feeWithTip : ℕ)
    (after : PalletState Account Ledger maxAllowedCallers) : Prop where
  budget : budgetOnHold balances after sponsor + feeWithTip = budgetOnHold balances before sponsor
  pending : pendingOnHold balances after sponsor =
    pendingOnHold balances before sponsor + feeWithTip
  free : (balances.account after.ledger sponsor).free =
    (balances.account before.ledger sponsor).free
  sponsors : after.sponsors = before.sponsors
  other : ∀ who, who ≠ sponsor →
    balances.account after.ledger who = balances.account before.ledger who

/-- Validation and preparation agree on a sponsored transaction in a state: `validate` returns `Ok`
exactly when the slot of the sponsor admits a signer for the worst-case fee, it changes nothing, and
when it returns `Ok`, `prepare` on the value it returned succeeds and reserves the fee. -/
def AdmissionExecutes (config : Config Account Ledger RuntimeCall BaseVal BasePre)
    (fees : TransactionPayment) (tip : ℕ) (sponsor : Account) (origin : RawOrigin Account)
    (call : RuntimeCall) (info : DispatchInfo) (len : ℕ)
    (st : PalletState Account Ledger maxAllowedCallers) : Prop :=
  let self : SponsoredChargeTransactionPayment Account := ⟨tip, some sponsor⟩
  let feeWithTip := fees.computeFee (UInt32.ofNat len) info tip
  ((∃ value st', self.validate config fees origin call info len st = .ok value st') ↔
      ∃ signer, Admits (slotOf config.balances st sponsor) origin feeWithTip signer) ∧
    finalState (self.validate config fees origin call info len st) = st ∧
    ∀ validity val origin' st',
      self.validate config fees origin call info len st = .ok (validity, val, origin') st' →
      ∃ pre prepared, self.prepare config val origin' call info len st' = .ok pre prepared ∧
        Reserves config.balances st sponsor feeWithTip prepared

/-- A slot advanced by a reservation within its budget reserves the fee. -/
theorem reserves_of_advances {balances : Balances Account HoldReason Ledger}
    {st st' : PalletState Account Ledger maxAllowedCallers} {sponsor : Account} {feeWithTip : ℕ}
    (hbudget : feeWithTip ≤ (slotOf balances st sponsor).budget)
    (hadvances : Advances balances st sponsor
      { slotOf balances st sponsor with
        account := withReserved (slotOf balances st sponsor).account feeWithTip } [] st') :
    Reserves balances st sponsor feeWithTip st' where
  budget := by
    have hslot := congrArg Slot.budget hadvances.slot_self
    simp only [Slot.budget, slotOf, budget_withReserved] at hslot hbudget
    simp only [budgetOnHold]
    omega
  pending := by
    have hslot := congrArg Slot.pending hadvances.slot_self
    simpa [Slot.pending, slotOf, pendingOnHold] using hslot
  free := by
    have hslot := congrArg (fun slot ↦ slot.account.free) hadvances.slot_self
    simpa [slotOf] using hslot
  sponsors := by
    funext who
    by_cases hwho : who = sponsor
    · subst hwho
      exact congrArg Slot.entry hadvances.slot_self
    · exact congrArg Slot.entry (hadvances.slot_of_ne hwho)
  other := fun who hwho ↦ congrArg Slot.account (hadvances.slot_of_ne hwho)

/-- Validation and preparation of a sponsored transaction on an escrowed slot agree except where a
zero fee is admitted on an account that is not alive. Assumes: an exact ledger. -/
theorem admissionExecutes_iff_of_escrowed
    {config : Config Account Ledger RuntimeCall BaseVal BasePre} {deposit reserved : ℕ}
    (hexact : config.balances.Exact deposit) {sponsor : Account}
    {st : PalletState Account Ledger maxAllowedCallers}
    (hescrowed : Escrowed deposit reserved (slotOf config.balances st sponsor))
    (fees : TransactionPayment) (tip : ℕ) (origin : RawOrigin Account) (call : RuntimeCall)
    (info : DispatchInfo) (len : ℕ) :
    AdmissionExecutes config fees tip sponsor origin call info len st ↔
      ¬ ((∃ signer, Admits (slotOf config.balances st sponsor) origin
            (fees.computeFee (UInt32.ofNat len) info tip) signer) ∧
          fees.computeFee (UInt32.ofNat len) info tip = 0 ∧
          (config.balances.account st.ledger sponsor).alive = false) := by
  unfold AdmissionExecutes
  simp only [validate_sponsored]
  cases hadmission : admission (slotOf config.balances st sponsor) origin
      (fees.computeFee (UInt32.ofNat len) info tip) with
  | error e =>
    -- Nothing is admitted, so both sides hold.
    have hnone : ¬ ∃ signer, Admits (slotOf config.balances st sponsor) origin
        (fees.computeFee (UInt32.ofNat len) info tip) signer := by
      rintro ⟨signer, hadmits⟩
      rw [(admission_eq_ok_iff _ _ _ _).mpr hadmits] at hadmission
      exact absurd hadmission (by simp)
    simp [hnone]
  | ok signer =>
    have hadmits := (admission_eq_ok_iff _ _ _ _).mp hadmission
    have hsome : ∃ signer, Admits (slotOf config.balances st sponsor) origin
        (fees.computeFee (UInt32.ofNat len) info tip) signer := ⟨signer, hadmits⟩
    obtain ⟨prepared, hadvances, hprepare⟩ := prepare_sponsored hexact ⟨tip, some sponsor⟩ sponsor
      signer (fees.computeFee (UInt32.ofNat len) info tip) tip origin call info len st
    rw [reserve_of_escrowed hescrowed hadmits.budget] at hadvances hprepare
    have hreserves := reserves_of_advances hadmits.budget hadvances
    constructor
    · rintro ⟨-, -, hexecutes⟩ ⟨-, hzero, halive⟩
      obtain ⟨pre, prepared', hok, -⟩ := hexecutes _ _ _ _ rfl
      rw [hprepare, if_pos ⟨hzero, halive⟩] at hok
      exact absurd hok (by simp)
    · intro hgap
      have hprovided : ¬ (fees.computeFee (UInt32.ofNat len) info tip = 0 ∧
          (slotOf config.balances st sponsor).account.alive = false) :=
        fun hboth ↦ hgap ⟨hsome, hboth⟩
      rw [if_neg hprovided] at hprepare
      refine ⟨⟨fun _ ↦ hsome, fun _ ↦ ⟨_, _, rfl⟩⟩, rfl, ?_⟩
      intro validity val origin' st' hvalidate
      simp only [EStateM.Result.ok.injEq, Prod.mk.injEq] at hvalidate
      obtain ⟨⟨-, rfl, rfl⟩, rfl⟩ := hvalidate
      exact ⟨_, prepared, hprepare, hreserves⟩

/-- What validation admits, preparation executes, except for one situation. Assumes: an exact
ledger, burned fees, and a run from a state without sponsors and sponsorship holds. In every state
of the run, the two agree on a transaction exactly when it is not a transaction that the sponsor
admits with a worst-case fee of zero while the sponsor's account has no provider. -/
theorem admissionExecutes_iff {config : Config Account Ledger RuntimeCall BaseVal BasePre}
    {deposit : ℕ} (hsound : config.Sound deposit)
    {start : PalletState Account Ledger maxAllowedCallers}
    (hgenesis : Genesis config.balances start)
    {chain : ChainState Account Ledger maxAllowedCallers}
    (hreach : Reachable config deposit start chain) (fees : TransactionPayment) (tip : ℕ)
    (sponsor : Account) (origin : RawOrigin Account) (call : RuntimeCall) (info : DispatchInfo)
    (len : ℕ) :
    AdmissionExecutes config fees tip sponsor origin call info len chain.now.state ↔
      ¬ ((∃ signer, Admits (slotOf config.balances chain.now.state sponsor) origin
            (fees.computeFee (UInt32.ofNat len) info tip) signer) ∧
          fees.computeFee (UInt32.ofNat len) info tip = 0 ∧
          (config.balances.account chain.now.state.ledger sponsor).alive = false) :=
  admissionExecutes_iff_of_escrowed hsound.exact
    ((secured_of_reachable hsound hgenesis hreach).escrowed sponsor) fees tip origin call info len

/-- The transaction of account 2 in the test runtime is admitted and executed. -/
theorem admissionExecutes_mockSponsored :
    AdmissionExecutes mockConfig mockFees 3 1 (.signed 2) () mockInfo 0 mockSponsored.state :=
  (admissionExecutes_iff mockConfig_sound mockState_genesis mockSponsored_reachable mockFees 3 1
    (.signed 2) () mockInfo 0).mpr fun hgap ↦ absurd hgap.2.1 (by decide)

/-! ### A sponsor whose account is gone -/

/-- Sponsor 1 has taken back its whole budget without unregistering. -/
def mockWithdrawn : Stage ℕ MockLedger 8 :=
  mockCall mockSponsored 1 (.decreaseBudget 100)

/-- Sponsor 1 has sent its balance to account 3, and its account was reaped. -/
def reapedLedger : MockLedger :=
  (mockWithdrawn.state.ledger.setAccount 1 (mockAccount 0)).setAccount 3 (mockAccount 2000)

/-- The calls of sponsor 1 left every other account as it was at the start. -/
theorem mockWithdrawn_account_of_ne {who : ℕ} (hwho : who ≠ 1) :
    mockBalances.account mockWithdrawn.state.ledger who =
      mockBalances.account mockState.ledger who := by
  have hexact := mockConfig_sound.exact
  have hwithdrawn := slotOf_dispatch_of_ne hexact mockSponsored.state hwho (.decreaseBudget 100)
  have hsponsored := slotOf_dispatch_of_ne hexact mockState hwho
    (.registerSponsor 100 mockSponsorPolicy)
  exact congrArg Slot.account (hwithdrawn.trans hsponsored)

/-- Nothing is on hold for sponsoring. -/
theorem mockWithdrawn_onHold (who : ℕ) (reason : HoldReason) :
    (mockBalances.account mockWithdrawn.state.ledger who).onHold reason = 0 := by
  by_cases hwho : who = 1
  · subst hwho
    cases reason <;> rfl
  · rw [mockWithdrawn_account_of_ne hwho]
    rfl

/-- The accounts after the transfer. -/
theorem reapedLedger_account (who : ℕ) : mockBalances.account reapedLedger who =
    if who = 3 then mockAccount 2000 else if who = 1 then mockAccount 0
      else mockBalances.account mockState.ledger who := by
  have haccount : mockBalances.account reapedLedger who = Function.update
      (Function.update (mockBalances.account mockWithdrawn.state.ledger) 1 (mockAccount 0)) 3
        (mockAccount 2000) who := rfl
  rw [haccount, Function.update_apply, Function.update_apply]
  by_cases hwho : who = 1
  · simp [hwho]
  · simp [hwho, mockWithdrawn_account_of_ne hwho]

/-- Nothing is on hold for sponsoring, so nothing forbids the transfer. -/
theorem reapedLedger_outsideMove :
    OutsideMove mockBalances 1 mockWithdrawn.state.ledger reapedLedger where
  onHold := by
    intro who
    funext reason
    rw [mockWithdrawn_onHold, reapedLedger_account]
    split_ifs <;> rfl
  alive := by
    intro who hheld
    simp [mockWithdrawn_onHold] at hheld
  free := by
    intro who hheld
    simp [mockWithdrawn_onHold] at hheld
  backed := by
    intro _
    refine Balances.Backed.of_support {2, 3} (fun who hwho ↦ ?_) (by decide)
    simp only [Finset.mem_insert, Finset.mem_singleton, not_or] at hwho
    rw [reapedLedger_account, if_neg hwho.2]
    split_ifs with hone
    · decide
    · have hempty : mockBalances.account mockState.ledger who = mockAccount 0 := by
        change mockAccount (if who ∈ ({1, 2, 3} : Finset ℕ) then 1000 else 0) = mockAccount 0
        rw [if_neg (by simp [hone, hwho.1, hwho.2])]
      rw [hempty]
      decide

/-- Sponsor 1 is still registered, but its account is gone. -/
def mockReaped : Stage ℕ MockLedger 8 :=
  { mockWithdrawn with state := { mockWithdrawn.state with ledger := reapedLedger } }

theorem mockReaped_reachable : Reachable mockConfig 1 mockState ⟨mockReaped, none⟩ :=
  (mockCall_reachable mockSponsored_reachable 1 (.decreaseBudget 100)).advance
    (.outside mockWithdrawn reapedLedger reapedLedger_outsideMove)

/-- The information about a call that pays no fee. -/
def mockFreeInfo : DispatchInfo :=
  { mockInfo with paysFee := .no }

/-- In a reachable state, a call without a fee and a tip is admitted by a sponsor whose account is
gone, and `prepare` refuses it with `Payment`. -/
theorem not_admissionExecutes_reaped :
    Reachable mockConfig 1 mockState ⟨mockReaped, none⟩ ∧
      ¬ AdmissionExecutes mockConfig mockFees 0 1 (.signed 2) () mockFreeInfo 0
        mockReaped.state := by
  refine ⟨mockReaped_reachable, ?_⟩
  rintro ⟨-, -, hexecutes⟩
  obtain ⟨pre, prepared, hok, -⟩ := hexecutes _ _ _ _ rfl
  obtain ⟨st', hrefused⟩ : ∃ st', SponsoredChargeTransactionPayment.prepare mockConfig ⟨0, some 1⟩
      (.sponsored 1 2 0 0) (.signed 2) () mockFreeInfo 0 mockReaped.state =
        .error (.invalid .payment) st' := ⟨_, rfl⟩
  cases hrefused.symm.trans hok

end SponsoredTx.Chain
