import SponsoredTx.Extension.SettlementPaths
import SponsoredTx.Pallet.SponsorSlot

/-!
# The sponsored path acts on the sponsor's slot

Validation, preparation and settlement of a sponsored transaction read and write one slot, the
sponsor's, and never the signer's account. This module gives each of them a meaning on that slot and
proves that the code computes it over any exact ledger.

Validation is `admission`: the six checks in their order, on the origin, the slot and the worst-case
fee (`validate_sponsored`); `admission_eq_ok_iff` reads it as one condition, `Admits`. The move of
`prepare` is `reserve`, which includes the half-done move that a failed hold would leave
(`moveBudgetToPending_eq`). Settlement is `settledAccount`, a slash followed by `restoredAccount`
(`settleSponsoredFee_settles`).
-/

set_option autoImplicit false
set_option relaxedAutoImplicit false

namespace SponsoredTx.Extension

open Foundation.StatefulResult Foundation.HoldLedger Foundation.SaturatingWeight Pallet

variable {Account Ledger RuntimeCall BaseVal BasePre : Type} {maxAllowedCallers : ℕ}
  [DecidableEq Account]

/-! ### Validation -/

/-- The checks of `validate` on the origin, the sponsor's slot and the worst-case fee, in their
order. -/
def admission (slot : Slot Account maxAllowedCallers) (origin : RawOrigin Account)
    (feeWithTip : ℕ) : Except TransactionValidityError Account :=
  match asSystemOriginSigner origin with
  | none => .error (invalid .unsupportedOrigin)
  | some signer =>
    match slot.entry with
    | none => .error (invalid .unknownSponsor)
    | some state =>
      if ¬ state.active then .error (invalid .inactiveSponsor)
      else if ¬ callerAllowed state.policy signer then .error (invalid .callerNotAllowed)
      else if feeWithTip > state.policy.maxFeePerTx then .error (invalid .feeCapExceeded)
      else if slot.budget < feeWithTip then .error (invalid .insufficientBudget)
      else .ok signer

/-- The validity a sponsored transaction is given. -/
def sponsoredValidity (config : Config Account Ledger RuntimeCall BaseVal BasePre)
    (info : DispatchInfo) (len tip feeWithTip : ℕ) : ValidTransaction :=
  { ValidTransaction.default with priority := config.base.getPriority info len tip feeWithTip }

/-- `validate` of a sponsored extension is the admission of the signer by the sponsor's slot, and
leaves the state as it is. -/
theorem validate_sponsored (config : Config Account Ledger RuntimeCall BaseVal BasePre)
    (fees : TransactionPayment) (tip : ℕ) (sponsor : Account) (origin : RawOrigin Account)
    (call : RuntimeCall) (info : DispatchInfo) (len : ℕ)
    (st : PalletState Account Ledger maxAllowedCallers) :
    SponsoredChargeTransactionPayment.validate config fees ⟨tip, some sponsor⟩ origin call info len
        st =
      match admission (slotOf config.balances st sponsor) origin
        (fees.computeFee (UInt32.ofNat len) info tip) with
      | .ok signer =>
        .ok (sponsoredValidity config info len tip (fees.computeFee (UInt32.ofNat len) info tip),
          .sponsored sponsor signer (fees.computeFee (UInt32.ofNat len) info tip) tip, origin) st
      | .error e => .error e st := by
  unfold SponsoredChargeTransactionPayment.validate admission
  cases asSystemOriginSigner origin with
  | none => rfl
  | some signer =>
    simp only [bind_get]
    cases hentry : st.sponsors sponsor with
    | none =>
      have hslot : (slotOf config.balances st sponsor).entry = none := hentry
      rw [hslot]
      rfl
    | some state =>
      have hslot : (slotOf config.balances st sponsor).entry = some state := hentry
      rw [hslot]
      simp only
      by_cases hactive : state.active = true
      · rw [bind_ensure_of hactive, if_neg (not_not.mpr hactive)]
        by_cases hallowed : callerAllowed state.policy signer = true
        · rw [bind_ensure_of hallowed, if_neg (not_not.mpr hallowed)]
          by_cases hcap : fees.computeFee (UInt32.ofNat len) info tip > state.policy.maxFeePerTx
          · rw [bind_ensure_of_not (not_not.mpr hcap), if_pos hcap]
          · rw [bind_ensure_of hcap, if_neg hcap]
            by_cases hbudget : budgetOnHold config.balances st sponsor <
                fees.computeFee (UInt32.ofNat len) info tip
            · rw [bind_ensure_of_not (not_not.mpr hbudget),
                if_pos (show (slotOf config.balances st sponsor).budget < _ from hbudget)]
            · rw [bind_ensure_of hbudget,
                if_neg (show ¬ (slotOf config.balances st sponsor).budget < _ from hbudget)]
              rfl
        · rw [bind_ensure_of_not hallowed, if_pos hallowed]
      · rw [bind_ensure_of_not hactive, if_pos hactive]

section Validate

variable {config : Config Account Ledger RuntimeCall BaseVal BasePre} {fees : TransactionPayment}
  {self : SponsoredChargeTransactionPayment Account} {sponsor : Account}
  {origin : RawOrigin Account} {call : RuntimeCall} {info : DispatchInfo} {len : ℕ}
  {st : PalletState Account Ledger maxAllowedCallers}

/-- What is not admitted is not valid. -/
theorem validate_of_refused (hsponsor : self.sponsor = some sponsor) {e : TransactionValidityError}
    (hadmission : admission (slotOf config.balances st sponsor) origin
      (fees.computeFee (UInt32.ofNat len) info self.tip) = .error e) :
    self.validate config fees origin call info len st = .error e st := by
  obtain ⟨tip, named⟩ := self
  obtain rfl : named = some sponsor := hsponsor
  rw [validate_sponsored, hadmission]

/-- What is valid for a sponsor was admitted by its slot. -/
theorem validate_eq_ok_iff (hsponsor : self.sponsor = some sponsor) {validity : ValidTransaction}
    {val : SponsoredVal Account BaseVal} {origin' : RawOrigin Account}
    {st' : PalletState Account Ledger maxAllowedCallers} :
    self.validate config fees origin call info len st = .ok (validity, val, origin') st' ↔
      ∃ signer, admission (slotOf config.balances st sponsor) origin
          (fees.computeFee (UInt32.ofNat len) info self.tip) = .ok signer ∧
        validity = sponsoredValidity config info len self.tip
          (fees.computeFee (UInt32.ofNat len) info self.tip) ∧
        val = .sponsored sponsor signer (fees.computeFee (UInt32.ofNat len) info self.tip)
          self.tip ∧ origin' = origin ∧ st' = st := by
  obtain ⟨tip, named⟩ := self
  obtain rfl : named = some sponsor := hsponsor
  rw [validate_sponsored]
  cases admission (slotOf config.balances st sponsor) origin
      (fees.computeFee (UInt32.ofNat len) info tip) with
  | error e => simp
  | ok admitted =>
    constructor
    · intro hvalidate
      cases hvalidate
      exact ⟨admitted, rfl, rfl, rfl, rfl, rfl⟩
    · rintro ⟨signer, hsigner, rfl, rfl, rfl, rfl⟩
      cases hsigner
      rfl

end Validate

/-- A slot admits a signer for a fee: the origin is signed by it, the entry exists and is active,
its allowlist contains the signer, and the fee is within the cap and the budget. -/
structure Admits (slot : Slot Account maxAllowedCallers) (origin : RawOrigin Account)
    (feeWithTip : ℕ) (signer : Account) : Prop where
  signed : origin = .signed signer
  policy : ∃ state, slot.entry = some state ∧ state.active = true ∧
    signer ∈ state.policy.allowedCallers.toList ∧ feeWithTip ≤ state.policy.maxFeePerTx
  budget : feeWithTip ≤ slot.budget

omit [DecidableEq Account] in
/-- A signer is read off a signed origin only. -/
theorem asSystemOriginSigner_eq_some_iff (origin : RawOrigin Account) (signer : Account) :
    asSystemOriginSigner origin = some signer ↔ origin = .signed signer := by
  cases origin <;> simp [asSystemOriginSigner]

/-- Admission succeeds exactly on the admitted signer. -/
theorem admission_eq_ok_iff (slot : Slot Account maxAllowedCallers) (origin : RawOrigin Account)
    (feeWithTip : ℕ) (signer : Account) :
    admission slot origin feeWithTip = .ok signer ↔ Admits slot origin feeWithTip signer := by
  constructor
  · intro hadmission
    unfold admission at hadmission
    cases hsigner : asSystemOriginSigner origin with
    | none => simp [hsigner] at hadmission
    | some who =>
      cases hentry : slot.entry with
      | none => simp [hsigner, hentry] at hadmission
      | some state =>
        simp only [hsigner, hentry] at hadmission
        split_ifs at hadmission with hactive hallowed hcap hbudget
        obtain rfl : who = signer := Except.ok.inj hadmission
        refine ⟨(asSystemOriginSigner_eq_some_iff origin who).mp hsigner,
          ⟨state, hentry, ?_, ?_, ?_⟩, not_lt.mp hbudget⟩
        · exact hactive
        · exact (callerAllowed_iff _ _).mp hallowed
        · exact not_lt.mp hcap
  · rintro ⟨rfl, ⟨state, hentry, hactive, hallowed, hcap⟩, hbudget⟩
    rw [← callerAllowed_iff] at hallowed
    simp only [admission, asSystemOriginSigner, hentry, hactive, hallowed, not_true_eq_false,
      if_false, if_neg (not_lt.mpr hcap), if_neg (not_lt.mpr hbudget), gt_iff_lt]

/-- An active entry refuses with `CallerNotAllowed` exactly the signers that are not on its
allowlist. -/
theorem admission_eq_callerNotAllowed_iff {slot : Slot Account maxAllowedCallers}
    {state : SponsorState Account maxAllowedCallers} (hentry : slot.entry = some state)
    (hactive : state.active = true) (signer : Account) (feeWithTip : ℕ) :
    admission slot (.signed signer) feeWithTip = .error (invalid .callerNotAllowed) ↔
      signer ∉ state.policy.allowedCallers.toList := by
  have hchecks : admission slot (.signed signer) feeWithTip =
      if ¬ callerAllowed state.policy signer then .error (invalid .callerNotAllowed)
      else if feeWithTip > state.policy.maxFeePerTx then .error (invalid .feeCapExceeded)
      else if slot.budget < feeWithTip then .error (invalid .insufficientBudget)
      else .ok signer := by
    simp only [admission, asSystemOriginSigner, hentry, hactive, not_true_eq_false, if_false]
  rw [hchecks, ← callerAllowed_iff]
  split_ifs with hallowed hcap hbudget
  · exact iff_of_false (by simp [invalid, InvalidSponsoredTransaction.code]) (not_not.mpr hallowed)
  · exact iff_of_false (by simp [invalid, InvalidSponsoredTransaction.code]) (not_not.mpr hallowed)
  · exact iff_of_false (by simp) (not_not.mpr hallowed)
  · exact iff_of_true rfl hallowed

/-! ### Preparation -/

/-- The move of `prepare` on the sponsor's account: release from the budget hold, then hold as
pending. A failed hold leaves the released amount free. -/
def reserve (deposit : ℕ) (account : AccountData HoldReason) (amount : ℕ) :
    Option TransactionValidityError × AccountData HoldReason :=
  let released := account.withRelease .sponsorshipBudget amount
  if account.CanDeposit deposit amount ∧ amount ≤ account.onHold .sponsorshipBudget then
    if released.CanHold deposit amount then
      (none, released.withHold .sponsorshipPending amount)
    else (some (.invalid .payment), released)
  else (some (.invalid .payment), account)

/-- The result of a computation that returns nothing, from its error if it has one. -/
def resultOf {ε σ : Type} : Option ε → σ → EStateM.Result ε σ PUnit
  | none, st => .ok ⟨⟩ st
  | some e, st => .error e st

/-- `move_budget_to_pending` reserves on the account it is given and changes nothing else, whether
it succeeds or fails. Assumes: an exact ledger. -/
theorem moveBudgetToPending_eq {balances : Balances Account HoldReason Ledger} {deposit : ℕ}
    (hexact : balances.Exact deposit) (who : Account) (amount : ℕ)
    (st : PalletState Account Ledger maxAllowedCallers) :
    ∃ st', Advances balances st who
        { slotOf balances st who with
          account := (reserve deposit (slotOf balances st who).account amount).2 } [] st' ∧
      moveBudgetToPending balances who amount st =
        resultOf (reserve deposit (slotOf balances st who).account amount).1 st' := by
  have hadvances : ∀ {account : AccountData HoldReason} {ledger : Ledger},
      balances.Moved st.ledger who account ledger →
      Advances balances st who { slotOf balances st who with account } [] { st with ledger } :=
    fun hmoved ↦ advances_of_moved hmoved (Function.update_eq_self who _).symm
      (List.append_nil _).symm rfl rfl
  have haccount : (slotOf balances st who).account = balances.account st.ledger who := rfl
  simp only [haccount, reserve]
  by_cases hdeposit : (balances.account st.ledger who).CanDeposit deposit amount
  · by_cases hamount : amount ≤ (balances.account st.ledger who).onHold .sponsorshipBudget
    · obtain ⟨released, hrelease, hmovedRelease⟩ :=
        hexact.release_ok .sponsorshipBudget who amount .exact st.ledger hamount hdeposit
      rw [if_pos ⟨hdeposit, hamount⟩, moveBudgetToPending,
        bind_ok (onPart_ok (mapError_ok hrelease))]
      have hself := hmovedRelease.account_self
      by_cases hhold : ((balances.account st.ledger who).withRelease .sponsorshipBudget
          amount).CanHold deposit amount
      · obtain ⟨held, hheld, hmovedHold⟩ :=
          hexact.hold_ok .sponsorshipPending who amount released (by rwa [hself])
        rw [hself] at hmovedHold
        rw [if_pos hhold]
        exact ⟨_, hadvances (hmovedRelease.trans hmovedHold), onPart_ok (mapError_ok hheld)⟩
      · have hheld := hexact.hold_error .sponsorshipPending who amount released (by rwa [hself])
        rw [if_neg hhold]
        exact ⟨_, hadvances hmovedRelease, onPart_error (mapError_error hheld)⟩
    · have hrelease := hexact.release_short .sponsorshipBudget who amount st.ledger hdeposit
        (not_le.mp hamount)
      rw [if_neg fun hboth ↦ hamount hboth.2, moveBudgetToPending,
        bind_error (onPart_error (mapError_error hrelease))]
      exact ⟨_, hadvances (Balances.Moved.refl balances st.ledger who), rfl⟩
  · have hrelease := hexact.release_dust .sponsorshipBudget who amount .exact st.ledger hdeposit
    rw [if_neg fun hboth ↦ hdeposit hboth.1, moveBudgetToPending,
      bind_error (onPart_error (mapError_error hrelease))]
    exact ⟨_, hadvances (Balances.Moved.refl balances st.ledger who), rfl⟩

/-- `prepare` of a sponsored value is the reservation on the sponsor's slot, and hands the value on.
Assumes: an exact ledger. -/
theorem prepare_sponsored {config : Config Account Ledger RuntimeCall BaseVal BasePre} {deposit : ℕ}
    (hexact : config.balances.Exact deposit) (self : SponsoredChargeTransactionPayment Account)
    (sponsor signer : Account) (feeWithTip tip : ℕ) (origin : RawOrigin Account)
    (call : RuntimeCall) (info : DispatchInfo) (len : ℕ)
    (st : PalletState Account Ledger maxAllowedCallers) :
    ∃ st', Advances config.balances st sponsor
        { slotOf config.balances st sponsor with
          account :=
            (reserve deposit (slotOf config.balances st sponsor).account feeWithTip).2 } [] st' ∧
      self.prepare config (.sponsored sponsor signer feeWithTip tip) origin call info len st =
        match (reserve deposit (slotOf config.balances st sponsor).account feeWithTip).1 with
        | none => .ok (.sponsored sponsor signer feeWithTip tip) st'
        | some e => .error e st' := by
  obtain ⟨st', hadvances, hmove⟩ := moveBudgetToPending_eq hexact sponsor feeWithTip st
  refine ⟨st', hadvances, ?_⟩
  unfold SponsoredChargeTransactionPayment.prepare
  cases hreserve : (reserve deposit (slotOf config.balances st sponsor).account feeWithTip).1 with
  | none =>
    rw [hreserve] at hmove
    exact bind_ok hmove
  | some e =>
    rw [hreserve] at hmove
    exact bind_error hmove

omit [DecidableEq Account] in
/-- `prepare` of an unsponsored value never reserves. -/
theorem prepare_unsponsored_ne (config : Config Account Ledger RuntimeCall BaseVal BasePre)
    (self : SponsoredChargeTransactionPayment Account) (val : BaseVal) (origin : RawOrigin Account)
    (call : RuntimeCall) (info : DispatchInfo) (len : ℕ)
    (st st' : PalletState Account Ledger maxAllowedCallers) (sponsor signer : Account)
    (feeWithTip tip : ℕ) :
    self.prepare config (.unsponsored val) origin call info len st ≠
      .ok (.sponsored sponsor signer feeWithTip tip) st' := by
  cases hbase : config.base.prepare self.tip val origin call info len st.ledger with
  | ok pre ledger =>
    have hrun : self.prepare config (.unsponsored val) origin call info len st =
        .ok (.unsponsored pre) { st with ledger } := (bind_ok (onPart_ok hbase)).trans rfl
    rw [hrun]
    simp
  | error e ledger =>
    have hrun : self.prepare config (.unsponsored val) origin call info len st =
        .error e { st with ledger } := bind_error (onPart_error hbase)
    rw [hrun]
    simp

/-- `validate` without a sponsor hands on an unsponsored value. -/
theorem validate_unsponsored {config : Config Account Ledger RuntimeCall BaseVal BasePre}
    {fees : TransactionPayment} {tip : ℕ} {origin origin' : RawOrigin Account} {call : RuntimeCall}
    {info : DispatchInfo} {len : ℕ} {st st' : PalletState Account Ledger maxAllowedCallers}
    {validity : ValidTransaction} {val : SponsoredVal Account BaseVal}
    (hvalidate : SponsoredChargeTransactionPayment.validate config fees ⟨tip, none⟩ origin call info
      len st = .ok (validity, val, origin') st') : ∃ base, val = .unsponsored base := by
  cases hbase : config.base.validate tip origin call info len st.ledger with
  | ok result ledger =>
    have hrun : SponsoredChargeTransactionPayment.validate config fees ⟨tip, none⟩ origin call info
        len st = .ok (result.1, .unsponsored result.2.1, result.2.2) { st with ledger } :=
      (bind_ok (onPart_ok hbase)).trans rfl
    simp only [hrun, EStateM.Result.ok.injEq, Prod.mk.injEq] at hvalidate
    exact ⟨_, hvalidate.1.2.1.symm⟩
  | error e ledger =>
    have hrun : SponsoredChargeTransactionPayment.validate config fees ⟨tip, none⟩ origin call info
        len st = .error e { st with ledger } := bind_error (onPart_error hbase)
    simp [hrun] at hvalidate

/-! ### Settlement -/

/-- `restore_pending_to_budget` on an account of an exact ledger: the log lines and the account it
leaves. -/
def restoredAccount (deposit : ℕ) (who : Account) (account : AccountData HoldReason) :
    List (LogLine Account) × AccountData HoldReason :=
  let pending := account.onHold .sponsorshipPending
  let released := account.withRelease .sponsorshipPending pending
  if account.CanDeposit deposit pending then
    if pending = 0 ∨ released.CanHold deposit pending then
      ([], released.withHold .sponsorshipBudget pending)
    else ([.failedToRestoreBudget who (released.holdError deposit pending)], released)
  else ([.failedToReleasePending who .cannotCreate], account)

/-- The restore of an exact ledger is determined by the account. Assumes: an exact ledger. -/
theorem restorePendingToBudget_eq {balances : Balances Account HoldReason Ledger} {deposit : ℕ}
    (hexact : balances.Exact deposit) (who : Account)
    (st : PalletState Account Ledger maxAllowedCallers) :
    ∃ ledger, balances.Moved st.ledger who
        (restoredAccount deposit who (balances.account st.ledger who)).2 ledger ∧
      restorePendingToBudget balances who st =
        { st with
          ledger
          log := st.log ++ (restoredAccount deposit who (balances.account st.ledger who)).1 } := by
  by_cases hzero : (balances.account st.ledger who).onHold .sponsorshipPending = 0
  · have hrestored : restoredAccount deposit who (balances.account st.ledger who) =
        ([], balances.account st.ledger who) := by
      simp [restoredAccount, hzero, AccountData.CanDeposit]
    have hpending : pendingOnHold balances st who = 0 := hzero
    simp only [hrestored, restorePendingToBudget, if_pos hpending, List.append_nil]
    exact ⟨st.ledger, Balances.Moved.refl balances st.ledger who, rfl⟩
  · have hpending : pendingOnHold balances st who ≠ 0 := hzero
    simp only [restorePendingToBudget, if_neg hpending]
    by_cases hdeposit : (balances.account st.ledger who).CanDeposit deposit
        ((balances.account st.ledger who).onHold .sponsorshipPending)
    · obtain ⟨released, hrelease, hmovedRelease⟩ :=
        hexact.release_ok .sponsorshipPending who _ .bestEffort st.ledger le_rfl hdeposit
      have hself := hmovedRelease.account_self
      simp only [pendingOnHold, hrelease, if_neg hzero]
      by_cases hhold : ((balances.account st.ledger who).withRelease .sponsorshipPending
          ((balances.account st.ledger who).onHold .sponsorshipPending)).CanHold deposit
            ((balances.account st.ledger who).onHold .sponsorshipPending)
      · obtain ⟨held, hheld, hmovedHold⟩ :=
          hexact.hold_ok .sponsorshipBudget who _ released (by rwa [hself])
        rw [hself] at hmovedHold
        simp only [hheld, restoredAccount, if_pos hdeposit, if_pos (Or.inr hhold), List.append_nil]
        exact ⟨held, hmovedRelease.trans hmovedHold, rfl⟩
      · have hheld := hexact.hold_error .sponsorshipBudget who _ released (by rwa [hself])
        rw [hself] at hheld
        simp only [hheld, restoredAccount, if_pos hdeposit, if_neg (not_or.mpr ⟨hzero, hhold⟩)]
        exact ⟨released, hmovedRelease, rfl⟩
    · have hrelease := hexact.release_dust .sponsorshipPending who _ .bestEffort st.ledger hdeposit
      simp only [pendingOnHold, hrelease, restoredAccount, if_neg hdeposit]
      exact ⟨st.ledger, Balances.Moved.refl balances st.ledger who, rfl⟩

/-- The log lines and the account that a settlement charging `charged` leaves. -/
def settledAccount (deposit : ℕ) (sponsor : Account) (account : AccountData HoldReason)
    (charged : ℕ) : List (LogLine Account) × AccountData HoldReason :=
  restoredAccount deposit sponsor (account.withSlash .sponsorshipPending charged)

/-- Between two pallet states a settlement was made: the sponsor's slot and no other changed, the
charged amount left the issuance, and the fee event was deposited. -/
structure Settles (balances : Balances Account HoldReason Ledger)
    (before : PalletState Account Ledger maxAllowedCallers) (sponsor signer : Account)
    (account : AccountData HoldReason) (charged tip : ℕ) (lines : List (LogLine Account))
    (after : PalletState Account Ledger maxAllowedCallers) : Prop where
  slots : slotOf balances after = Function.update (slotOf balances before) sponsor
    { slotOf balances before sponsor with account }
  totalIssuance :
    balances.totalIssuance after.ledger = balances.totalIssuance before.ledger - charged
  events : after.events = before.events ++
    [.sponsoredTransactionFeePaid sponsor signer charged (min tip charged)]
  routed : after.routed = before.routed ++ [(charged - min tip charged, min tip charged)]
  log : after.log = before.log ++ lines

namespace Settles

variable {balances : Balances Account HoldReason Ledger}
  {before after : PalletState Account Ledger maxAllowedCallers} {sponsor signer : Account}
  {account : AccountData HoldReason} {charged tip : ℕ} {lines : List (LogLine Account)}

/-- The sponsor's slot has the settled account afterwards. -/
theorem slot_self
    (hsettles : Settles balances before sponsor signer account charged tip lines after) :
    slotOf balances after sponsor = { slotOf balances before sponsor with account } := by
  rw [hsettles.slots, Function.update_self]

/-- Every other slot is as before. -/
theorem slot_of_ne
    (hsettles : Settles balances before sponsor signer account charged tip lines after)
    {other : Account} (hother : other ≠ sponsor) :
    slotOf balances after other = slotOf balances before other := by
  rw [hsettles.slots, Function.update_of_ne hother]

/-- The fee event is about the sponsor. -/
theorem eventsAbout_self
    (hsettles : Settles balances before sponsor signer account charged tip lines after) :
    eventsAbout sponsor after.events = eventsAbout sponsor before.events ++
      [.sponsoredTransactionFeePaid sponsor signer charged (min tip charged)] := by
  rw [hsettles.events, eventsAbout_append]
  congr 1
  exact Pallet.eventsAbout_self rfl

/-- The fee event is about nobody else. -/
theorem eventsAbout_of_ne
    (hsettles : Settles balances before sponsor signer account charged tip lines after)
    {other : Account} (hother : other ≠ sponsor) :
    eventsAbout other after.events = eventsAbout other before.events := by
  rw [hsettles.events, eventsAbout_append, Pallet.eventsAbout_of_ne, List.append_nil]
  exact Ne.symm hother

end Settles

/-- `settle_sponsored_fee` charges the sponsor's account and changes nothing else. Assumes: an exact
ledger and burned fees. -/
theorem settleSponsoredFee_settles
    {config : Config Account Ledger RuntimeCall BaseVal BasePre} {deposit : ℕ}
    (hsound : config.Sound deposit) (fees : TransactionPayment) (sponsor signer : Account)
    (estimatedFeeWithTip tip : ℕ) (info : DispatchInfo) (post : PostDispatchInfo) (len : ℕ)
    (st : PalletState Account Ledger maxAllowedCallers) :
    let actual := fees.computeActualFee (UInt32.ofNat len) info post tip
    let slot := slotOf config.balances st sponsor
    let charged := chargedOf actual estimatedFeeWithTip slot.pending
    Settles config.balances st sponsor signer
      (settledAccount deposit sponsor slot.account charged).2 charged tip
      (clampLines estimatedFeeWithTip actual ++
        shortLines sponsor (min actual estimatedFeeWithTip - slot.pending) ++
        (settledAccount deposit sponsor slot.account charged).1)
      (settleSponsoredFee config fees sponsor signer estimatedFeeWithTip tip info post len
        st).2 := by
  intro actual slot charged
  obtain ⟨ledger, hmoved, hrestore⟩ := restorePendingToBudget_eq hsound.exact sponsor
    (routedState config sponsor actual estimatedFeeWithTip tip st)
  have hdestination : ∀ credits ledger,
      config.balances.account (config.feeDestination credits ledger) =
        config.balances.account ledger := by
    intro credits ledger
    rw [hsound.burns]
    exact hsound.exact.dropCredit_account _ ledger
  have haccounts := account_routedState hsound.exact.failSafe hdestination sponsor actual
    estimatedFeeWithTip tip st
  have hself := congrFun haccounts sponsor
  rw [Function.update_self] at hself
  rw [hself] at hmoved hrestore
  rw [settleSponsoredFee_eq hsound.exact.failSafe, hrestore]
  refine ⟨?_, ?_, rfl, rfl, ?_⟩
  · refine slotOf_eq_update ?_ (Function.update_eq_self sponsor _).symm
    change config.balances.account ledger = _
    rw [hmoved.account, haccounts, Function.update_idem]
    rfl
  · obtain ⟨slashed, hslash, hslashed⟩ := hsound.exact.slash_eq .sponsorshipPending sponsor
      (min actual estimatedFeeWithTip) st.ledger
    have hsum : [charged - min tip charged, min tip charged].sum = charged := by
      simp only [List.sum_cons, List.sum_nil]
      omega
    have hrouted : (routedState config sponsor actual estimatedFeeWithTip tip st).ledger =
        config.balances.dropCredit charged slashed := by
      change config.feeDestination [charged - min tip charged, min tip charged] _ = _
      rw [hsound.burns, unitDestination, hsum, hslash]
    change config.balances.totalIssuance ledger = _
    rw [hmoved.totalIssuance, hrouted, hsound.exact.dropCredit_totalIssuance,
      hslashed.totalIssuance]
  · simp only [PalletState.depositEvent, routedState, List.append_assoc]
    rfl

end SponsoredTx.Extension
