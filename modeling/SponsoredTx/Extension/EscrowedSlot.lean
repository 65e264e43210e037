import SponsoredTx.Extension.ReservationSlot

/-!
# The escrow invariant of a slot

`Escrowed deposit reserved` ties the parts of a slot together: the pending hold is exactly the
reservation, and while anything is held for sponsoring, the entry exists, the account exists and
the existential deposit stays free. The last two are what makes every later release and hold
succeed, and they survive each step only together with the first two.

Every accepted call keeps it (`Escrowed.after_call`), a reservation adds its amount
(`Escrowed.withReserved`), a settlement clears it (`Escrowed.withSettled`), and so does any outside
movement that respects holds (`Escrowed.of_outside`). On an escrowed slot the two moves simplify:
`reserve_of_escrowed` can fail only for a zero amount on an account that is not alive, and
`settledAccount_of_escrowed` never takes a degraded branch, so `settles_of_escrowed` is the whole
settlement.
-/

set_option autoImplicit false
set_option relaxedAutoImplicit false

namespace SponsoredTx.Extension

open Foundation.HoldLedger Pallet

variable {Account : Type} {maxAllowedCallers : ℕ} [DecidableEq Account]

/-! ### The two moves of the sponsored path -/

/-- Move an amount from the budget hold to the pending hold, through the free balance. -/
def withReserved (account : AccountData HoldReason) (amount : ℕ) : AccountData HoldReason :=
  (account.withRelease .sponsorshipBudget amount).withHold .sponsorshipPending amount

/-- Take an amount out of the pending hold and move the rest to the budget hold. -/
def withSettled (account : AccountData HoldReason) (charged : ℕ) : AccountData HoldReason :=
  let rest := account.onHold .sponsorshipPending - charged
  ((account.withSlash .sponsorshipPending charged).withRelease .sponsorshipPending rest).withHold
    .sponsorshipBudget rest

section Fields

variable (account : AccountData HoldReason) (amount : ℕ)

@[simp] theorem free_withReserved : (withReserved account amount).free = account.free := by
  simp [withReserved]

@[simp] theorem budget_withReserved : (withReserved account amount).onHold .sponsorshipBudget =
    account.onHold .sponsorshipBudget - amount := by
  simp [withReserved]

@[simp] theorem pending_withReserved : (withReserved account amount).onHold .sponsorshipPending =
    account.onHold .sponsorshipPending + amount := by
  simp [withReserved]

@[simp] theorem free_withSettled : (withSettled account amount).free = account.free := by
  simp [withSettled]

@[simp] theorem budget_withSettled : (withSettled account amount).onHold .sponsorshipBudget =
    account.onHold .sponsorshipBudget + (account.onHold .sponsorshipPending - amount) := by
  simp [withSettled]

@[simp] theorem pending_withSettled :
    (withSettled account amount).onHold .sponsorshipPending = 0 := by
  simp [withSettled]

@[simp] theorem withReserved_zero : withReserved account 0 = account := by
  simp [withReserved]

end Fields

/-- Reserving keeps the total balance. -/
theorem total_withReserved {account : AccountData HoldReason} {amount : ℕ}
    (hamount : amount ≤ account.onHold .sponsorshipBudget) :
    (withReserved account amount).total = account.total := by
  have hfree : amount ≤ (account.withRelease .sponsorshipBudget amount).free :=
    Nat.le_add_left _ _
  rw [withReserved, AccountData.total_withHold _ _ hfree, AccountData.total_withRelease _ hamount]

/-- Settling lowers the total balance by the charged amount. -/
theorem total_withSettled {account : AccountData HoldReason} {charged : ℕ}
    (hcharged : charged ≤ account.onHold .sponsorshipPending) :
    (withSettled account charged).total + charged = account.total := by
  have hrest : account.onHold .sponsorshipPending - charged ≤
      (account.withSlash .sponsorshipPending charged).onHold .sponsorshipPending := by simp
  have hfree : account.onHold .sponsorshipPending - charged ≤
      ((account.withSlash .sponsorshipPending charged).withRelease .sponsorshipPending
        (account.onHold .sponsorshipPending - charged)).free := Nat.le_add_left _ _
  rw [withSettled, AccountData.total_withHold _ _ hfree, AccountData.total_withRelease _ hrest,
    AccountData.total_withSlash _ hcharged]

/-! ### The invariant -/

/-- The invariant of a slot on which `reserved` is reserved: the pending hold is the reservation,
and whoever has a sponsorship hold has an entry, a provider, and the existential deposit free. -/
structure Escrowed (deposit reserved : ℕ) (slot : Slot Account maxAllowedCallers) : Prop where
  pending_eq : slot.pending = reserved
  registered : 0 < slot.budget + slot.pending → slot.entry.isSome
  provided : 0 < slot.budget + slot.pending → slot.account.alive = true
  deposited : 0 < slot.budget + slot.pending → deposit ≤ slot.account.free

namespace Escrowed

variable {deposit reserved : ℕ} {slot : Slot Account maxAllowedCallers}

omit [DecidableEq Account] in
/-- A slot without sponsorship holds is escrowed with nothing reserved. -/
theorem of_no_holds (hbudget : slot.budget = 0) (hpending : slot.pending = 0) :
    Escrowed deposit 0 slot where
  pending_eq := hpending
  registered := fun hheld ↦ by omega
  provided := fun hheld ↦ by omega
  deposited := fun hheld ↦ by omega

omit [DecidableEq Account] in
/-- An account without an entry has nothing on hold, so a registration starts from zero. -/
theorem holds_eq_zero_of_entry_eq_none (hescrowed : Escrowed deposit reserved slot)
    (hentry : slot.entry = none) : slot.budget = 0 ∧ slot.pending = 0 := by
  by_contra hholds
  have hheld : 0 < slot.budget + slot.pending := by omega
  have hsome := hescrowed.registered hheld
  rw [hentry] at hsome
  exact absurd hsome (by simp)

omit [DecidableEq Account] in
/-- A slot keeps the invariant when its holds add up to no more than before, its entry and account
do not disappear, and its free balance keeps the deposit. -/
theorem of_le (hescrowed : Escrowed deposit reserved slot)
    {slot' : Slot Account maxAllowedCallers} {reserved' : ℕ} (hpending : slot'.pending = reserved')
    (hheld : slot'.budget + slot'.pending ≤ slot.budget + slot.pending)
    (hentry : slot.entry.isSome → slot'.entry.isSome)
    (halive : slot'.account.alive = slot.account.alive)
    (hfree : slot.account.free ≤ slot'.account.free) : Escrowed deposit reserved' slot' where
  pending_eq := hpending
  registered := fun hpos ↦ hentry (hescrowed.registered (hpos.trans_le hheld))
  provided := fun hpos ↦ halive ▸ hescrowed.provided (hpos.trans_le hheld)
  deposited := fun hpos ↦ (hescrowed.deposited (hpos.trans_le hheld)).trans hfree

omit [DecidableEq Account] in
/-- A new budget hold establishes its own part of the invariant: it needs a provider and leaves the
deposit free. -/
theorem withHold_budget (hescrowed : Escrowed deposit reserved slot) {amount : ℕ}
    (hamount : amount ≠ 0) (hhold : slot.account.CanHold deposit amount)
    {entry : Option (SponsorState Account maxAllowedCallers)} (hentry : entry.isSome) :
    Escrowed deposit reserved
      ⟨entry, slot.account.withHold .sponsorshipBudget amount⟩ where
  pending_eq := by simpa [Slot.pending] using hescrowed.pending_eq
  registered := fun _ ↦ hentry
  provided := fun _ ↦ hhold.1
  deposited := by
    intro _
    have hfree := hhold.2
    simp only [AccountData.free_withHold]
    omega

/-- Every accepted call keeps the invariant, with the same reservation. -/
theorem after_call (hescrowed : Escrowed deposit reserved slot)
    {call : Call Account maxAllowedCallers} (haccepts : slot.Accepts deposit call) :
    Escrowed deposit reserved (slot.after call) := by
  cases call with
  | registerSponsor initialBudget policy =>
    obtain ⟨hamount, -, -, hhold⟩ := haccepts
    exact hescrowed.withHold_budget hamount hhold rfl
  | increaseBudget amount =>
    obtain ⟨hamount, hentry, hhold⟩ := haccepts
    exact hescrowed.withHold_budget hamount hhold hentry
  | decreaseBudget amount =>
    refine hescrowed.of_le (by simpa [Slot.after, Slot.pending] using hescrowed.pending_eq) ?_ id
      rfl ?_ <;> simp [Slot.after, Slot.budget, Slot.pending]
  | setPolicy policy =>
    exact hescrowed.of_le hescrowed.pending_eq le_rfl (by simp [Slot.after]) rfl le_rfl
  | pause => exact hescrowed.of_le hescrowed.pending_eq le_rfl (by simp [Slot.after]) rfl le_rfl
  | resume => exact hescrowed.of_le hescrowed.pending_eq le_rfl (by simp [Slot.after]) rfl le_rfl
  | unregister =>
    -- The call insists on an empty pending hold, and it empties the budget hold itself.
    obtain ⟨-, hpending, -⟩ := haccepts
    have hreserved : reserved = 0 := hescrowed.pending_eq.symm.trans hpending
    subst hreserved
    exact of_no_holds (by simp [Slot.after, Slot.budget])
      (by simpa [Slot.after, Slot.pending] using hpending)

omit [DecidableEq Account] in
/-- A reservation within the budget adds its amount to what is reserved. -/
theorem withReserved (hescrowed : Escrowed deposit reserved slot) {amount : ℕ}
    (hamount : amount ≤ slot.budget) :
    Escrowed deposit (reserved + amount)
      { slot with account := Extension.withReserved slot.account amount } := by
  refine hescrowed.of_le ?_ ?_ id rfl ?_
  · simpa [Slot.pending] using hescrowed.pending_eq
  · simp only [Slot.budget, Slot.pending, budget_withReserved, pending_withReserved] at hamount ⊢
    omega
  · simp

omit [DecidableEq Account] in
/-- A settlement that charges at most the reservation clears it. -/
theorem withSettled (hescrowed : Escrowed deposit reserved slot) (charged : ℕ) :
    Escrowed deposit 0
      { slot with account := Extension.withSettled slot.account charged } := by
  refine hescrowed.of_le ?_ ?_ id rfl ?_
  · simp [Slot.pending]
  · simp only [Slot.budget, Slot.pending, budget_withSettled, pending_withSettled]
    omega
  · simp

omit [DecidableEq Account] in
/-- A movement outside the pallet that leaves the two holds alone, and neither reaps the account nor
takes its free balance below the deposit while something is on hold, keeps the invariant. -/
theorem of_outside (hescrowed : Escrowed deposit reserved slot)
    {account : AccountData HoldReason} (hholds : account.onHold = slot.account.onHold)
    (halive : 0 < slot.budget + slot.pending → slot.account.alive = true →
      account.alive = true)
    (hfree : 0 < slot.budget + slot.pending → deposit ≤ slot.account.free →
      deposit ≤ account.free) :
    Escrowed deposit reserved { slot with account } where
  pending_eq := (congrFun hholds _).trans hescrowed.pending_eq
  registered := by
    intro hpos
    simp only [Slot.budget, Slot.pending, hholds] at hpos
    exact hescrowed.registered hpos
  provided := by
    intro hpos
    simp only [Slot.budget, Slot.pending, hholds] at hpos
    exact halive hpos (hescrowed.provided hpos)
  deposited := by
    intro hpos
    simp only [Slot.budget, Slot.pending, hholds] at hpos
    exact hfree hpos (hescrowed.deposited hpos)

end Escrowed

/-! ### The moves on an escrowed slot -/

omit [DecidableEq Account] in
/-- On an escrowed slot a reservation within the budget is the move, and it is refused only when the
amount is zero and the account has no provider. -/
theorem reserve_of_escrowed {deposit reserved : ℕ} {slot : Slot Account maxAllowedCallers}
    (hescrowed : Escrowed deposit reserved slot) {amount : ℕ} (hamount : amount ≤ slot.budget) :
    reserve deposit slot.account amount =
      (if amount = 0 ∧ slot.account.alive = false then some (.invalid .payment) else none,
        withReserved slot.account amount) := by
  by_cases hzero : amount = 0
  · subst hzero
    by_cases halive : slot.account.alive = false <;>
      simp [reserve, AccountData.CanDeposit, AccountData.CanHold, halive]
  · have hheld : 0 < slot.budget + slot.pending := by omega
    have hdeposited := hescrowed.deposited hheld
    have hdeposit : slot.account.CanDeposit deposit amount := Or.inr (by omega)
    have hhold : (slot.account.withRelease .sponsorshipBudget amount).CanHold deposit amount :=
      ⟨hescrowed.provided hheld, by simp only [AccountData.free_withRelease]; omega⟩
    simp only [reserve, if_pos (And.intro hdeposit hamount), if_pos hhold, hzero, false_and,
      if_false, withReserved]

omit [DecidableEq Account] in
/-- On an escrowed slot a settlement restores the whole rest and logs nothing about it. -/
theorem settledAccount_of_escrowed {deposit reserved : ℕ} {slot : Slot Account maxAllowedCallers}
    (hescrowed : Escrowed deposit reserved slot) (sponsor : Account) (charged : ℕ) :
    settledAccount deposit sponsor slot.account charged =
      ([], withSettled slot.account charged) := by
  have hrest : (slot.account.withSlash .sponsorshipPending charged).onHold .sponsorshipPending =
      slot.pending - charged := by simp
  simp only [settledAccount, restoredAccount, hrest]
  by_cases hzero : slot.pending - charged = 0
  · have hdeposit : (slot.account.withSlash .sponsorshipPending charged).CanDeposit deposit
        (slot.pending - charged) := Or.inl hzero
    rw [if_pos hdeposit, if_pos (Or.inl hzero)]
    rfl
  · have hheld : 0 < slot.budget + slot.pending := by omega
    have hdeposited := hescrowed.deposited hheld
    have hdeposit : (slot.account.withSlash .sponsorshipPending charged).CanDeposit deposit
        (slot.pending - charged) :=
      Or.inr (by simp only [AccountData.free_withSlash]; omega)
    have hhold : ((slot.account.withSlash .sponsorshipPending charged).withRelease
        .sponsorshipPending (slot.pending - charged)).CanHold deposit (slot.pending - charged) :=
      ⟨hescrowed.provided hheld, by
        simp only [AccountData.free_withRelease, AccountData.free_withSlash]
        omega⟩
    rw [if_pos hdeposit, if_pos (Or.inr hhold)]
    rfl

/-- The settlement of a transaction whose estimate is reserved: nothing is short, the smaller of the
actual fee and the estimate is charged, and the rest is restored without a log line. Assumes: an
exact ledger and burned fees. -/
theorem settles_of_escrowed {Ledger RuntimeCall BaseVal BasePre : Type}
    {config : Config Account Ledger RuntimeCall BaseVal BasePre} {deposit : ℕ}
    (hsound : config.Sound deposit) {sponsor : Account} {estimatedFeeWithTip : ℕ}
    {st : PalletState Account Ledger maxAllowedCallers}
    (hescrowed : Escrowed deposit estimatedFeeWithTip (slotOf config.balances st sponsor))
    (fees : TransactionPayment) (signer : Account) (tip : ℕ) (info : DispatchInfo)
    (post : PostDispatchInfo) (len : ℕ) :
    let actual := fees.computeActualFee (UInt32.ofNat len) info post tip
    Settles config.balances st sponsor signer
      (withSettled (slotOf config.balances st sponsor).account (min actual estimatedFeeWithTip))
      (min actual estimatedFeeWithTip) tip (clampLines estimatedFeeWithTip actual)
      (settleSponsoredFee config fees sponsor signer estimatedFeeWithTip tip info post len
        st).2 := by
  intro actual
  have hsettles := settleSponsoredFee_settles hsound fees sponsor signer estimatedFeeWithTip tip
    info post len st
  have hcharged : chargedOf actual estimatedFeeWithTip estimatedFeeWithTip =
      min actual estimatedFeeWithTip := by
    rw [chargedOf]
    omega
  have hmissing : min actual estimatedFeeWithTip - estimatedFeeWithTip = 0 := by omega
  simp only [hescrowed.pending_eq] at hsettles
  rw [hcharged, settledAccount_of_escrowed hescrowed, hmissing] at hsettles
  simpa [shortLines] using hsettles

end SponsoredTx.Extension
