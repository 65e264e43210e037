import SponsoredTx.Chain.AuditTrail

/-!
# Sponsors can always get their money back

`unregister` insists on an empty pending hold and releases the whole budget at once, so one stray
pending amount or one history that leaves the free balance below the existential deposit would lock
an escrow for ever. The escrow invariant rules both out: `accepts_unregister` and
`accepts_decreaseBudget` hold on every escrowed slot without a reservation, and
`sponsors_recover_escrow` is what follows for the calls, together with the balance of an account
over its whole history.
-/

set_option autoImplicit false
set_option relaxedAutoImplicit false

namespace SponsoredTx.Chain

open Foundation.HoldLedger Foundation.Runs Pallet Extension

variable {Account Ledger RuntimeCall BaseVal BasePre : Type} {maxAllowedCallers : ℕ}
  [DecidableEq Account]

section Slot

variable {deposit reserved : ℕ} {slot : Slot Account maxAllowedCallers}

/-- A registered sponsor without a reservation can unregister. -/
theorem accepts_unregister (hescrowed : Escrowed deposit 0 slot) (hentry : slot.entry.isSome) :
    slot.Accepts deposit .unregister := by
  refine ⟨hentry, hescrowed.pending_eq, fun hbudget ↦ Or.inr ?_⟩
  have hdeposited := hescrowed.deposited (by omega)
  omega

/-- A registered sponsor can take back any part of its budget hold, with a reservation or
without. -/
theorem accepts_decreaseBudget (hescrowed : Escrowed deposit reserved slot)
    (hentry : slot.entry.isSome) {amount : ℕ} (hpos : 0 < amount) (hamount : amount ≤ slot.budget) :
    slot.Accepts deposit (.decreaseBudget amount) := by
  refine ⟨Nat.ne_of_gt hpos, hentry, hamount, Or.inr ?_⟩
  have hdeposited := hescrowed.deposited (by omega)
  omega

end Slot

/-- A registered sponsor without a reservation unregisters: its entry is removed, its holds are
empty and its budget hold is free again. -/
theorem unregister_of_escrowed {config : Config Account Ledger RuntimeCall BaseVal BasePre}
    {deposit : ℕ} (hsound : config.Sound deposit)
    {st : PalletState Account Ledger maxAllowedCallers} {sponsor : Account}
    (hescrowed : Escrowed deposit 0 (slotOf config.balances st sponsor))
    (hregistered : (slotOf config.balances st sponsor).entry.isSome) :
    ∃ after, dispatch config.balances (.signed sponsor) .unregister st = .ok ⟨⟩ after ∧
      after.sponsors sponsor = none ∧
      budgetOnHold config.balances after sponsor = 0 ∧
      pendingOnHold config.balances after sponsor = 0 ∧
      (config.balances.account after.ledger sponsor).free =
        (slotOf config.balances st sponsor).account.free +
          (slotOf config.balances st sponsor).budget := by
  have haccepts := accepts_unregister hescrowed hregistered
  obtain ⟨after, hok, hadvances⟩ := dispatch_signed_of_accepted hsound.exact
    ((Slot.refusal_eq_none_iff _ deposit _).mpr haccepts)
  have hslot := hadvances.slot_self
  refine ⟨after, hok, congrArg Slot.entry hslot, ?_, ?_, ?_⟩
  · exact (congrArg Slot.budget hslot).trans (by simp [Slot.after, Slot.budget])
  · refine (congrArg Slot.pending hslot).trans ?_
    simpa [Slot.after, Slot.pending] using hescrowed.pending_eq
  · exact congrArg (fun slot ↦ slot.account.free) hslot

/-- Sponsors can always get their money back. Assumes: an exact ledger, burned fees, and a run from
a state without sponsors and sponsorship holds. Between transactions, for every registered sponsor,
active or paused, `unregister` succeeds, removes the entry, empties both holds and frees the budget
hold; `decrease_budget` of any positive part of the budget hold succeeds and frees exactly that
part; and over the whole run, what the account escrowed is what it was charged, what was released
to it and what is still on its budget hold. -/
theorem sponsors_recover_escrow {config : Config Account Ledger RuntimeCall BaseVal BasePre}
    {deposit : ℕ} (hsound : config.Sound deposit)
    {start : PalletState Account Ledger maxAllowedCallers}
    (hgenesis : Genesis config.balances start)
    {chain : ChainState Account Ledger maxAllowedCallers}
    (hreach : Reachable config deposit start chain) (hidle : chain.now.flight = none)
    (sponsor : Account) :
    let st := chain.now.state
    ((st.sponsors sponsor).isSome →
      (∃ after, dispatch config.balances (.signed sponsor) .unregister st = .ok ⟨⟩ after ∧
        after.sponsors sponsor = none ∧
        budgetOnHold config.balances after sponsor = 0 ∧
        pendingOnHold config.balances after sponsor = 0 ∧
        (config.balances.account after.ledger sponsor).free =
          (config.balances.account st.ledger sponsor).free +
            budgetOnHold config.balances st sponsor) ∧
      ∀ amount, 0 < amount → amount ≤ budgetOnHold config.balances st sponsor →
        ∃ after, dispatch config.balances (.signed sponsor) (.decreaseBudget amount) st =
            .ok ⟨⟩ after ∧
          budgetOnHold config.balances after sponsor + amount =
            budgetOnHold config.balances st sponsor ∧
          (config.balances.account after.ledger sponsor).free =
            (config.balances.account st.ledger sponsor).free + amount) ∧
      escrowedBy sponsor chain.now.emitted = chargedTo sponsor chain.now.emitted +
        chain.now.released sponsor + budgetOnHold config.balances st sponsor := by
  intro st
  have hsecured := secured_of_reachable hsound hgenesis hreach
  have haudited := audited_of_reachable hsound hgenesis (checkpoint_reaches hreach).1
  have hescrowed : Escrowed deposit 0 (slotOf config.balances st sponsor) := by
    have hslot := hsecured.escrowed sponsor
    rwa [hidle] at hslot
  constructor
  · intro hentry
    constructor
    · exact unregister_of_escrowed hsound hescrowed hentry
    · intro amount hpos hamount
      have haccepts := accepts_decreaseBudget hescrowed hentry hpos hamount
      obtain ⟨after, hok, hadvances⟩ := dispatch_signed_of_accepted hsound.exact
        ((Slot.refusal_eq_none_iff _ deposit _).mpr haccepts)
      have hslot := hadvances.slot_self
      have hbudget : budgetOnHold config.balances after sponsor =
          budgetOnHold config.balances st sponsor - amount :=
        (congrArg Slot.budget hslot).trans (by simp [Slot.after, Slot.budget, slotOf, budgetOnHold])
      exact ⟨after, hok, by omega, congrArg (fun slot ↦ slot.account.free) hslot⟩
  · have hbalanced := haudited.balanced sponsor
    have hline : (lineOf (slotOf config.balances st sponsor)).budget =
        budgetOnHold config.balances st sponsor := by
      rw [lineOf, hescrowed.pending_eq]
      rfl
    rwa [hline] at hbalanced

/-- After the sponsored transaction of the test runtime, sponsor 1 can take back its last 95, and
its 100 are accounted for. -/
theorem sponsors_recover_escrow_mockSettled :
    (∃ after, dispatch mockBalances (.signed 1) .unregister mockSettled.state = .ok ⟨⟩ after ∧
        (mockBalances.account after.ledger 1).free =
          (mockBalances.account mockSettled.state.ledger 1).free + 95) ∧
      escrowedBy 1 mockSettled.emitted = 100 ∧ chargedTo 1 mockSettled.emitted = 5 ∧
      escrowedBy 1 mockSettled.emitted = chargedTo 1 mockSettled.emitted +
        mockSettled.released 1 + budgetOnHold mockBalances mockSettled.state 1 := by
  obtain ⟨hrecover, hbalanced⟩ :=
    sponsors_recover_escrow mockConfig_sound mockState_genesis mockSettled_reachable rfl 1
  obtain ⟨⟨after, hok, -, -, -, hfree⟩, -⟩ := hrecover (by decide)
  exact ⟨⟨after, hok, hfree⟩, by decide, by decide, hbalanced⟩

end SponsoredTx.Chain
