import SponsoredTx.Chain.SponsoredRuns

/-!
# Reservations are never orphaned or leaked

In every state of every run, also in the middle of a body and after a rollback, a sponsorship hold
belongs to a registered sponsor and the pending hold is exactly the estimate of the transaction in
flight (`reservation_never_orphaned`). The sponsor can therefore not leave while its reservation is
open: `unregister_refused_of_pending` is the guard that stops it.
-/

set_option autoImplicit false
set_option relaxedAutoImplicit false

namespace SponsoredTx.Chain

open Foundation.HoldLedger Foundation.Runs Pallet Extension

variable {Account Ledger RuntimeCall BaseVal BasePre : Type} {maxAllowedCallers : ℕ}
  [DecidableEq Account] {config : Config Account Ledger RuntimeCall BaseVal BasePre} {deposit : ℕ}

/-- A registered sponsor with something pending cannot unregister. Assumes: an exact ledger. -/
theorem unregister_refused_of_pending {balances : Balances Account HoldReason Ledger}
    (hexact : balances.Exact deposit) {st : PalletState Account Ledger maxAllowedCallers}
    {who : Account} (hentry : (st.sponsors who).isSome)
    (hpending : pendingOnHold balances st who ≠ 0) :
    dispatch balances (.signed who) .unregister st =
      .error (.module .pendingBudgetNotEmpty) st := by
  refine dispatch_signed_of_refused hexact ?_
  have hslot : (slotOf balances st who).entry.isSome := hentry
  have hheld : ¬ (slotOf balances st who).pending = 0 := hpending
  simp only [Slot.refusal, Slot.require, if_pos hslot, if_neg hheld]

/-- No reservation is orphaned or leaked. Assumes: an exact ledger, burned fees, and a run from a
state without sponsors and sponsorship holds. At every point of the run, a nonzero sponsorship hold
implies an entry, the pending hold is the estimate of the transaction in flight on its sponsor and
zero everywhere else, and a nonzero estimate in flight implies that its sponsor is registered and
that its `unregister` fails. -/
theorem reservation_never_orphaned (hsound : config.Sound deposit)
    {start : PalletState Account Ledger maxAllowedCallers}
    (hgenesis : Genesis config.balances start)
    {chain : ChainState Account Ledger maxAllowedCallers}
    (hreach : Reachable config deposit start chain) :
    (∀ who, budgetOnHold config.balances chain.now.state who ≠ 0 ∨
        pendingOnHold config.balances chain.now.state who ≠ 0 →
      (chain.now.state.sponsors who).isSome) ∧
      (∀ flight, chain.now.flight = some flight →
        pendingOnHold config.balances chain.now.state flight.sponsor = flight.estimatedFeeWithTip ∧
        ∀ who, who ≠ flight.sponsor → pendingOnHold config.balances chain.now.state who = 0) ∧
      (chain.now.flight = none → ∀ who, pendingOnHold config.balances chain.now.state who = 0) ∧
      (∀ flight, chain.now.flight = some flight → flight.estimatedFeeWithTip ≠ 0 →
        (chain.now.state.sponsors flight.sponsor).isSome ∧
        dispatch config.balances (.signed flight.sponsor) .unregister chain.now.state =
          .error (.module .pendingBudgetNotEmpty) chain.now.state) := by
  have hsecured := secured_of_reachable hsound hgenesis hreach
  have hregistered : ∀ who, budgetOnHold config.balances chain.now.state who ≠ 0 ∨
      pendingOnHold config.balances chain.now.state who ≠ 0 →
        (chain.now.state.sponsors who).isSome := by
    intro who hheld
    refine (hsecured.escrowed who).registered ?_
    change 0 < budgetOnHold config.balances chain.now.state who +
      pendingOnHold config.balances chain.now.state who
    omega
  have hpending : ∀ who, pendingOnHold config.balances chain.now.state who =
      reservedOn chain.now.flight who := fun who ↦ (hsecured.escrowed who).pending_eq
  refine ⟨hregistered, ?_, ?_, ?_⟩
  · intro flight hflight
    refine ⟨hsecured.pending_eq hflight, ?_⟩
    intro who hwho
    rw [hpending, hflight, reservedOn, if_neg (Ne.symm hwho)]
  · intro hidle who
    rw [hpending, hidle, reservedOn]
  · intro flight hflight hestimate
    have hheld : pendingOnHold config.balances chain.now.state flight.sponsor ≠ 0 :=
      fun hzero ↦ hestimate ((hsecured.pending_eq hflight).symm.trans hzero)
    have hentry := hregistered flight.sponsor (Or.inr hheld)
    exact ⟨hentry, unregister_refused_of_pending hsound.exact hentry hheld⟩

/-- In the run of the test runtime with a transaction of account 2 in flight, sponsor 1 has 5
pending and cannot unregister. -/
theorem reservation_never_orphaned_mockInFlight :
    pendingOnHold mockBalances mockInFlight.state 1 = 5 ∧
      dispatch mockBalances (.signed 1) .unregister mockInFlight.state =
        .error (.module .pendingBudgetNotEmpty) mockInFlight.state := by
  obtain ⟨-, hpending, -, hopen⟩ :=
    reservation_never_orphaned mockConfig_sound mockState_genesis mockInFlight_reachable
  exact ⟨(hpending _ rfl).1, (hopen _ rfl (by decide)).2⟩

end SponsoredTx.Chain
