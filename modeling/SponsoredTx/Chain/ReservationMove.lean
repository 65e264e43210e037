import SponsoredTx.Chain.AdmissionGap

/-!
# The move from budget to pending is all or nothing

`move_budget_to_pending` releases from the budget hold and then holds as pending, and undoes nothing
when the second step fails: `reserve` has a branch that leaves the released amount free. No
reachable state takes that branch. A release within the budget finds a nonzero hold, so the account
exists and keeps its existential deposit free (`Escrowed`), and the amount just released can be held
again.

`moveBudgetToPending_all_or_nothing` states the consequence for every reachable state, account and
amount, with the two ways in which the move can fail.
-/

set_option autoImplicit false
set_option relaxedAutoImplicit false

namespace SponsoredTx.Chain

open Foundation.HoldLedger Pallet Extension

variable {Account Ledger RuntimeCall BaseVal BasePre : Type} {maxAllowedCallers : ℕ}
  [DecidableEq Account]

/-- Between two states neither an account nor an entry changed. -/
structure Untouched (balances : Balances Account HoldReason Ledger)
    (before after : PalletState Account Ledger maxAllowedCallers) : Prop where
  account : ∀ who, balances.account after.ledger who = balances.account before.ledger who
  sponsors : after.sponsors = before.sponsors

/-- A slot advanced to its own value leaves everything untouched. -/
theorem untouched_of_advances {balances : Balances Account HoldReason Ledger}
    {st st' : PalletState Account Ledger maxAllowedCallers} {who : Account}
    {slot : Slot Account maxAllowedCallers} {emitted : List (Event Account)}
    (hadvances : Advances balances st who slot emitted st')
    (hslot : slot = slotOf balances st who) : Untouched balances st st' := by
  have hslots : slotOf balances st' = slotOf balances st := by
    rw [hadvances.slots, hslot, Function.update_eq_self]
  constructor
  · intro other
    exact congrArg Slot.account (congrFun hslots other)
  · funext other
    exact congrArg Slot.entry (congrFun hslots other)

/-- On an escrowed slot the move succeeds whole or fails without a trace. Assumes: an exact
ledger. -/
theorem moveBudgetToPending_of_escrowed {balances : Balances Account HoldReason Ledger}
    {deposit reserved : ℕ} (hexact : balances.Exact deposit)
    {st : PalletState Account Ledger maxAllowedCallers} {who : Account}
    (hescrowed : Escrowed deposit reserved (slotOf balances st who)) (amount : ℕ) :
    (∃ after, moveBudgetToPending balances who amount st = .ok ⟨⟩ after ∧
        Reserves balances st who amount after) ∨
      ∃ e after, moveBudgetToPending balances who amount st = .error e after ∧
        Untouched balances st after ∧
        (budgetOnHold balances st who < amount ∨
          amount = 0 ∧ (balances.account st.ledger who).alive = false) := by
  obtain ⟨after, hadvances, hmove⟩ := moveBudgetToPending_eq hexact who amount st
  by_cases hamount : amount ≤ (slotOf balances st who).budget
  · rw [reserve_of_escrowed hescrowed hamount] at hadvances hmove
    by_cases hgone : amount = 0 ∧ (slotOf balances st who).account.alive = false
    · -- The hold of zero fails after the release of zero, so nothing is left half done.
      rw [if_pos hgone] at hmove
      refine Or.inr ⟨_, after, hmove, untouched_of_advances hadvances ?_, Or.inr hgone⟩
      rw [hgone.1, withReserved_zero]
    · rw [if_neg hgone] at hmove
      exact Or.inl ⟨after, hmove, reserves_of_advances hamount hadvances⟩
  · have hreserve : reserve deposit (slotOf balances st who).account amount =
        (some (.invalid .payment), (slotOf balances st who).account) :=
      if_neg fun hboth ↦ hamount hboth.2
    rw [hreserve] at hadvances hmove
    exact Or.inr ⟨_, after, hmove, untouched_of_advances hadvances rfl,
      Or.inl (not_le.mp hamount)⟩

/-- The move from budget to pending is all or nothing. Assumes: an exact ledger, burned fees, and a
run from a state without sponsors and sponsorship holds. In every state of the run, for every
account and amount, the move returns `Ok` with the budget hold lowered and the pending hold raised
by the amount and everything else as before, or it returns an error with all balances and holds as
before. It fails only for an amount above the budget hold, or for zero on an account that is
gone. -/
theorem moveBudgetToPending_all_or_nothing
    {config : Config Account Ledger RuntimeCall BaseVal BasePre} {deposit : ℕ}
    (hsound : config.Sound deposit) {start : PalletState Account Ledger maxAllowedCallers}
    (hgenesis : Genesis config.balances start)
    {chain : ChainState Account Ledger maxAllowedCallers}
    (hreach : Reachable config deposit start chain) (who : Account) (amount : ℕ) :
    (∃ after, moveBudgetToPending config.balances who amount chain.now.state = .ok ⟨⟩ after ∧
        Reserves config.balances chain.now.state who amount after) ∨
      ∃ e after, moveBudgetToPending config.balances who amount chain.now.state = .error e after ∧
        Untouched config.balances chain.now.state after ∧
        (budgetOnHold config.balances chain.now.state who < amount ∨
          amount = 0 ∧ (config.balances.account chain.now.state.ledger who).alive = false) :=
  moveBudgetToPending_of_escrowed hsound.exact
    ((secured_of_reachable hsound hgenesis hreach).escrowed who) amount

/-- In the test runtime the whole budget of 100 of sponsor 1 can be moved. -/
theorem moveBudgetToPending_mockSponsored :
    ∃ after, moveBudgetToPending mockBalances 1 100 mockSponsored.state = .ok ⟨⟩ after ∧
      Reserves mockBalances mockSponsored.state 1 100 after := by
  rcases moveBudgetToPending_all_or_nothing mockConfig_sound mockState_genesis
    mockSponsored_reachable 1 100 with hmoved | ⟨e, after, -, -, hfails⟩
  · exact hmoved
  · exact absurd hfails (by decide)

end SponsoredTx.Chain
