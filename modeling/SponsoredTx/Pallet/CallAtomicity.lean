import SponsoredTx.Pallet.PolicyCheck
import SponsoredTx.Pallet.SponsorSlot

/-!
# Lifecycle calls are atomic, exact and framed

Each of the seven calls has up to five points at which it can fail, some of them after it asked the
balances pallet for an operation. This module says when a call succeeds and what it may touch, for
every state and over any fail-safe ledger, without a storage layer that undoes writes.

`Performable` is the success condition of a call, with the ledger's own verdict where the call needs
a hold or a release. `Framed` is what a successful call changed and kept. `dispatch_atomic` states
both directions: a performable call returns `Ok` and is framed, and every other call returns an
error with the state it started from.
-/

set_option autoImplicit false
set_option relaxedAutoImplicit false

namespace SponsoredTx.Pallet

open Foundation.StatefulResult Foundation.HoldLedger

variable {Account Ledger : Type} {maxAllowedCallers : ℕ} [DecidableEq Account]

/-! ### When a call succeeds -/

/-- The ledger performs an operation. -/
def Performs {α : Type} (op : EStateM TokenError Ledger α) (ledger : Ledger) : Prop :=
  ∃ a ledger', op ledger = .ok a ledger'

/-- What a call needs of the state to succeed. -/
def Performable (balances : Balances Account HoldReason Ledger)
    (st : PalletState Account Ledger maxAllowedCallers) (who : Account) :
    Call Account maxAllowedCallers → Prop
  | .registerSponsor initialBudget policy =>
    initialBudget ≠ 0 ∧ st.sponsors who = none ∧ policy.WellFormed ∧
      Performs (balances.hold .sponsorshipBudget who initialBudget) st.ledger
  | .increaseBudget amount =>
    amount ≠ 0 ∧ (st.sponsors who).isSome ∧
      Performs (balances.hold .sponsorshipBudget who amount) st.ledger
  | .decreaseBudget amount =>
    amount ≠ 0 ∧ (st.sponsors who).isSome ∧ amount ≤ budgetOnHold balances st who ∧
      Performs (balances.release .sponsorshipBudget who amount .exact) st.ledger
  | .setPolicy policy => policy.WellFormed ∧ (st.sponsors who).isSome
  | .pause => ∃ state, st.sponsors who = some state ∧ state.active = true
  | .resume => ∃ state, st.sponsors who = some state ∧ state.active = false
  | .unregister =>
    (st.sponsors who).isSome ∧ pendingOnHold balances st who = 0 ∧
      (budgetOnHold balances st who ≠ 0 →
        Performs (balances.release .sponsorshipBudget who (budgetOnHold balances st who) .exact)
          st.ledger)

omit [DecidableEq Account] in
/-- The ledger performs an operation when it does not refuse it. -/
theorem ledgerRefusal_eq_none_iff {α : Type} (op : EStateM TokenError Ledger α) (ledger : Ledger) :
    ledgerRefusal op ledger = none ↔ Performs op ledger := by
  unfold ledgerRefusal Performs
  cases op ledger <;> simp

/-- A call is performable when no check refuses it. -/
theorem refusalIn_eq_none_iff (balances : Balances Account HoldReason Ledger)
    (st : PalletState Account Ledger maxAllowedCallers) (who : Account)
    (call : Call Account maxAllowedCallers) :
    refusalIn balances st who call = none ↔ Performable balances st who call := by
  cases call with
  | registerSponsor initialBudget policy =>
    simp [refusalIn, Performable, Slot.require_eq_none_iff, Slot.policyRefusal_eq_none_iff,
      ensureValidPolicy_eq_ok_iff, ledgerRefusal_eq_none_iff]
  | increaseBudget amount =>
    simp [refusalIn, Performable, Slot.require_eq_none_iff, ledgerRefusal_eq_none_iff]
  | decreaseBudget amount =>
    simp [refusalIn, Performable, Slot.require_eq_none_iff, ledgerRefusal_eq_none_iff]
  | setPolicy policy =>
    simp [refusalIn, Performable, Slot.require_eq_none_iff, Slot.policyRefusal_eq_none_iff,
      ensureValidPolicy_eq_ok_iff]
  | pause =>
    cases hentry : st.sponsors who <;>
      simp [refusalIn, Performable, hentry, Slot.require_eq_none_iff]
  | resume =>
    cases hentry : st.sponsors who <;>
      simp [refusalIn, Performable, hentry, Slot.require_eq_none_iff]
  | unregister =>
    by_cases hbudget : budgetOnHold balances st who = 0 <;>
      simp [refusalIn, Performable, Slot.require_eq_none_iff, ledgerRefusal_eq_none_iff, hbudget]

/-! ### What a successful call changes -/

/-- The amount a call moves is there: a hold takes no more than the free balance, and a release no
more than the budget hold. -/
def Slot.Covers (slot : Slot Account maxAllowedCallers) : Call Account maxAllowedCallers → Prop
  | .registerSponsor initialBudget _ => initialBudget ≤ slot.account.free
  | .increaseBudget amount => amount ≤ slot.account.free
  | .decreaseBudget amount => amount ≤ slot.budget
  | .setPolicy _ => True
  | .pause => True
  | .resume => True
  | .unregister => True

/-- A hold that a fail-safe ledger performs takes no more than the free balance. -/
theorem le_free_of_performs {balances : Balances Account HoldReason Ledger}
    (hledger : balances.FailSafe) {who : Account} {amount : ℕ} {ledger : Ledger}
    (hperforms : Performs (balances.hold .sponsorshipBudget who amount) ledger) :
    amount ≤ (balances.account ledger who).free := by
  obtain ⟨a, ledger', hok⟩ := hperforms
  rcases hledger.hold_cases .sponsorshipBudget who amount ledger with ⟨e, herror⟩ | ⟨hfree, -⟩
  · rw [hok] at herror
    exact absurd herror (by simp)
  · exact hfree

/-- The amount of a performable call is there. Assumes: a fail-safe ledger. -/
theorem Performable.covers {balances : Balances Account HoldReason Ledger}
    (hledger : balances.FailSafe) {st : PalletState Account Ledger maxAllowedCallers}
    {who : Account} {call : Call Account maxAllowedCallers}
    (hperformable : Performable balances st who call) :
    (slotOf balances st who).Covers call := by
  cases call with
  | registerSponsor initialBudget policy =>
    obtain ⟨-, -, -, hhold⟩ := hperformable
    exact le_free_of_performs hledger hhold
  | increaseBudget amount =>
    obtain ⟨-, -, hhold⟩ := hperformable
    exact le_free_of_performs hledger hhold
  | decreaseBudget amount =>
    obtain ⟨-, -, hamount, -⟩ := hperformable
    exact hamount
  | setPolicy policy => trivial
  | pause => trivial
  | resume => trivial
  | unregister => trivial

section After

variable (slot : Slot Account maxAllowedCallers) (call : Call Account maxAllowedCallers)

omit [DecidableEq Account] in
/-- A call moves balance between the free balance and the budget hold, so their sum stays. -/
theorem Slot.free_add_budget_after (hcovers : slot.Covers call) :
    (slot.after call).account.free + (slot.after call).budget =
      slot.account.free + slot.budget := by
  cases call with
  | registerSponsor initialBudget policy =>
    have hamount : initialBudget ≤ slot.account.free := hcovers
    simp only [Slot.after, Slot.budget, AccountData.free_withHold, AccountData.onHold_withHold,
      if_true]
    omega
  | increaseBudget amount =>
    have hamount : amount ≤ slot.account.free := hcovers
    simp only [Slot.after, Slot.budget, AccountData.free_withHold, AccountData.onHold_withHold,
      if_true]
    omega
  | decreaseBudget amount =>
    have hamount : amount ≤ slot.account.onHold .sponsorshipBudget := hcovers
    simp only [Slot.after, Slot.budget, AccountData.free_withRelease,
      AccountData.onHold_withRelease, if_true]
    omega
  | setPolicy policy => rfl
  | pause => rfl
  | resume => rfl
  | unregister => simp [Slot.after, Slot.budget]

omit [DecidableEq Account] in
/-- No call touches the pending hold, the other holds or the existence of its caller. -/
theorem Slot.rest_after :
    (slot.after call).pending = slot.pending ∧
      (slot.after call).account.untracked = slot.account.untracked ∧
      (slot.after call).account.alive = slot.account.alive := by
  cases call <;> exact ⟨by simp [Slot.after, Slot.pending], rfl, rfl⟩

end After

/-- The calls that are about the policy or the activity of an entry only. -/
def Call.KeepsBalances : Call Account maxAllowedCallers → Prop
  | .registerSponsor _ _ => False
  | .increaseBudget _ => False
  | .decreaseBudget _ => False
  | .setPolicy _ => True
  | .pause => True
  | .resume => True
  | .unregister => False

/-- What a call does to the entry of its caller: `set_policy` keeps the activity, `pause` and
`resume` keep the policy, and the budget calls keep the entry. -/
def Call.Writes : Call Account maxAllowedCallers → Option (SponsorState Account maxAllowedCallers) →
    Option (SponsorState Account maxAllowedCallers) → Prop
  | .registerSponsor _ policy, _, after => after = some { active := true, policy }
  | .increaseBudget _, before, after => after = before
  | .decreaseBudget _, before, after => after = before
  | .setPolicy policy, before, after =>
    ∃ active, before.map SponsorState.active = some active ∧ after = some { active, policy }
  | .pause, before, after =>
    ∃ policy, before.map SponsorState.policy = some policy ∧
      after = some { active := false, policy }
  | .resume, before, after =>
    ∃ policy, before.map SponsorState.policy = some policy ∧
      after = some { active := true, policy }
  | .unregister, _, after => after = none

/-- A call changed the entry of its caller as it says, moved balance between the caller's free
balance and budget hold only, deposited exactly its event, and kept everything else. -/
structure Framed (balances : Balances Account HoldReason Ledger)
    (before : PalletState Account Ledger maxAllowedCallers) (who : Account)
    (call : Call Account maxAllowedCallers)
    (after : PalletState Account Ledger maxAllowedCallers) : Prop where
  entry : call.Writes (before.sponsors who) (after.sponsors who)
  entry_of_ne : ∀ other, other ≠ who → after.sponsors other = before.sponsors other
  account : balances.account after.ledger who = ((slotOf balances before who).after call).account
  account_of_ne : ∀ other, other ≠ who →
    balances.account after.ledger other = balances.account before.ledger other
  free_add_budget : (balances.account after.ledger who).free + budgetOnHold balances after who =
    (balances.account before.ledger who).free + budgetOnHold balances before who
  pending : pendingOnHold balances after who = pendingOnHold balances before who
  untracked : (balances.account after.ledger who).untracked =
    (balances.account before.ledger who).untracked
  alive : (balances.account after.ledger who).alive = (balances.account before.ledger who).alive
  keepsBalances : call.KeepsBalances → ∀ other,
    balances.account after.ledger other = balances.account before.ledger other
  totalIssuance : balances.totalIssuance after.ledger = balances.totalIssuance before.ledger
  events : after.events =
    before.events ++ [(slotOf balances before who).announcement who call]
  routed : after.routed = before.routed
  log : after.log = before.log

omit [DecidableEq Account] in
/-- A performable call writes the entry of its caller as it says. -/
theorem Performable.writes {balances : Balances Account HoldReason Ledger}
    {st : PalletState Account Ledger maxAllowedCallers} {who : Account}
    {call : Call Account maxAllowedCallers} (hperformable : Performable balances st who call) :
    call.Writes (st.sponsors who) ((slotOf balances st who).after call).entry := by
  cases call with
  | registerSponsor initialBudget policy => rfl
  | increaseBudget amount => rfl
  | decreaseBudget amount => rfl
  | setPolicy policy =>
    obtain ⟨-, hsome⟩ := hperformable
    obtain ⟨state, hentry⟩ := Option.isSome_iff_exists.mp hsome
    refine ⟨state.active, ?_, ?_⟩ <;> simp [Slot.after, slotOf, hentry]
  | pause =>
    obtain ⟨state, hentry, -⟩ := hperformable
    refine ⟨state.policy, ?_, ?_⟩ <;> simp [Slot.after, slotOf, hentry]
  | resume =>
    obtain ⟨state, hentry, -⟩ := hperformable
    refine ⟨state.policy, ?_, ?_⟩ <;> simp [Slot.after, slotOf, hentry]
  | unregister => rfl

/-- A performable call that advances the slot of its caller is framed. Assumes: a fail-safe
ledger. -/
theorem Performable.framed {balances : Balances Account HoldReason Ledger}
    (hledger : balances.FailSafe) {st st' : PalletState Account Ledger maxAllowedCallers}
    {who : Account} {call : Call Account maxAllowedCallers}
    (hperformable : Performable balances st who call)
    (hadvances : Advances balances st who ((slotOf balances st who).after call)
      [(slotOf balances st who).announcement who call] st') :
    Framed balances st who call st' := by
  have hentry : st'.sponsors who = ((slotOf balances st who).after call).entry :=
    congrArg Slot.entry hadvances.slot_self
  have haccount : balances.account st'.ledger who = ((slotOf balances st who).after call).account :=
    congrArg Slot.account hadvances.slot_self
  have haccountOfNe : ∀ other, other ≠ who →
      balances.account st'.ledger other = balances.account st.ledger other :=
    fun other hother ↦ congrArg Slot.account (hadvances.slot_of_ne hother)
  obtain ⟨hpending, huntracked, halive⟩ := (slotOf balances st who).rest_after call
  constructor
  case entry => rw [hentry]; exact hperformable.writes
  case entry_of_ne => exact fun other hother ↦ congrArg Slot.entry (hadvances.slot_of_ne hother)
  case account => exact haccount
  case account_of_ne => exact haccountOfNe
  case free_add_budget =>
    rw [budgetOnHold, haccount]
    exact Slot.free_add_budget_after _ _ (hperformable.covers hledger)
  case pending => rw [pendingOnHold, haccount]; exact hpending
  case untracked => rw [haccount]; exact huntracked
  case alive => rw [haccount]; exact halive
  case keepsBalances =>
    intro hkeeps other
    by_cases hother : other = who
    · subst hother
      rw [haccount]
      cases call <;> first | rfl | exact hkeeps.elim
    · exact haccountOfNe other hother
  case totalIssuance => exact hadvances.totalIssuance
  case events => exact hadvances.events
  case routed => exact hadvances.routed
  case log => exact hadvances.log

/-! ### Every call succeeds whole or fails without a trace -/

/-- Lifecycle calls are atomic, exact and framed. Assumes: a fail-safe ledger, whose `hold` and
`release` fail unchanged or move the amount they are asked for. From every state, whatever the
origin and the call: if the origin is signed by an account for which the call is performable, the
call returns `Ok`, and it changes nothing outside the caller's entry, free balance and budget hold;
otherwise it returns an error, and the state is the one it started from. -/
theorem dispatch_atomic {balances : Balances Account HoldReason Ledger}
    (hledger : balances.FailSafe) (st : PalletState Account Ledger maxAllowedCallers)
    (origin : RawOrigin Account) (call : Call Account maxAllowedCallers) :
    (∃ who, origin = .signed who ∧ Performable balances st who call ∧
        ∃ after, dispatch balances origin call st = .ok ⟨⟩ after ∧
          Framed balances st who call after) ∨
      ((∀ who, origin = .signed who → ¬ Performable balances st who call) ∧
        ∃ e, dispatch balances origin call st = .error e st) := by
  by_cases horigin : ∃ who, origin = .signed who
  · obtain ⟨who, rfl⟩ := horigin
    have hrefines := dispatch_refines_of_failSafe hledger st who call
    cases hrefusal : refusalIn balances st who call with
    | none =>
      have hperformable := (refusalIn_eq_none_iff balances st who call).mp hrefusal
      rw [hrefusal] at hrefines
      obtain ⟨after, hok, hadvances⟩ := hrefines
      exact Or.inl ⟨who, rfl, hperformable, after, hok, hperformable.framed hledger hadvances⟩
    | some e =>
      rw [hrefusal] at hrefines
      refine Or.inr ⟨?_, e, hrefines⟩
      intro signer hsigner hperformable
      obtain rfl : who = signer := RawOrigin.signed.inj hsigner
      rw [(refusalIn_eq_none_iff balances st who call).mpr hperformable] at hrefusal
      exact absurd hrefusal (by simp)
  · refine Or.inr ⟨?_, .badOrigin, dispatch_of_not_signed st ?_ call⟩
    · intro who hsigned
      exact absurd ⟨who, hsigned⟩ horigin
    · intro who hsigned
      exact horigin ⟨who, hsigned⟩

/-- Account 1 has a free balance of 1,000, and nobody is a sponsor. -/
def fundedState : PalletState ℕ (ReferenceLedger ℕ HoldReason) 1 where
  sponsors := fun _ ↦ none
  ledger :=
    { account := fun who ↦
        { free := if who = 1 then 1000 else 0
          onHold := fun _ ↦ 0
          untracked := 0
          alive := who = 1 }
      totalIssuance := 1000 }
  events := []
  routed := []
  log := []

/-- A policy that allows account 2 fees up to 50. -/
def singleCallerPolicy : SponsorPolicy ℕ 1 where
  allowedCallers := ⟨[2], le_refl 1⟩
  maxFeePerTx := 50

/-- Account 1 registers with all of its free balance except the existential deposit of one. -/
theorem dispatch_atomic_register :
    ∃ after, dispatch (referenceBalances ℕ HoldReason 1) (.signed 1)
        (.registerSponsor 999 singleCallerPolicy) fundedState = .ok ⟨⟩ after ∧
      Framed (referenceBalances ℕ HoldReason 1) fundedState 1
        (.registerSponsor 999 singleCallerPolicy) after := by
  have hperformable : Performable (referenceBalances ℕ HoldReason 1) fundedState 1
      (.registerSponsor 999 singleCallerPolicy) :=
    ⟨by decide, rfl, ⟨by decide, by decide⟩, ⟨_, _, rfl⟩⟩
  rcases dispatch_atomic (referenceBalances_exact 1).failSafe fundedState (.signed 1)
    (.registerSponsor 999 singleCallerPolicy) with ⟨who, hsigned, -, hframed⟩ | ⟨hnot, -⟩
  · obtain rfl : 1 = who := RawOrigin.signed.inj hsigned
    exact hframed
  · exact absurd hperformable (hnot 1 rfl)

end SponsoredTx.Pallet
