import SponsoredTx.Pallet.SponsorLifecycle

/-!
# The lifecycle calls act on one slot

A lifecycle call reads and writes the caller's entry in `Sponsors` and the caller's account, and
nothing else. `Slot` is that pair, and `slotOf` reads it out of the pallet state. The abstract
meaning of a call is given on the slot alone: the first check it fails (`Slot.refusal`), the slot it
leaves when it succeeds (`Slot.after`) and the event it deposits (`Slot.announcement`).
`Slot.Accepts` is the condition under which no check fails (`Slot.refusal_eq_none_iff`).

`Advances` says that one slot changed to a given value, that some events were deposited and that
everything else is as before. A fail-safe ledger decides for itself which operations it performs, so
there the refusal of a call includes the ledger's verdict (`refusalIn`), and
`dispatch_refines_of_failSafe` is the refinement. An exact ledger decides as the account says
(`refusalIn_eq`), which gives `dispatch_signed_of_refused` and `dispatch_signed_of_accepted`: a
signed call that its slot refuses returns the refusal and leaves the whole state as it was, and
every other signed call returns `Ok` and advances the caller's slot. `dispatch_of_not_signed` is the
remaining origin.
-/

set_option autoImplicit false
set_option relaxedAutoImplicit false

namespace SponsoredTx.Pallet

open Foundation.StatefulResult Foundation.HoldLedger

variable {Account Ledger : Type} {maxAllowedCallers : ℕ} [DecidableEq Account]

/-! ### Slots -/

/-- What a lifecycle call can see: the entry and the account of one account id. -/
@[ext] structure Slot (Account : Type) (maxAllowedCallers : ℕ) where
  entry : Option (SponsorState Account maxAllowedCallers)
  account : AccountData HoldReason

/-- The slot of an account in the pallet state. -/
def slotOf (balances : Balances Account HoldReason Ledger)
    (st : PalletState Account Ledger maxAllowedCallers) (who : Account) :
    Slot Account maxAllowedCallers where
  entry := st.sponsors who
  account := balances.account st.ledger who

namespace Slot

variable (slot : Slot Account maxAllowedCallers)

/-- The budget hold of a slot. -/
abbrev budget : ℕ := slot.account.onHold .sponsorshipBudget

/-- The pending hold of a slot. -/
abbrev pending : ℕ := slot.account.onHold .sponsorshipPending

/-- Continue to the next check when the condition holds, refuse with the error when it does not. -/
def require (condition : Prop) [Decidable condition] (e : DispatchError)
    (next : Option DispatchError) : Option DispatchError :=
  if condition then next else some e

/-- The error of a hold that is not possible. -/
def holdRefusal (deposit : ℕ) (account : AccountData HoldReason) (amount : ℕ) :
    Option DispatchError :=
  require (account.CanHold deposit amount)
    (.token (account.holdError deposit amount)) none

/-- The error of an exact release from the budget hold that is not possible. -/
def releaseRefusal (deposit : ℕ) (account : AccountData HoldReason) (amount : ℕ) :
    Option DispatchError :=
  require (account.CanDeposit deposit amount) (.token .cannotCreate) <|
  require (amount ≤ account.onHold .sponsorshipBudget) (.token .fundsUnavailable) none

/-- The error of a policy that is not well formed. -/
def policyRefusal (policy : SponsorPolicy Account maxAllowedCallers)
    (next : Option DispatchError) : Option DispatchError :=
  match ensureValidPolicy policy with
  | .ok _ => next
  | .error e => some (.module e)

/-- The first check that a call fails on the slot of its caller, or `none` if it passes them all. -/
def refusal (deposit : ℕ) : Call Account maxAllowedCallers → Option DispatchError
  | .registerSponsor initialBudget policy =>
    require (initialBudget ≠ 0) (.module .zeroBudget) <|
    require (¬ slot.entry.isSome) (.module .alreadyRegistered) <|
    policyRefusal policy <|
    holdRefusal deposit slot.account initialBudget
  | .increaseBudget amount =>
    require (amount ≠ 0) (.module .zeroBudget) <|
    require slot.entry.isSome (.module .notRegistered) <|
    holdRefusal deposit slot.account amount
  | .decreaseBudget amount =>
    require (amount ≠ 0) (.module .zeroBudget) <|
    require slot.entry.isSome (.module .notRegistered) <|
    require (amount ≤ slot.budget) (.module .insufficientAvailableBudget) <|
    releaseRefusal deposit slot.account amount
  | .setPolicy policy =>
    policyRefusal policy <|
    require slot.entry.isSome (.module .notRegistered) none
  | .pause =>
    match slot.entry with
    | none => some (.module .notRegistered)
    | some state => require state.active (.module .alreadyPaused) none
  | .resume =>
    match slot.entry with
    | none => some (.module .notRegistered)
    | some state => require (¬ state.active) (.module .alreadyActive) none
  | .unregister =>
    require slot.entry.isSome (.module .notRegistered) <|
    require (slot.pending = 0) (.module .pendingBudgetNotEmpty) <|
    if slot.budget ≠ 0 then releaseRefusal deposit slot.account slot.budget else none

/-- The slot a call leaves when it is not refused. -/
def after : Call Account maxAllowedCallers → Slot Account maxAllowedCallers
  | .registerSponsor initialBudget policy =>
    { entry := some { active := true, policy }
      account := slot.account.withHold .sponsorshipBudget initialBudget }
  | .increaseBudget amount =>
    { slot with account := slot.account.withHold .sponsorshipBudget amount }
  | .decreaseBudget amount =>
    { slot with account := slot.account.withRelease .sponsorshipBudget amount }
  | .setPolicy policy =>
    { slot with entry := slot.entry.map fun state ↦ { state with policy } }
  | .pause => { slot with entry := slot.entry.map fun state ↦ { state with active := false } }
  | .resume => { slot with entry := slot.entry.map fun state ↦ { state with active := true } }
  | .unregister =>
    { entry := none
      account := slot.account.withRelease .sponsorshipBudget slot.budget }

/-- The event a call deposits when it is not refused. -/
def announcement (who : Account) : Call Account maxAllowedCallers → Event Account
  | .registerSponsor initialBudget _ => .sponsorRegistered who initialBudget
  | .increaseBudget amount => .budgetIncreased who amount (slot.budget + amount)
  | .decreaseBudget amount => .budgetDecreased who amount (slot.budget - amount)
  | .setPolicy _ => .sponsorPolicyUpdated who
  | .pause => .sponsorPaused who
  | .resume => .sponsorResumed who
  | .unregister => .sponsorUnregistered who

omit [DecidableEq Account] in
/-- A call is announced under the name of its signer. -/
theorem sponsor_announcement (who : Account) (call : Call Account maxAllowedCallers) :
    (slot.announcement who call).sponsor = who := by
  cases call <;> rfl

/-! ### Accepted calls -/

/-- What a slot must satisfy for a call to be accepted. -/
def Accepts (deposit : ℕ) : Call Account maxAllowedCallers → Prop
  | .registerSponsor initialBudget policy =>
    initialBudget ≠ 0 ∧ slot.entry = none ∧ ensureValidPolicy policy = .ok () ∧
      slot.account.CanHold deposit initialBudget
  | .increaseBudget amount =>
    amount ≠ 0 ∧ slot.entry.isSome ∧ slot.account.CanHold deposit amount
  | .decreaseBudget amount =>
    amount ≠ 0 ∧ slot.entry.isSome ∧ amount ≤ slot.budget ∧ slot.account.CanDeposit deposit amount
  | .setPolicy policy => ensureValidPolicy policy = .ok () ∧ slot.entry.isSome
  | .pause => ∃ state, slot.entry = some state ∧ state.active = true
  | .resume => ∃ state, slot.entry = some state ∧ state.active = false
  | .unregister =>
    slot.entry.isSome ∧ slot.pending = 0 ∧
      (slot.budget ≠ 0 → slot.account.CanDeposit deposit slot.budget)

omit [DecidableEq Account] in
/-- A check is passed when its condition holds and the next checks are passed. -/
theorem require_eq_none_iff (condition : Prop) [Decidable condition] (e : DispatchError)
    (next : Option DispatchError) :
    require condition e next = none ↔ condition ∧ next = none := by
  by_cases hcondition : condition <;> simp [require, hcondition]

/-- The policy check is passed when the policy is well formed. -/
theorem policyRefusal_eq_none_iff (policy : SponsorPolicy Account maxAllowedCallers)
    (next : Option DispatchError) :
    policyRefusal policy next = none ↔ ensureValidPolicy policy = .ok () ∧ next = none := by
  cases hpolicy : ensureValidPolicy policy <;> simp [policyRefusal, hpolicy]

/-- A call is not refused exactly when the slot accepts it. -/
theorem refusal_eq_none_iff (deposit : ℕ) (call : Call Account maxAllowedCallers) :
    slot.refusal deposit call = none ↔ slot.Accepts deposit call := by
  cases call with
  | registerSponsor initialBudget policy =>
    simp [refusal, Accepts, holdRefusal, require_eq_none_iff, policyRefusal_eq_none_iff]
  | increaseBudget amount => simp [refusal, Accepts, holdRefusal, require_eq_none_iff]
  | decreaseBudget amount =>
    simp only [refusal, Accepts, releaseRefusal, require_eq_none_iff, and_true]
    constructor
    · rintro ⟨hzero, hentry, hamount, hdeposit, -⟩
      exact ⟨hzero, hentry, hamount, hdeposit⟩
    · rintro ⟨hzero, hentry, hamount, hdeposit⟩
      exact ⟨hzero, hentry, hamount, hdeposit, hamount⟩
  | setPolicy policy =>
    simp [refusal, Accepts, require_eq_none_iff, policyRefusal_eq_none_iff]
  | pause => cases hentry : slot.entry <;> simp [refusal, Accepts, hentry, require_eq_none_iff]
  | resume => cases hentry : slot.entry <;> simp [refusal, Accepts, hentry, require_eq_none_iff]
  | unregister =>
    by_cases hbudget : slot.budget = 0 <;>
      simp [refusal, Accepts, releaseRefusal, require_eq_none_iff, hbudget]

/-- An accepted call moves balance between the free balance and the budget hold only, so the total
balance stays. -/
theorem total_after {deposit : ℕ} {call : Call Account maxAllowedCallers}
    (haccepts : slot.Accepts deposit call) :
    (slot.after call).account.total = slot.account.total := by
  cases call with
  | registerSponsor initialBudget policy =>
    exact slot.account.total_withHold _ (haccepts.2.2.2.2.trans (Nat.sub_le _ _))
  | increaseBudget amount =>
    exact slot.account.total_withHold _ (haccepts.2.2.2.trans (Nat.sub_le _ _))
  | decreaseBudget amount => exact slot.account.total_withRelease haccepts.2.2.1
  | setPolicy policy => rfl
  | pause => rfl
  | resume => rfl
  | unregister => exact slot.account.total_withRelease le_rfl

end Slot

/-! ### Events about one account -/

/-- The events about one account. -/
def eventsAbout (who : Account) (events : List (Event Account)) : List (Event Account) :=
  events.filter fun event ↦ event.sponsor = who

/-- The events about an account in a longer list. -/
theorem eventsAbout_append (who : Account) (events emitted : List (Event Account)) :
    eventsAbout who (events ++ emitted) = eventsAbout who events ++ eventsAbout who emitted :=
  List.filter_append ..

/-- One event about the account itself. -/
theorem eventsAbout_self {who : Account} {event : Event Account} (hevent : event.sponsor = who) :
    eventsAbout who [event] = [event] := by
  simp [eventsAbout, hevent]

/-- One event about another account. -/
theorem eventsAbout_of_ne {who : Account} {event : Event Account} (hevent : event.sponsor ≠ who) :
    eventsAbout who [event] = [] := by
  simp [eventsAbout, hevent]

/-! ### One slot advances -/

/-- Between two pallet states the slot of one account changed to the given value, the given events
were deposited, and nothing else changed: no other slot, no issuance, no credit, no log line. -/
structure Advances (balances : Balances Account HoldReason Ledger)
    (before : PalletState Account Ledger maxAllowedCallers) (who : Account)
    (slot : Slot Account maxAllowedCallers) (emitted : List (Event Account))
    (after : PalletState Account Ledger maxAllowedCallers) : Prop where
  slots : slotOf balances after = Function.update (slotOf balances before) who slot
  totalIssuance :
    balances.totalIssuance after.ledger = balances.totalIssuance before.ledger
  events : after.events = before.events ++ emitted
  routed : after.routed = before.routed
  log : after.log = before.log

namespace Advances

variable {balances : Balances Account HoldReason Ledger}
  {before after : PalletState Account Ledger maxAllowedCallers} {who : Account}
  {slot : Slot Account maxAllowedCallers} {emitted : List (Event Account)}

/-- The slot that advanced has the given value afterwards. -/
theorem slot_self (hadvances : Advances balances before who slot emitted after) :
    slotOf balances after who = slot := by
  rw [hadvances.slots, Function.update_self]

/-- Every other slot is as before. -/
theorem slot_of_ne (hadvances : Advances balances before who slot emitted after) {other : Account}
    (hother : other ≠ who) : slotOf balances after other = slotOf balances before other := by
  rw [hadvances.slots, Function.update_of_ne hother]

/-- An announcement about the account is the new event about it. -/
theorem eventsAbout_self {event : Event Account}
    (hadvances : Advances balances before who slot [event] after) (hevent : event.sponsor = who) :
    eventsAbout who after.events = eventsAbout who before.events ++ [event] := by
  rw [hadvances.events, eventsAbout_append, Pallet.eventsAbout_self hevent]

/-- An announcement about the account is not about anybody else. -/
theorem eventsAbout_of_ne {event : Event Account}
    (hadvances : Advances balances before who slot [event] after) (hevent : event.sponsor = who)
    {other : Account} (hother : other ≠ who) :
    eventsAbout other after.events = eventsAbout other before.events := by
  rw [hadvances.events, eventsAbout_append, Pallet.eventsAbout_of_ne, List.append_nil]
  rw [hevent]
  exact Ne.symm hother

end Advances

/-- A change of one account and of the same account's entry is a change of its slot. -/
theorem slotOf_eq_update {balances : Balances Account HoldReason Ledger}
    {st st' : PalletState Account Ledger maxAllowedCallers} {who : Account}
    {slot : Slot Account maxAllowedCallers}
    (haccount : balances.account st'.ledger =
      Function.update (balances.account st.ledger) who slot.account)
    (hsponsors : st'.sponsors = Function.update st.sponsors who slot.entry) :
    slotOf balances st' = Function.update (slotOf balances st) who slot := by
  funext other
  by_cases hother : other = who
  · subst hother
    simp [slotOf, haccount, hsponsors]
  · simp [slotOf, haccount, hsponsors, hother]

/-- A move of one account of the ledger and a write of the same account's entry advance its slot. -/
theorem advances_of_moved {balances : Balances Account HoldReason Ledger}
    {st st' : PalletState Account Ledger maxAllowedCallers} {who : Account}
    {slot : Slot Account maxAllowedCallers} {emitted : List (Event Account)}
    (hmoved : balances.Moved st.ledger who slot.account st'.ledger)
    (hsponsors : st'.sponsors = Function.update st.sponsors who slot.entry)
    (hevents : st'.events = st.events ++ emitted) (hrouted : st'.routed = st.routed)
    (hlog : st'.log = st.log) : Advances balances st who slot emitted st' where
  slots := slotOf_eq_update hmoved.account hsponsors
  totalIssuance := hmoved.totalIssuance
  events := hevents
  routed := hrouted
  log := hlog

/-- The outcome of a call against the slot of its caller: a refusal is returned with the state
unchanged, and otherwise the call returns `Ok` and the slot advances. -/
def Refines (balances : Balances Account HoldReason Ledger)
    (st : PalletState Account Ledger maxAllowedCallers) (who : Account)
    (refusal : Option DispatchError) (slot : Slot Account maxAllowedCallers) (event : Event Account)
    (result : EStateM.Result DispatchError (PalletState Account Ledger maxAllowedCallers) PUnit) :
    Prop :=
  match refusal with
  | some e => result = .error e st
  | none => ∃ st', result = .ok ⟨⟩ st' ∧ Advances balances st who slot [event] st'

/-! ### Refusals by the ledger itself -/

/-- The error with which the ledger refuses an operation, or `none` if it performs it. -/
def ledgerRefusal {α : Type} (op : EStateM TokenError Ledger α) (ledger : Ledger) :
    Option DispatchError :=
  match op ledger with
  | .ok _ _ => none
  | .error e _ => some (.token e)

/-- The first check that a call fails in a state, with the ledger's own verdict on the operation the
call asks it for. -/
def refusalIn (balances : Balances Account HoldReason Ledger)
    (st : PalletState Account Ledger maxAllowedCallers) (who : Account) :
    Call Account maxAllowedCallers → Option DispatchError
  | .registerSponsor initialBudget policy =>
    Slot.require (initialBudget ≠ 0) (.module .zeroBudget) <|
    Slot.require (¬ (st.sponsors who).isSome) (.module .alreadyRegistered) <|
    Slot.policyRefusal policy <|
    ledgerRefusal (balances.hold .sponsorshipBudget who initialBudget) st.ledger
  | .increaseBudget amount =>
    Slot.require (amount ≠ 0) (.module .zeroBudget) <|
    Slot.require (st.sponsors who).isSome (.module .notRegistered) <|
    ledgerRefusal (balances.hold .sponsorshipBudget who amount) st.ledger
  | .decreaseBudget amount =>
    Slot.require (amount ≠ 0) (.module .zeroBudget) <|
    Slot.require (st.sponsors who).isSome (.module .notRegistered) <|
    Slot.require (amount ≤ budgetOnHold balances st who)
      (.module .insufficientAvailableBudget) <|
    ledgerRefusal (balances.release .sponsorshipBudget who amount .exact) st.ledger
  | .setPolicy policy =>
    Slot.policyRefusal policy <|
    Slot.require (st.sponsors who).isSome (.module .notRegistered) none
  | .pause =>
    match st.sponsors who with
    | none => some (.module .notRegistered)
    | some state => Slot.require state.active (.module .alreadyPaused) none
  | .resume =>
    match st.sponsors who with
    | none => some (.module .notRegistered)
    | some state => Slot.require (¬ state.active) (.module .alreadyActive) none
  | .unregister =>
    Slot.require (st.sponsors who).isSome (.module .notRegistered) <|
    Slot.require (pendingOnHold balances st who = 0) (.module .pendingBudgetNotEmpty) <|
    if budgetOnHold balances st who ≠ 0 then
      ledgerRefusal (balances.release .sponsorshipBudget who (budgetOnHold balances st who) .exact)
        st.ledger
    else none

section ExactVerdicts

variable {balances : Balances Account HoldReason Ledger} {deposit : ℕ}

/-- An exact ledger refuses a hold as the account says. -/
theorem ledgerRefusal_hold (hexact : balances.Exact deposit) (who : Account) (amount : ℕ)
    (ledger : Ledger) :
    ledgerRefusal (balances.hold .sponsorshipBudget who amount) ledger =
      Slot.holdRefusal deposit (balances.account ledger who) amount := by
  by_cases hhold : (balances.account ledger who).CanHold deposit amount
  · obtain ⟨ledger', hop, -⟩ := hexact.hold_ok .sponsorshipBudget who amount ledger hhold
    rw [ledgerRefusal, hop, Slot.holdRefusal, Slot.require, if_pos hhold]
  · have hop := hexact.hold_error .sponsorshipBudget who amount ledger hhold
    rw [ledgerRefusal, hop, Slot.holdRefusal, Slot.require, if_neg hhold]

/-- An exact ledger refuses a release as the account says. -/
theorem ledgerRefusal_release (hexact : balances.Exact deposit) (who : Account) (amount : ℕ)
    (ledger : Ledger) :
    ledgerRefusal (balances.release .sponsorshipBudget who amount .exact) ledger =
      Slot.releaseRefusal deposit (balances.account ledger who) amount := by
  by_cases hdeposit : (balances.account ledger who).CanDeposit deposit amount
  · rw [Slot.releaseRefusal, Slot.require, if_pos hdeposit]
    by_cases hamount : amount ≤ (balances.account ledger who).onHold .sponsorshipBudget
    · obtain ⟨ledger', hop, -⟩ :=
        hexact.release_ok .sponsorshipBudget who amount .exact ledger hamount hdeposit
      rw [ledgerRefusal, hop, Slot.require, if_pos hamount]
    · have hop := hexact.release_short .sponsorshipBudget who amount ledger hdeposit
        (not_le.mp hamount)
      rw [ledgerRefusal, hop, Slot.require, if_neg hamount]
  · have hop := hexact.release_dust .sponsorshipBudget who amount .exact ledger hdeposit
    rw [ledgerRefusal, hop, Slot.releaseRefusal, Slot.require, if_neg hdeposit]

/-- Over an exact ledger the refusal of a call is that of its slot. -/
theorem refusalIn_eq (hexact : balances.Exact deposit)
    (st : PalletState Account Ledger maxAllowedCallers) (who : Account)
    (call : Call Account maxAllowedCallers) :
    refusalIn balances st who call = (slotOf balances st who).refusal deposit call := by
  cases call with
  | registerSponsor initialBudget policy =>
    simp only [refusalIn, ledgerRefusal_hold hexact]
    rfl
  | increaseBudget amount =>
    simp only [refusalIn, ledgerRefusal_hold hexact]
    rfl
  | decreaseBudget amount =>
    simp only [refusalIn, ledgerRefusal_release hexact]
    rfl
  | setPolicy policy => rfl
  | pause => rfl
  | resume => rfl
  | unregister =>
    simp only [refusalIn, ledgerRefusal_release hexact]
    rfl

end ExactVerdicts

/-! ### Checks and effects of a call -/

section Checks

variable {balances : Balances Account HoldReason Ledger}
  {st : PalletState Account Ledger maxAllowedCallers} {who : Account}
  {refusal : Option DispatchError}
  {slot : Slot Account maxAllowedCallers} {event : Event Account}

/-- A guard of the call is the same check on the slot. -/
theorem Refines.ensure {condition : Prop} [Decidable condition] {e : DispatchError}
    {f : PUnit → EStateM DispatchError (PalletState Account Ledger maxAllowedCallers) PUnit}
    (hnext : condition → Refines balances st who refusal slot event (f ⟨⟩ st)) :
    Refines balances st who (Slot.require condition e refusal) slot event
      ((Foundation.StatefulResult.ensure condition e >>= f) st) := by
  by_cases hcondition : condition
  · rw [bind_ensure_of hcondition, Slot.require, if_pos hcondition]
    exact hnext hcondition
  · rw [bind_ensure_of_not hcondition, Slot.require, if_neg hcondition]
    rfl

/-- `ensure_registered` is the check that the slot has an entry. -/
theorem Refines.ensureRegistered
    {f : PUnit → EStateM DispatchError (PalletState Account Ledger maxAllowedCallers) PUnit}
    (hnext : (st.sponsors who).isSome → Refines balances st who refusal slot event (f ⟨⟩ st)) :
    Refines balances st who (Slot.require (st.sponsors who).isSome (.module .notRegistered) refusal)
      slot event ((Pallet.ensureRegistered who >>= f) st) := by
  have hunfold : (Pallet.ensureRegistered who >>= f) st =
      (Foundation.StatefulResult.ensure ((st.sponsors who).isSome = true)
        (DispatchError.module .notRegistered) >>= f) st := rfl
  rw [hunfold]
  exact Refines.ensure hnext

/-- `ensure_valid_policy` does not read the state. -/
theorem Refines.ensureValidPolicy {policy : SponsorPolicy Account maxAllowedCallers}
    {f : PUnit → EStateM DispatchError (PalletState Account Ledger maxAllowedCallers) PUnit}
    (hnext : Refines balances st who refusal slot event (f ⟨⟩ st)) :
    Refines balances st who (Slot.policyRefusal policy refusal) slot event
      ((orModuleError (Pallet.ensureValidPolicy policy) >>= f) st) := by
  cases hpolicy : Pallet.ensureValidPolicy policy with
  | ok _ =>
    rw [orModuleError, bind_ok (pure_run _ _), Slot.policyRefusal, hpolicy]
    exact hnext
  | error e =>
    rw [orModuleError, bind_error (throw_run _ _), Slot.policyRefusal, hpolicy]
    rfl

/-- A hold on the caller's account is refused by the ledger or moves the amount. -/
theorem Refines.hold (hledger : balances.FailSafe) {amount : ℕ}
    {f : PUnit → EStateM DispatchError (PalletState Account Ledger maxAllowedCallers) PUnit}
    (hnext : ∀ ledger, balances.Moved st.ledger who
        ((balances.account st.ledger who).withHold .sponsorshipBudget amount) ledger →
      Refines balances st who none slot event (f ⟨⟩ { st with ledger })) :
    Refines balances st who (ledgerRefusal (balances.hold .sponsorshipBudget who amount) st.ledger)
      slot event ((onLedger (balances.hold .sponsorshipBudget who amount) >>= f) st) := by
  rcases hledger.hold_cases .sponsorshipBudget who amount st.ledger with
    ⟨e, hop⟩ | ⟨-, ledger, hop, hmoved⟩
  · rw [onLedger, bind_error (onPart_error (mapError_error hop)), ledgerRefusal, hop]
    rfl
  · rw [onLedger, bind_ok (onPart_ok (mapError_ok hop)), ledgerRefusal, hop]
    exact hnext ledger hmoved

/-- An exact release of an amount that the caller's budget hold covers is refused by the ledger or
moves the amount. -/
theorem Refines.release (hledger : balances.FailSafe) {amount : ℕ}
    (hamount : amount ≤ budgetOnHold balances st who)
    {f : ℕ → EStateM DispatchError (PalletState Account Ledger maxAllowedCallers) PUnit}
    (hnext : ∀ ledger, balances.Moved st.ledger who
        ((balances.account st.ledger who).withRelease .sponsorshipBudget amount) ledger →
      Refines balances st who none slot event (f amount { st with ledger })) :
    Refines balances st who
      (ledgerRefusal (balances.release .sponsorshipBudget who amount .exact) st.ledger)
      slot event ((onLedger (balances.release .sponsorshipBudget who amount .exact) >>= f) st) := by
  rcases hledger.release_cases .sponsorshipBudget who amount .exact st.ledger hamount with
    ⟨e, hop⟩ | ⟨ledger, hop, hmoved⟩
  · rw [onLedger, bind_error (onPart_error (mapError_error hop)), ledgerRefusal, hop]
    rfl
  · rw [onLedger, bind_ok (onPart_ok (mapError_ok hop)), ledgerRefusal, hop]
    exact hnext ledger hmoved

/-- A mutation of the caller's entry that succeeds writes the entry back. -/
theorem Refines.tryMutateSponsor_ok {entry : Option (SponsorState Account maxAllowedCallers)}
    {mutate : Option (SponsorState Account maxAllowedCallers) →
      Except Error (Option (SponsorState Account maxAllowedCallers))}
    {f : PUnit → EStateM DispatchError (PalletState Account Ledger maxAllowedCallers) PUnit}
    (hmutate : mutate (st.sponsors who) = .ok entry)
    (hnext : Refines balances st who refusal slot event (f ⟨⟩ (st.setSponsor who entry))) :
    Refines balances st who refusal slot event ((tryMutateSponsor who mutate >>= f) st) := by
  have hrun : tryMutateSponsor who mutate st = .ok ⟨⟩ (st.setSponsor who entry) := by
    rw [tryMutateSponsor, bind_get]
    simp only [hmutate, modify_run]
  rw [bind_ok hrun]
  exact hnext

/-- A mutation of the caller's entry that fails is a refusal. -/
theorem Refines.tryMutateSponsor_error {e : Error}
    {mutate : Option (SponsorState Account maxAllowedCallers) →
      Except Error (Option (SponsorState Account maxAllowedCallers))}
    {f : PUnit → EStateM DispatchError (PalletState Account Ledger maxAllowedCallers) PUnit}
    (hmutate : mutate (st.sponsors who) = .error e) :
    Refines balances st who (some (.module e)) slot event
      ((tryMutateSponsor who mutate >>= f) st) := by
  have hrun : tryMutateSponsor who mutate st = .error (.module e) st := by
    rw [tryMutateSponsor, bind_get]
    simp only [hmutate, throw_run]
  rw [bind_error hrun]
  rfl

/-- A call whose remaining part returns `Ok` with the slot advanced. -/
theorem Refines.of_advances {result : EStateM.Result DispatchError
      (PalletState Account Ledger maxAllowedCallers) PUnit}
    {st' : PalletState Account Ledger maxAllowedCallers} (hresult : result = .ok ⟨⟩ st')
    (hadvances : Advances balances st who slot [event] st') :
    Refines balances st who none slot event result :=
  ⟨st', hresult, hadvances⟩

/-- A call that checks the entry of its caller, changes it, and announces the change. -/
theorem Refines.mutateEntry {check : SponsorState Account maxAllowedCallers → Prop}
    [DecidablePred check]
    {change : SponsorState Account maxAllowedCallers → SponsorState Account maxAllowedCallers}
    {e : Error} :
    Refines balances st who
      (match st.sponsors who with
        | none => some (.module .notRegistered)
        | some state => Slot.require (check state) (.module e) none)
      { slotOf balances st who with entry := (st.sponsors who).map change } event
      ((tryMutateSponsor who (fun
          | none => .error .notRegistered
          | some state => if check state then .ok (some (change state)) else .error e) >>=
        fun _ ↦ modify fun st ↦ st.depositEvent event) st) := by
  cases hentry : st.sponsors who with
  | none => exact Refines.tryMutateSponsor_error (by rw [hentry])
  | some state =>
    by_cases hcheck : check state
    · simp only [Slot.require, if_pos hcheck]
      refine Refines.tryMutateSponsor_ok (by rw [hentry]; exact if_pos hcheck)
        (Refines.of_advances rfl ?_)
      exact advances_of_moved (Balances.Moved.refl balances st.ledger who) rfl rfl rfl rfl
    · simp only [Slot.require, if_neg hcheck]
      exact Refines.tryMutateSponsor_error (by rw [hentry]; exact if_neg hcheck)

end Checks

/-! ### The dispatchables refine the slot -/

section Refinement

variable {balances : Balances Account HoldReason Ledger} {deposit : ℕ}

/-- The call refines its meaning on the slot of its signer, with the ledger's own refusals. Assumes:
a fail-safe ledger. -/
theorem dispatch_refines_of_failSafe (hledger : balances.FailSafe)
    (st : PalletState Account Ledger maxAllowedCallers) (who : Account)
    (call : Call Account maxAllowedCallers) :
    Refines balances st who (refusalIn balances st who call)
      ((slotOf balances st who).after call) ((slotOf balances st who).announcement who call)
      (dispatch balances (.signed who) call st) := by
  cases call with
  | registerSponsor initialBudget policy =>
    refine Refines.ensure fun _ ↦ Refines.ensure fun _ ↦ Refines.ensureValidPolicy ?_
    refine Refines.hold hledger fun ledger hmoved ↦ ?_
    exact Refines.of_advances rfl (advances_of_moved hmoved rfl rfl rfl rfl)
  | increaseBudget amount =>
    refine Refines.ensure fun _ ↦ Refines.ensureRegistered fun _ ↦ ?_
    refine Refines.hold hledger fun ledger hmoved ↦ ?_
    refine Refines.of_advances rfl
      (advances_of_moved hmoved (Function.update_eq_self who _).symm ?_ rfl rfl)
    simp [PalletState.depositEvent, budgetOnHold, Slot.announcement, slotOf, hmoved.account_self]
  | decreaseBudget amount =>
    refine Refines.ensure fun _ ↦ Refines.ensureRegistered fun _ ↦ Refines.ensure fun hamount ↦ ?_
    refine Refines.release hledger hamount fun ledger hmoved ↦ ?_
    refine Refines.of_advances rfl
      (advances_of_moved hmoved (Function.update_eq_self who _).symm ?_ rfl rfl)
    simp [PalletState.depositEvent, budgetOnHold, Slot.announcement, slotOf, hmoved.account_self]
  | setPolicy policy =>
    refine Refines.ensureValidPolicy ?_
    cases hentry : st.sponsors who with
    | none =>
      simp only [Option.isSome_none, Bool.false_eq_true, Slot.require, if_false]
      exact Refines.tryMutateSponsor_error (by rw [hentry])
    | some state =>
      simp only [slotOf, hentry, Option.isSome_some, Slot.require, if_true]
      refine Refines.tryMutateSponsor_ok (by rw [hentry]) (Refines.of_advances rfl ?_)
      exact advances_of_moved (Balances.Moved.refl balances st.ledger who) rfl rfl rfl rfl
  | pause => exact Refines.mutateEntry
  | resume => exact Refines.mutateEntry
  | unregister =>
    refine Refines.ensureRegistered fun _ ↦ Refines.ensure fun _ ↦ ?_
    by_cases hbudget : budgetOnHold balances st who ≠ 0
    · simp only [if_pos hbudget]
      refine Refines.release hledger le_rfl fun ledger hmoved ↦ ?_
      exact Refines.of_advances rfl (advances_of_moved hmoved rfl rfl rfl rfl)
    · simp only [if_neg hbudget]
      have haccount : ((slotOf balances st who).after .unregister).account =
          balances.account st.ledger who := by
        have hzero : (balances.account st.ledger who).onHold .sponsorshipBudget = 0 :=
          not_not.mp hbudget
        simp only [Slot.after, slotOf, Slot.budget, hzero, AccountData.withRelease_zero]
      refine Refines.of_advances rfl (advances_of_moved ?_ rfl rfl rfl rfl)
      rw [haccount]
      exact Balances.Moved.refl balances st.ledger who

/-- The call refines its meaning on the slot of its signer. Assumes: an exact ledger. -/
theorem dispatch_refines (hexact : balances.Exact deposit)
    (st : PalletState Account Ledger maxAllowedCallers) (who : Account)
    (call : Call Account maxAllowedCallers) :
    Refines balances st who ((slotOf balances st who).refusal deposit call)
      ((slotOf balances st who).after call) ((slotOf balances st who).announcement who call)
      (dispatch balances (.signed who) call st) := by
  rw [← refusalIn_eq hexact]
  exact dispatch_refines_of_failSafe hexact.failSafe st who call

/-- A signed call that its slot refuses returns the refusal and leaves the state as it was. -/
theorem dispatch_signed_of_refused (hexact : balances.Exact deposit)
    {st : PalletState Account Ledger maxAllowedCallers} {who : Account}
    {call : Call Account maxAllowedCallers} {e : DispatchError}
    (hrefused : (slotOf balances st who).refusal deposit call = some e) :
    dispatch balances (.signed who) call st = .error e st := by
  have hrefines := dispatch_refines hexact st who call
  rwa [hrefused] at hrefines

/-- A signed call that its slot does not refuse returns `Ok` and advances the caller's slot. -/
theorem dispatch_signed_of_accepted (hexact : balances.Exact deposit)
    {st : PalletState Account Ledger maxAllowedCallers} {who : Account}
    {call : Call Account maxAllowedCallers}
    (haccepted : (slotOf balances st who).refusal deposit call = none) :
    ∃ st', dispatch balances (.signed who) call st = .ok ⟨⟩ st' ∧
      Advances balances st who ((slotOf balances st who).after call)
        [(slotOf balances st who).announcement who call] st' := by
  have hrefines := dispatch_refines hexact st who call
  rwa [haccepted] at hrefines

/-- A call whose origin is not signed is refused and leaves the state as it was. -/
theorem dispatch_of_not_signed
    (st : PalletState Account Ledger maxAllowedCallers) {origin : RawOrigin Account}
    (horigin : ∀ who, origin ≠ .signed who) (call : Call Account maxAllowedCallers) :
    dispatch balances origin call st = .error .badOrigin st := by
  cases origin with
  | signed who => exact absurd rfl (horigin who)
  | root => cases call <;> rfl
  | none => cases call <;> rfl
  | authorized => cases call <;> rfl

/-- What a call can do: refuse with the state as it was, or, signed by an account whose slot does
not refuse it, advance that slot. -/
theorem dispatch_cases (hexact : balances.Exact deposit)
    (st : PalletState Account Ledger maxAllowedCallers) (origin : RawOrigin Account)
    (call : Call Account maxAllowedCallers) :
    (∃ e, dispatch balances origin call st = .error e st) ∨
      ∃ who st', origin = .signed who ∧ (slotOf balances st who).refusal deposit call = none ∧
        dispatch balances origin call st = .ok ⟨⟩ st' ∧
        Advances balances st who ((slotOf balances st who).after call)
          [(slotOf balances st who).announcement who call] st' := by
  by_cases horigin : ∃ who, origin = .signed who
  · obtain ⟨who, rfl⟩ := horigin
    cases hrefusal : (slotOf balances st who).refusal deposit call with
    | some e => exact Or.inl ⟨e, dispatch_signed_of_refused hexact hrefusal⟩
    | none =>
      obtain ⟨st', hok, hadvances⟩ := dispatch_signed_of_accepted hexact hrefusal
      exact Or.inr ⟨who, st', rfl, hrefusal, hok, hadvances⟩
  · exact Or.inl ⟨.badOrigin, dispatch_of_not_signed st (fun who heq ↦ horigin ⟨who, heq⟩) call⟩

/-- A call leaves every slot but that of its signer as it was, whether it succeeds or fails.
Assumes: an exact ledger. -/
theorem slotOf_dispatch_of_ne (hexact : balances.Exact deposit)
    (st : PalletState Account Ledger maxAllowedCallers) {who other : Account}
    (hother : other ≠ who) (call : Call Account maxAllowedCallers) :
    slotOf balances (finalState (dispatch balances (.signed who) call st)) other =
      slotOf balances st other := by
  rcases dispatch_cases hexact st (.signed who) call with
    ⟨e, hrefused⟩ | ⟨signer, st', hsigner, -, hok, hadvances⟩
  · rw [hrefused, finalState_error]
  · obtain rfl : who = signer := RawOrigin.signed.inj hsigner
    rw [hok, finalState_ok, hadvances.slot_of_ne hother]

end Refinement

end SponsoredTx.Pallet
