import Mathlib.Algebra.BigOperators.Group.Finset.Piecewise
import Mathlib.Algebra.GroupWithZero.Nat
import Mathlib.Algebra.Order.BigOperators.Group.Finset
import Mathlib.Tactic.Common
import SponsoredTx.Foundation.StatefulResult

/-!
# A ledger with holds

An account has a free balance and, for every reason, an amount on hold. A ledger offers three
operations: `hold` moves an amount from free to a hold, `release` moves it back, and `slash` takes
an amount out of a hold and hands it to the caller as credit. `AccountData` is one account, with the
three moves as functions (`withHold`, `withRelease`, `withSlash`) and their effect on the total
balance (`total_withHold`, `total_withRelease`, `total_withSlash`).

`Balances` is the interface of a ledger whose storage is not known: it reads accounts and the total
issuance out of an abstract state, and its operations run on that state. Two sets of laws are stated
of it. `Balances.Exact` says when each operation succeeds, given an existential deposit that a hold
may not eat into, and that a successful operation changes one account by exactly one move.
`Balances.FailSafe` says less: `hold` and `release` may fail whenever they like, but a failure
changes nothing and a success is the move. `Exact.failSafe` is the inclusion.

`Balances.Backed` is the accounting invariant of the total issuance: every finite set of accounts
together owns at most the issuance. Moves that keep totals keep it (`Backed.of_total_eq`), and so
does taking credit out of one account and destroying it (`Backed.of_burned`).

`referenceBalances` is a ledger stored as a function from accounts, and `referenceBalances_exact`
shows that it satisfies the exact laws.
-/

set_option autoImplicit false
set_option relaxedAutoImplicit false

namespace SponsoredTx.Foundation.HoldLedger

open StatefulResult

/-! ### One account -/

/-- The balances of one account. `untracked` is the sum of the holds placed for reasons outside
`Reason`, and `alive` says whether any reference keeps the account in existence; how many there are
is left open. -/
@[ext] structure AccountData (Reason : Type) where
  free : ℕ
  onHold : Reason → ℕ
  untracked : ℕ
  alive : Bool

namespace AccountData

variable {Reason : Type} [DecidableEq Reason]

/-- Move an amount from the free balance to a hold. -/
def withHold (account : AccountData Reason) (reason : Reason) (amount : ℕ) : AccountData Reason :=
  { account with
    free := account.free - amount
    onHold := Function.update account.onHold reason (account.onHold reason + amount) }

/-- Move an amount from a hold to the free balance. -/
def withRelease (account : AccountData Reason) (reason : Reason) (amount : ℕ) :
    AccountData Reason :=
  { account with
    free := account.free + amount
    onHold := Function.update account.onHold reason (account.onHold reason - amount) }

/-- Take an amount out of a hold. -/
def withSlash (account : AccountData Reason) (reason : Reason) (amount : ℕ) : AccountData Reason :=
  { account with
    onHold := Function.update account.onHold reason (account.onHold reason - amount) }

section Fields

variable (account : AccountData Reason) (reason other : Reason) (amount : ℕ)

@[simp] theorem free_withHold : (account.withHold reason amount).free = account.free - amount := rfl

@[simp] theorem free_withRelease :
    (account.withRelease reason amount).free = account.free + amount := rfl

@[simp] theorem free_withSlash : (account.withSlash reason amount).free = account.free := rfl

@[simp] theorem onHold_withHold : (account.withHold reason amount).onHold other =
    if other = reason then account.onHold reason + amount else account.onHold other :=
  Function.update_apply ..

@[simp] theorem onHold_withRelease : (account.withRelease reason amount).onHold other =
    if other = reason then account.onHold reason - amount else account.onHold other :=
  Function.update_apply ..

@[simp] theorem onHold_withSlash : (account.withSlash reason amount).onHold other =
    if other = reason then account.onHold reason - amount else account.onHold other :=
  Function.update_apply ..

@[simp] theorem withHold_zero : account.withHold reason 0 = account := by
  simp [withHold]

@[simp] theorem withRelease_zero : account.withRelease reason 0 = account := by
  simp [withRelease]

end Fields

/-- A hold of `amount` is possible: the account exists, and the amount leaves the existential
deposit free. The subtraction is the saturating one, so a hold of zero needs the account only. -/
def CanHold (deposit : ℕ) (account : AccountData Reason) (amount : ℕ) : Prop :=
  account.alive = true ∧ amount ≤ account.free - deposit

instance (deposit : ℕ) (account : AccountData Reason) (amount : ℕ) :
    Decidable (CanHold deposit account amount) :=
  inferInstanceAs (Decidable (_ ∧ _))

/-- The free balance can receive `amount`: either nothing arrives, or the balance reached is at
least the existential deposit. -/
def CanDeposit (deposit : ℕ) (account : AccountData Reason) (amount : ℕ) : Prop :=
  amount = 0 ∨ deposit ≤ account.free + amount

instance (deposit : ℕ) (account : AccountData Reason) (amount : ℕ) :
    Decidable (CanDeposit deposit account amount) :=
  inferInstanceAs (Decidable (_ ∨ _))

section Total

variable [Fintype Reason]

/-- Everything an account owns: its free balance and all its holds. -/
def total (account : AccountData Reason) : ℕ :=
  account.free + ∑ reason, account.onHold reason + account.untracked

omit [DecidableEq Reason] in
/-- A hold is part of the total balance. -/
theorem onHold_le_total (account : AccountData Reason) (reason : Reason) :
    account.onHold reason ≤ account.total := by
  have hsum : account.onHold reason ≤ ∑ other, account.onHold other :=
    Finset.single_le_sum (fun _ _ ↦ Nat.zero_le _) (Finset.mem_univ reason)
  unfold total
  omega

/-- Raising one hold raises the sum of the holds by the same amount. -/
theorem sum_update_add (holds : Reason → ℕ) (reason : Reason) (amount : ℕ) :
    ∑ other, Function.update holds reason (holds reason + amount) other =
      ∑ other, holds other + amount := by
  rw [Finset.sum_update_of_mem (Finset.mem_univ reason),
    ← Finset.add_sum_erase _ holds (Finset.mem_univ reason), Finset.sdiff_singleton_eq_erase]
  omega

/-- Lowering one hold by an amount it covers lowers the sum of the holds by the same amount. -/
theorem sum_update_sub (holds : Reason → ℕ) {reason : Reason} {amount : ℕ}
    (hamount : amount ≤ holds reason) :
    ∑ other, Function.update holds reason (holds reason - amount) other + amount =
      ∑ other, holds other := by
  rw [Finset.sum_update_of_mem (Finset.mem_univ reason),
    ← Finset.add_sum_erase _ holds (Finset.mem_univ reason), Finset.sdiff_singleton_eq_erase]
  omega

/-- Placing a hold keeps the total balance. -/
theorem total_withHold (account : AccountData Reason) (reason : Reason) {amount : ℕ}
    (hamount : amount ≤ account.free) : (account.withHold reason amount).total = account.total := by
  have hsum := sum_update_add account.onHold reason amount
  simp only [total, withHold] at hsum ⊢
  omega

/-- Releasing a hold keeps the total balance. -/
theorem total_withRelease (account : AccountData Reason) {reason : Reason} {amount : ℕ}
    (hamount : amount ≤ account.onHold reason) :
    (account.withRelease reason amount).total = account.total := by
  have hsum := sum_update_sub account.onHold hamount
  simp only [total, withRelease] at hsum ⊢
  omega

/-- Slashing a hold lowers the total balance by the amount taken. -/
theorem total_withSlash (account : AccountData Reason) {reason : Reason} {amount : ℕ}
    (hamount : amount ≤ account.onHold reason) :
    (account.withSlash reason amount).total + amount = account.total := by
  have hsum := sum_update_sub account.onHold hamount
  simp only [total, withSlash] at hsum ⊢
  omega

end Total

end AccountData

/-! ### The interface of a ledger -/

/-- Why a ledger operation fails. -/
inductive TokenError
  | fundsUnavailable
  | onlyProvider
  | belowMinimum
  | cannotCreate
  | unknownAsset
  | frozen
  | unsupported
  | cannotCreateHold
  | notExpendable
  | blocked
  deriving DecidableEq, Repr

/-- The error of a hold that is not possible. The balance is checked before the account. -/
def AccountData.holdError {Reason : Type} (deposit : ℕ) (account : AccountData Reason)
    (amount : ℕ) : TokenError :=
  if amount ≤ account.free - deposit then .cannotCreateHold else .fundsUnavailable

/-- Whether a release must move the whole amount asked for. -/
inductive Precision
  | exact
  | bestEffort
  deriving DecidableEq, Repr

/-- A ledger over an abstract storage. `slash` returns the credit taken and the amount that was
missing, and `dropCredit` destroys credit that nobody resolved. -/
structure Balances (Account Reason Ledger : Type) where
  account : Ledger → Account → AccountData Reason
  totalIssuance : Ledger → ℕ
  hold : Reason → Account → ℕ → EStateM TokenError Ledger PUnit
  release : Reason → Account → ℕ → Precision → EStateM TokenError Ledger ℕ
  slash : Reason → Account → ℕ → Ledger → (ℕ × ℕ) × Ledger
  dropCredit : ℕ → Ledger → Ledger

namespace Balances

variable {Account Reason Ledger : Type} [DecidableEq Account]

/-- Between two ledger states exactly one account changed, to the given value, and nothing was
minted or burned. -/
structure Moved (balances : Balances Account Reason Ledger) (before : Ledger) (who : Account)
    (changed : AccountData Reason) (after : Ledger) : Prop where
  account : balances.account after = Function.update (balances.account before) who changed
  totalIssuance : balances.totalIssuance after = balances.totalIssuance before

/-- A ledger that does not change moved every account to its own value. -/
theorem Moved.refl (balances : Balances Account Reason Ledger) (ledger : Ledger) (who : Account) :
    balances.Moved ledger who (balances.account ledger who) ledger :=
  ⟨(Function.update_eq_self who _).symm, rfl⟩

/-- The account that moved has the given value afterwards. -/
theorem Moved.account_self {balances : Balances Account Reason Ledger} {before after : Ledger}
    {who : Account} {changed : AccountData Reason}
    (hmoved : balances.Moved before who changed after) : balances.account after who = changed := by
  rw [hmoved.account, Function.update_self]

/-- Two moves of one account are one move. -/
theorem Moved.trans {balances : Balances Account Reason Ledger} {first second third : Ledger}
    {who : Account} {changed changed' : AccountData Reason}
    (hfirst : balances.Moved first who changed second)
    (hsecond : balances.Moved second who changed' third) :
    balances.Moved first who changed' third :=
  ⟨by rw [hsecond.account, hfirst.account, Function.update_idem],
    hsecond.totalIssuance.trans hfirst.totalIssuance⟩

variable [DecidableEq Reason]

/-- The laws of an exact ledger with an existential deposit: when each operation succeeds, that a
success is one move of one account, and that a failure changes nothing. -/
structure Exact (balances : Balances Account Reason Ledger) (deposit : ℕ) : Prop where
  hold_ok : ∀ reason who amount ledger, (balances.account ledger who).CanHold deposit amount →
    ∃ ledger', balances.hold reason who amount ledger = .ok ⟨⟩ ledger' ∧
      balances.Moved ledger who ((balances.account ledger who).withHold reason amount) ledger'
  hold_error : ∀ reason who amount ledger, ¬ (balances.account ledger who).CanHold deposit amount →
    balances.hold reason who amount ledger =
      .error ((balances.account ledger who).holdError deposit amount) ledger
  release_ok : ∀ reason who amount precision ledger,
    amount ≤ (balances.account ledger who).onHold reason →
    (balances.account ledger who).CanDeposit deposit amount →
    ∃ ledger', balances.release reason who amount precision ledger = .ok amount ledger' ∧
      balances.Moved ledger who ((balances.account ledger who).withRelease reason amount) ledger'
  release_dust : ∀ reason who amount precision ledger,
    ¬ (balances.account ledger who).CanDeposit deposit amount →
    balances.release reason who amount precision ledger = .error .cannotCreate ledger
  release_short : ∀ reason who amount ledger,
    (balances.account ledger who).CanDeposit deposit amount →
    (balances.account ledger who).onHold reason < amount →
    balances.release reason who amount .exact ledger = .error .fundsUnavailable ledger
  slash_eq : ∀ reason who amount ledger, ∃ ledger',
    balances.slash reason who amount ledger =
      ((min amount ((balances.account ledger who).onHold reason),
        amount - (balances.account ledger who).onHold reason), ledger') ∧
      balances.Moved ledger who ((balances.account ledger who).withSlash reason
        (min amount ((balances.account ledger who).onHold reason))) ledger'
  dropCredit_account : ∀ amount ledger,
    balances.account (balances.dropCredit amount ledger) = balances.account ledger
  dropCredit_totalIssuance : ∀ amount ledger,
    balances.totalIssuance (balances.dropCredit amount ledger) =
      balances.totalIssuance ledger - amount

/-- A slash that the hold covers takes the whole amount. -/
theorem Exact.slash_of_le {balances : Balances Account Reason Ledger} {deposit : ℕ}
    (hexact : balances.Exact deposit) {reason : Reason} {who : Account} {amount : ℕ}
    {ledger : Ledger} (hamount : amount ≤ (balances.account ledger who).onHold reason) :
    (balances.slash reason who amount ledger).1 = (amount, 0) := by
  obtain ⟨ledger', hslash, -⟩ := hexact.slash_eq reason who amount ledger
  rw [hslash, min_eq_left hamount, Nat.sub_eq_zero_of_le hamount]

/-- The laws of a ledger whose `hold` and `release` may fail at any time: a failure changes
nothing, a success is the move, and `slash` takes what the hold has. -/
structure FailSafe (balances : Balances Account Reason Ledger) : Prop where
  hold_cases : ∀ reason who amount ledger,
    (∃ e, balances.hold reason who amount ledger = .error e ledger) ∨
      (amount ≤ (balances.account ledger who).free ∧
        ∃ ledger', balances.hold reason who amount ledger = .ok ⟨⟩ ledger' ∧
          balances.Moved ledger who ((balances.account ledger who).withHold reason amount) ledger')
  release_cases : ∀ reason who amount precision ledger,
    amount ≤ (balances.account ledger who).onHold reason →
    (∃ e, balances.release reason who amount precision ledger = .error e ledger) ∨
      ∃ ledger', balances.release reason who amount precision ledger = .ok amount ledger' ∧
        balances.Moved ledger who ((balances.account ledger who).withRelease reason amount) ledger'
  slash_eq : ∀ reason who amount ledger, ∃ ledger',
    balances.slash reason who amount ledger =
      ((min amount ((balances.account ledger who).onHold reason),
        amount - (balances.account ledger who).onHold reason), ledger') ∧
      balances.Moved ledger who ((balances.account ledger who).withSlash reason
        (min amount ((balances.account ledger who).onHold reason))) ledger'

/-- A hold that a fail-safe ledger places is the move, and the free balance covers it. -/
theorem FailSafe.hold_moved {balances : Balances Account Reason Ledger}
    (hledger : balances.FailSafe) {reason : Reason} {who : Account} {amount : ℕ}
    {ledger ledger' : Ledger} (hhold : balances.hold reason who amount ledger = .ok ⟨⟩ ledger') :
    amount ≤ (balances.account ledger who).free ∧
      balances.Moved ledger who ((balances.account ledger who).withHold reason amount) ledger' := by
  rcases hledger.hold_cases reason who amount ledger with ⟨e, herror⟩ | ⟨hfree, held, hok, hmoved⟩
  · rw [herror] at hhold
    contradiction
  · rw [hok, EStateM.Result.ok.injEq] at hhold
    exact ⟨hfree, hhold.2 ▸ hmoved⟩

/-- A release that a fail-safe ledger makes of an amount on hold is the move. -/
theorem FailSafe.release_moved {balances : Balances Account Reason Ledger}
    (hledger : balances.FailSafe) {reason : Reason} {who : Account} {amount released : ℕ}
    {precision : Precision} {ledger ledger' : Ledger}
    (hamount : amount ≤ (balances.account ledger who).onHold reason)
    (hrelease : balances.release reason who amount precision ledger = .ok released ledger') :
    balances.Moved ledger who ((balances.account ledger who).withRelease reason amount)
      ledger' := by
  rcases hledger.release_cases reason who amount precision ledger hamount with
    ⟨e, herror⟩ | ⟨after, hok, hmoved⟩
  · rw [herror] at hrelease
    contradiction
  · rw [hok, EStateM.Result.ok.injEq] at hrelease
    exact hrelease.2 ▸ hmoved

/-- An exact ledger is fail-safe: its operations fail only where the laws say so. -/
theorem Exact.failSafe {balances : Balances Account Reason Ledger} {deposit : ℕ}
    (hexact : balances.Exact deposit) : balances.FailSafe where
  hold_cases := by
    intro reason who amount ledger
    by_cases hhold : (balances.account ledger who).CanHold deposit amount
    · exact Or.inr ⟨le_trans hhold.2 (Nat.sub_le _ _),
        hexact.hold_ok reason who amount ledger hhold⟩
    · exact Or.inl ⟨_, hexact.hold_error reason who amount ledger hhold⟩
  release_cases := by
    intro reason who amount precision ledger hamount
    by_cases hdeposit : (balances.account ledger who).CanDeposit deposit amount
    · exact Or.inr (hexact.release_ok reason who amount precision ledger hamount hdeposit)
    · exact Or.inl ⟨_, hexact.release_dust reason who amount precision ledger hdeposit⟩
  slash_eq := hexact.slash_eq

/-! ### The total issuance covers the balances -/

variable [Fintype Reason]

omit [DecidableEq Account] [DecidableEq Reason] in
/-- Every finite set of accounts together owns at most the total issuance. -/
def Backed (balances : Balances Account Reason Ledger) (ledger : Ledger) : Prop :=
  ∀ accounts : Finset Account,
    ∑ who ∈ accounts, (balances.account ledger who).total ≤ balances.totalIssuance ledger

omit [DecidableEq Reason] in
/-- A ledger is backed if all balances are on finitely many accounts and add up to the issuance. -/
theorem Backed.of_support {balances : Balances Account Reason Ledger} {ledger : Ledger}
    (owners : Finset Account)
    (hother : ∀ who, who ∉ owners → (balances.account ledger who).total = 0)
    (hsum : ∑ who ∈ owners, (balances.account ledger who).total = balances.totalIssuance ledger) :
    balances.Backed ledger := by
  intro accounts
  calc ∑ who ∈ accounts, (balances.account ledger who).total
      ≤ ∑ who ∈ owners ∪ accounts, (balances.account ledger who).total :=
        Finset.sum_le_sum_of_subset Finset.subset_union_right
    _ = ∑ who ∈ owners, (balances.account ledger who).total :=
        (Finset.sum_subset Finset.subset_union_left fun who _ hwho ↦ hother who hwho).symm
    _ = balances.totalIssuance ledger := hsum

omit [DecidableEq Account] [DecidableEq Reason] in
/-- One account owns at most the total issuance. -/
theorem Backed.total_le {balances : Balances Account Reason Ledger} {ledger : Ledger}
    (hbacked : balances.Backed ledger) (who : Account) :
    (balances.account ledger who).total ≤ balances.totalIssuance ledger := by
  have hone := hbacked {who}
  rwa [Finset.sum_singleton] at hone

omit [DecidableEq Account] [DecidableEq Reason] in
/-- Changing accounts without changing any total or the issuance keeps the ledger backed. -/
theorem Backed.of_total_eq {balances : Balances Account Reason Ledger} {before after : Ledger}
    (hbacked : balances.Backed before)
    (htotal : ∀ who, (balances.account after who).total = (balances.account before who).total)
    (hissuance : balances.totalIssuance after = balances.totalIssuance before) :
    balances.Backed after := by
  intro accounts
  rw [hissuance, Finset.sum_congr rfl fun who _ ↦ htotal who]
  exact hbacked accounts

omit [DecidableEq Reason] in
/-- Taking an amount out of one account and out of the issuance keeps the ledger backed. -/
theorem Backed.of_burned {balances : Balances Account Reason Ledger} {before after : Ledger}
    (hbacked : balances.Backed before) {who : Account} {amount : ℕ}
    (hwho : (balances.account after who).total + amount = (balances.account before who).total)
    (hother : ∀ other, other ≠ who →
      (balances.account after other).total = (balances.account before other).total)
    (hissuance : balances.totalIssuance after = balances.totalIssuance before - amount) :
    balances.Backed after := by
  intro accounts
  have hsame : ∑ other ∈ accounts.erase who, (balances.account after other).total =
      ∑ other ∈ accounts.erase who, (balances.account before other).total :=
    Finset.sum_congr rfl fun other hmem ↦ hother other (Finset.ne_of_mem_erase hmem)
  have hcover := hbacked (insert who (accounts.erase who))
  rw [Finset.sum_insert (Finset.notMem_erase who accounts)] at hcover
  have hbound : ∑ other ∈ accounts, (balances.account after other).total ≤
      (balances.account after who).total +
        ∑ other ∈ accounts.erase who, (balances.account after other).total := by
    by_cases hmem : who ∈ accounts
    · exact (Finset.add_sum_erase accounts _ hmem).ge
    · rw [Finset.erase_eq_of_notMem hmem]
      exact Nat.le_add_left _ _
  omega

end Balances

/-! ### A ledger that satisfies the laws -/

/-- A ledger stored as the accounts themselves and the total issuance. -/
structure ReferenceLedger (Account Reason : Type) where
  account : Account → AccountData Reason
  totalIssuance : ℕ

namespace ReferenceLedger

variable {Account Reason : Type} [DecidableEq Account] [DecidableEq Reason]

/-- Replace one account. -/
def setAccount (ledger : ReferenceLedger Account Reason) (who : Account)
    (changed : AccountData Reason) : ReferenceLedger Account Reason :=
  { ledger with account := Function.update ledger.account who changed }

/-- Place a hold, if the account exists and keeps its existential deposit free. -/
def hold (deposit : ℕ) (reason : Reason) (who : Account) (amount : ℕ) :
    EStateM TokenError (ReferenceLedger Account Reason) PUnit := fun ledger ↦
  if (ledger.account who).CanHold deposit amount then
    .ok ⟨⟩ (ledger.setAccount who ((ledger.account who).withHold reason amount))
  else .error ((ledger.account who).holdError deposit amount) ledger

/-- The amount a release takes out of a hold. -/
def releasable (precision : Precision) (amount held : ℕ) : ℕ :=
  match precision with
  | .exact => amount
  | .bestEffort => min amount held

/-- Release a hold, if the free balance can receive the amount and the hold covers it. -/
def release (deposit : ℕ) (reason : Reason) (who : Account) (amount : ℕ) (precision : Precision) :
    EStateM TokenError (ReferenceLedger Account Reason) ℕ := fun ledger ↦
  let taken := releasable precision amount ((ledger.account who).onHold reason)
  if ¬ (ledger.account who).CanDeposit deposit amount then .error .cannotCreate ledger
  else if (ledger.account who).onHold reason < taken then .error .fundsUnavailable ledger
  else .ok taken (ledger.setAccount who ((ledger.account who).withRelease reason taken))

/-- Take up to an amount out of a hold. -/
def slash (reason : Reason) (who : Account) (amount : ℕ)
    (ledger : ReferenceLedger Account Reason) : (ℕ × ℕ) × ReferenceLedger Account Reason :=
  let held := (ledger.account who).onHold reason
  ((min amount held, amount - held),
    ledger.setAccount who ((ledger.account who).withSlash reason (min amount held)))

/-- Destroy credit. -/
def dropCredit (amount : ℕ) (ledger : ReferenceLedger Account Reason) :
    ReferenceLedger Account Reason :=
  { ledger with totalIssuance := ledger.totalIssuance - amount }

omit [DecidableEq Account] [DecidableEq Reason] in
/-- A release that the hold covers takes the amount asked for, whatever the precision. -/
theorem releasable_of_le {amount held : ℕ} (hamount : amount ≤ held) (precision : Precision) :
    releasable precision amount held = amount := by
  cases precision with
  | exact => rfl
  | bestEffort => exact min_eq_left hamount

end ReferenceLedger

variable {Account Reason : Type} [DecidableEq Account] [DecidableEq Reason]

/-- The ledger that performs every move on its stored accounts. -/
def referenceBalances (Account Reason : Type) [DecidableEq Account] [DecidableEq Reason]
    (deposit : ℕ) : Balances Account Reason (ReferenceLedger Account Reason) where
  account := ReferenceLedger.account
  totalIssuance := ReferenceLedger.totalIssuance
  hold := ReferenceLedger.hold deposit
  release := ReferenceLedger.release deposit
  slash := ReferenceLedger.slash
  dropCredit := ReferenceLedger.dropCredit

/-- The reference ledger is exact. -/
theorem referenceBalances_exact (deposit : ℕ) :
    (referenceBalances Account Reason deposit).Exact deposit where
  hold_ok := fun reason who amount ledger hhold ↦ ⟨_, if_pos hhold, ⟨rfl, rfl⟩⟩
  hold_error := fun reason who amount ledger hhold ↦ if_neg hhold
  release_ok := by
    intro reason who amount precision ledger hamount hdeposit
    refine ⟨ledger.setAccount who ((ledger.account who).withRelease reason amount), ?_, ⟨rfl, rfl⟩⟩
    change (ledger.account who).CanDeposit deposit amount at hdeposit
    change amount ≤ (ledger.account who).onHold reason at hamount
    change ReferenceLedger.release deposit reason who amount precision ledger = _
    simp only [ReferenceLedger.release, ReferenceLedger.releasable_of_le hamount, hdeposit,
      not_true_eq_false, if_false, not_lt.mpr hamount]
  release_dust := fun reason who amount precision ledger hdeposit ↦ if_pos hdeposit
  release_short := by
    intro reason who amount ledger hdeposit hshort
    change (ledger.account who).CanDeposit deposit amount at hdeposit
    change (ledger.account who).onHold reason < amount at hshort
    change ReferenceLedger.release deposit reason who amount .exact ledger = _
    simp only [ReferenceLedger.release, ReferenceLedger.releasable, hdeposit,
      not_true_eq_false, if_false, hshort, if_true]
  slash_eq := fun reason who amount ledger ↦ ⟨_, rfl, ⟨rfl, rfl⟩⟩
  dropCredit_account := fun _ _ ↦ rfl
  dropCredit_totalIssuance := fun _ _ ↦ rfl

end SponsoredTx.Foundation.HoldLedger
