import SponsoredTx.Extension.MockRuntime

/-!
# Every path of a settlement reports and routes what it takes

`settle_sponsored_fee` has four degraded branches: the fee is clamped to the estimate, the pending
hold is short, the release of the rest fails, and the new budget hold fails. None of them returns an
error; each writes a log line. The steps are computed here one by one: `clampToEstimate_eq` and
`slashPending_eq` for the two adjustments of the fee, `routeCredit_eq` for the split of the credit,
and `restorePendingToBudget_cases` for the four ways in which restoring can end, each with the
answers of the ledger that lead to it (`RestEnds`).

`settleSponsoredFee_cases` puts them together as one change of the state, and `settlement_accounts`
states it in terms of the balances, over any ledger that is only fail-safe and from any state: the
amount taken from the sponsor is the amount reported and the amount routed, the tip is the tip
credit, and the rest of the pending hold ends whole in one of three places, which the answers of the
ledger to the release and to the new hold decide.
-/

set_option autoImplicit false
set_option relaxedAutoImplicit false

namespace SponsoredTx.Extension

open Foundation.HoldLedger Foundation.SaturatingWeight Pallet

variable {Account Ledger RuntimeCall BaseVal BasePre : Type} {maxAllowedCallers : ℕ}
  [DecidableEq Account]

/-! ### The two adjustments of the fee -/

/-- The log lines of the clamp. -/
def clampLines (estimatedFeeWithTip actualFeeWithTip : ℕ) : List (LogLine Account) :=
  if actualFeeWithTip > estimatedFeeWithTip then
    [.actualFeeExceededEstimate estimatedFeeWithTip actualFeeWithTip]
  else []

/-- The log lines of a slash that found the hold short. -/
def shortLines (sponsor : Account) (missing : ℕ) : List (LogLine Account) :=
  if missing ≠ 0 then [.pendingHoldShort sponsor missing] else []

omit [DecidableEq Account] in
/-- The clamp takes the smaller of the fee and the estimate. -/
theorem clampToEstimate_eq (estimatedFeeWithTip actualFeeWithTip : ℕ)
    (st : PalletState Account Ledger maxAllowedCallers) :
    clampToEstimate estimatedFeeWithTip actualFeeWithTip st =
      (min actualFeeWithTip estimatedFeeWithTip,
        { st with log := st.log ++ clampLines estimatedFeeWithTip actualFeeWithTip }) := by
  unfold clampToEstimate clampLines
  split_ifs with hexceeds
  · rw [min_eq_right (le_of_lt hexceeds)]
    rfl
  · rw [min_eq_left (not_lt.mp hexceeds), List.append_nil]

/-- The slash takes what the pending hold has of the fee, and the fee left after the subtraction is
the credit: what is missing is never more than what was asked for. -/
theorem slashPending_eq {balances : Balances Account HoldReason Ledger}
    (hledger : balances.FailSafe) (sponsor : Account) (charged : ℕ)
    (st : PalletState Account Ledger maxAllowedCallers) :
    slashPending balances sponsor charged st =
      (min charged (pendingOnHold balances st sponsor),
        min charged (pendingOnHold balances st sponsor),
        { st with
          ledger := (balances.slash .sponsorshipPending sponsor charged st.ledger).2
          log := st.log ++
            shortLines sponsor (charged - pendingOnHold balances st sponsor) }) := by
  obtain ⟨ledger, hslash, -⟩ :=
    hledger.slash_eq .sponsorshipPending sponsor charged st.ledger
  change balances.slash .sponsorshipPending sponsor charged st.ledger =
    ((min charged (pendingOnHold balances st sponsor),
      charged - pendingOnHold balances st sponsor), ledger) at hslash
  unfold slashPending shortLines
  simp only [hslash]
  split_ifs with hmissing
  · have hcharged : charged - (charged - pendingOnHold balances st sponsor) =
        min charged (pendingOnHold balances st sponsor) := by omega
    rw [hcharged]
    rfl
  · have hcharged : min charged (pendingOnHold balances st sponsor) = charged := by omega
    rw [hcharged, List.append_nil]

omit [DecidableEq Account] in
/-- The tip is part of the credit, so the split gives the whole tip to the tip credit. -/
theorem routeCredit_eq (config : Config Account Ledger RuntimeCall BaseVal BasePre)
    {credit actualTip : ℕ} (htip : actualTip ≤ credit)
    (st : PalletState Account Ledger maxAllowedCallers) :
    routeCredit config credit actualTip st =
      { st with
        ledger := config.feeDestination [credit - actualTip, actualTip] st.ledger
        routed := st.routed ++ [(credit - actualTip, actualTip)] } := by
  unfold routeCredit
  simp only [min_eq_right htip]

/-! ### The four ends of the restore -/

/-- How the restore of a ledger ends, by the answers of the ledger: nothing is asked for when
nothing is pending; a release and a hold that succeed put the pending amount into the budget hold; a
hold that fails leaves it free and logs the error of the hold; and a release that fails leaves it
pending and logs the error of the release. -/
inductive RestEnds (balances : Balances Account HoldReason Ledger) (who : Account)
    (before after : Ledger) : List (LogLine Account) → Prop
  | nothing (hnothing : (balances.account before who).onHold .sponsorshipPending = 0)
      (hafter : after = before) : RestEnds balances who before after []
  | restored (released : Ledger)
      (hsome : (balances.account before who).onHold .sponsorshipPending ≠ 0)
      (hrelease : balances.release .sponsorshipPending who
        ((balances.account before who).onHold .sponsorshipPending) .bestEffort before =
          .ok ((balances.account before who).onHold .sponsorshipPending) released)
      (hhold : balances.hold .sponsorshipBudget who
        ((balances.account before who).onHold .sponsorshipPending) released = .ok ⟨⟩ after) :
      RestEnds balances who before after []
  | freed (e : TokenError)
      (hsome : (balances.account before who).onHold .sponsorshipPending ≠ 0)
      (hrelease : balances.release .sponsorshipPending who
        ((balances.account before who).onHold .sponsorshipPending) .bestEffort before =
          .ok ((balances.account before who).onHold .sponsorshipPending) after)
      (hhold : balances.hold .sponsorshipBudget who
        ((balances.account before who).onHold .sponsorshipPending) after = .error e after) :
      RestEnds balances who before after [.failedToRestoreBudget who e]
  | kept (e : TokenError)
      (hsome : (balances.account before who).onHold .sponsorshipPending ≠ 0)
      (hrelease : balances.release .sponsorshipPending who
        ((balances.account before who).onHold .sponsorshipPending) .bestEffort before =
          .error e before)
      (hafter : after = before) : RestEnds balances who before after [.failedToReleasePending who e]

section Ends

variable {balances : Balances Account HoldReason Ledger} {who : Account} {before after : Ledger}
  {lines : List (LogLine Account)}

/-- However the restore ends, it moves one account and keeps its total: the rest is neither lost nor
duplicated. -/
theorem RestEnds.moved (hledger : balances.FailSafe)
    (hends : RestEnds balances who before after lines) :
    ∃ account, balances.Moved before who account after ∧
      account.total = (balances.account before who).total := by
  cases hends with
  | nothing hnothing hafter =>
    subst hafter
    exact ⟨_, Balances.Moved.refl balances _ who, rfl⟩
  | restored released hsome hrelease hhold =>
    have hreleased := hledger.release_moved le_rfl hrelease
    obtain ⟨hfree, hheld⟩ := hledger.hold_moved hhold
    rw [hreleased.account_self] at hfree hheld
    refine ⟨_, hreleased.trans hheld, ?_⟩
    rw [AccountData.total_withHold _ _ hfree, AccountData.total_withRelease _ le_rfl]
  | freed e hsome hrelease hhold =>
    exact ⟨_, hledger.release_moved le_rfl hrelease, AccountData.total_withRelease _ le_rfl⟩
  | kept e hsome hrelease hafter =>
    subst hafter
    exact ⟨_, Balances.Moved.refl balances _ who, rfl⟩

/-- The balances at each end of the restore, with the answers of the ledger. -/
theorem RestEnds.outcome (hledger : balances.FailSafe)
    (hends : RestEnds balances who before after lines) :
    let rest := (balances.account before who).onHold .sponsorshipPending
    (lines = [] ∧
        (rest = 0 ∨ ∃ released,
          balances.release .sponsorshipPending who rest .bestEffort before = .ok rest released ∧
          balances.hold .sponsorshipBudget who rest released = .ok ⟨⟩ after) ∧
        (balances.account after who).free = (balances.account before who).free ∧
        (balances.account after who).onHold .sponsorshipBudget =
          (balances.account before who).onHold .sponsorshipBudget + rest ∧
        (balances.account after who).onHold .sponsorshipPending = 0) ∨
      (∃ e, lines = [.failedToRestoreBudget who e] ∧ rest ≠ 0 ∧
        balances.release .sponsorshipPending who rest .bestEffort before = .ok rest after ∧
        balances.hold .sponsorshipBudget who rest after = .error e after ∧
        (balances.account after who).free = (balances.account before who).free + rest ∧
        (balances.account after who).onHold .sponsorshipBudget =
          (balances.account before who).onHold .sponsorshipBudget ∧
        (balances.account after who).onHold .sponsorshipPending = 0) ∨
      ∃ e, lines = [.failedToReleasePending who e] ∧ rest ≠ 0 ∧
        balances.release .sponsorshipPending who rest .bestEffort before = .error e before ∧
        (balances.account after who).free = (balances.account before who).free ∧
        (balances.account after who).onHold .sponsorshipBudget =
          (balances.account before who).onHold .sponsorshipBudget ∧
        (balances.account after who).onHold .sponsorshipPending = rest := by
  intro rest
  cases hends with
  | nothing hnothing hafter =>
    subst hafter
    exact Or.inl ⟨rfl, Or.inl hnothing, rfl, by simp [rest, hnothing], hnothing⟩
  | restored released hsome hrelease hhold =>
    have hreleased := hledger.release_moved le_rfl hrelease
    have hheld := (hledger.hold_moved hhold).2
    rw [hreleased.account_self] at hheld
    refine Or.inl ⟨rfl, Or.inr ⟨released, hrelease, hhold⟩, ?_⟩
    rw [hheld.account_self]
    exact ⟨by simp, by simp [rest], by simp⟩
  | freed e hsome hrelease hhold =>
    have hreleased := hledger.release_moved le_rfl hrelease
    refine Or.inr (Or.inl ⟨e, rfl, hsome, hrelease, hhold, ?_⟩)
    rw [hreleased.account_self]
    exact ⟨by simp [rest], by simp, by simp⟩
  | kept e hsome hrelease hafter =>
    subst hafter
    exact Or.inr (Or.inr ⟨e, rfl, hsome, hrelease, rfl, rfl, rfl⟩)

end Ends

/-- `restore_pending_to_budget` over a fail-safe ledger ends in one of the four ways, the log says
in which, and nothing but the ledger and the log changes. -/
theorem restorePendingToBudget_cases {balances : Balances Account HoldReason Ledger}
    (hledger : balances.FailSafe) (who : Account)
    (st : PalletState Account Ledger maxAllowedCallers) :
    ∃ ledger lines, RestEnds balances who st.ledger ledger lines ∧
      restorePendingToBudget balances who st = { st with ledger, log := st.log ++ lines } := by
  by_cases hzero : pendingOnHold balances st who = 0
  · refine ⟨st.ledger, [], .nothing hzero rfl, ?_⟩
    rw [restorePendingToBudget, if_pos hzero, List.append_nil]
  · rcases hledger.release_cases .sponsorshipPending who (pendingOnHold balances st who) .bestEffort
      st.ledger le_rfl with ⟨e, hrelease⟩ | ⟨released, hrelease, -⟩
    · refine ⟨st.ledger, _, .kept e hzero hrelease rfl, ?_⟩
      simp only [restorePendingToBudget, if_neg hzero, hrelease]
      rfl
    · rcases hledger.hold_cases .sponsorshipBudget who (pendingOnHold balances st who) released with
        ⟨e, hhold⟩ | ⟨-, held, hhold, -⟩
      · refine ⟨released, _, .freed e hzero hrelease hhold, ?_⟩
        simp only [restorePendingToBudget, if_neg hzero, hrelease, hhold]
        rfl
      · refine ⟨held, [], .restored released hzero hrelease hhold, ?_⟩
        simp only [restorePendingToBudget, if_neg hzero, hrelease, hhold, List.append_nil]

/-! ### The settlement -/

/-- What a settlement charges an account with a given pending hold: the actual fee, clamped to the
estimate and to the hold. -/
def chargedOf (actualFeeWithTip estimatedFeeWithTip pending : ℕ) : ℕ :=
  min (min actualFeeWithTip estimatedFeeWithTip) pending

/-- The state in which a settlement restores the rest: the charged amount is slashed and routed, and
the two adjustments of the fee are logged. -/
def routedState (config : Config Account Ledger RuntimeCall BaseVal BasePre) (sponsor : Account)
    (actual estimatedFeeWithTip tip : ℕ) (st : PalletState Account Ledger maxAllowedCallers) :
    PalletState Account Ledger maxAllowedCallers :=
  let pending := pendingOnHold config.balances st sponsor
  let charged := chargedOf actual estimatedFeeWithTip pending
  { st with
    ledger := config.feeDestination [charged - min tip charged, min tip charged]
      (config.balances.slash .sponsorshipPending sponsor (min actual estimatedFeeWithTip)
        st.ledger).2
    routed := st.routed ++ [(charged - min tip charged, min tip charged)]
    log := st.log ++ clampLines estimatedFeeWithTip actual ++
      shortLines sponsor (min actual estimatedFeeWithTip - pending) }

/-- A settlement slashes and routes the charged amount, restores the rest, and reports the charged
amount. -/
theorem settleSponsoredFee_eq {config : Config Account Ledger RuntimeCall BaseVal BasePre}
    (hledger : config.balances.FailSafe) (fees : TransactionPayment) (sponsor signer : Account)
    (estimatedFeeWithTip tip : ℕ) (info : DispatchInfo) (post : PostDispatchInfo) (len : ℕ)
    (st : PalletState Account Ledger maxAllowedCallers) :
    let actual := fees.computeActualFee (UInt32.ofNat len) info post tip
    let charged := chargedOf actual estimatedFeeWithTip (pendingOnHold config.balances st sponsor)
    settleSponsoredFee config fees sponsor signer estimatedFeeWithTip tip info post len st =
      (config.dbWeight.readsWrites sponsoredPostDispatchReads sponsoredPostDispatchWrites,
        (restorePendingToBudget config.balances sponsor
          (routedState config sponsor actual estimatedFeeWithTip tip st)).depositEvent
            (.sponsoredTransactionFeePaid sponsor signer charged (min tip charged))) := by
  intro actual charged
  unfold settleSponsoredFee
  -- The clamp only writes the log, so the slash sees the pending hold of the original state.
  simp only [clampToEstimate_eq, slashPending_eq hledger, routeCredit_eq config (min_le_right _ _)]
  rfl

/-- Before the rest is restored, the charged amount has left the pending hold of the sponsor and
nothing else has changed. Assumes: a fail-safe ledger, and a fee destination that touches no
account. -/
theorem account_routedState {config : Config Account Ledger RuntimeCall BaseVal BasePre}
    (hledger : config.balances.FailSafe)
    (hdestination : ∀ credits ledger,
      config.balances.account (config.feeDestination credits ledger) =
        config.balances.account ledger)
    (sponsor : Account) (actual estimatedFeeWithTip tip : ℕ)
    (st : PalletState Account Ledger maxAllowedCallers) :
    config.balances.account
        (routedState config sponsor actual estimatedFeeWithTip tip st).ledger =
      Function.update (config.balances.account st.ledger) sponsor
        ((config.balances.account st.ledger sponsor).withSlash .sponsorshipPending
          (chargedOf actual estimatedFeeWithTip (pendingOnHold config.balances st sponsor))) := by
  obtain ⟨slashed, hslash, hmoved⟩ := hledger.slash_eq .sponsorshipPending sponsor
    (min actual estimatedFeeWithTip) st.ledger
  change config.balances.account (config.feeDestination _ _) = _
  rw [hdestination, hslash]
  exact hmoved.account

/-- However the restore ends, a settlement changes one account, whose total falls by the charged
amount. Assumes: a fail-safe ledger, and a fee destination that touches no account. -/
theorem account_settled {config : Config Account Ledger RuntimeCall BaseVal BasePre}
    (hledger : config.balances.FailSafe)
    (hdestination : ∀ credits ledger,
      config.balances.account (config.feeDestination credits ledger) =
        config.balances.account ledger)
    {sponsor : Account} {actual estimatedFeeWithTip tip : ℕ}
    {st : PalletState Account Ledger maxAllowedCallers} {ledger : Ledger}
    {lines : List (LogLine Account)}
    (hends : RestEnds config.balances sponsor
      (routedState config sponsor actual estimatedFeeWithTip tip st).ledger ledger lines) :
    ∃ account, config.balances.account ledger =
        Function.update (config.balances.account st.ledger) sponsor account ∧
      account.total +
          chargedOf actual estimatedFeeWithTip (pendingOnHold config.balances st sponsor) =
        (config.balances.account st.ledger sponsor).total := by
  have hrouted := account_routedState hledger hdestination sponsor actual estimatedFeeWithTip tip st
  obtain ⟨account, hmoved, htotal⟩ := hends.moved hledger
  refine ⟨account, ?_, ?_⟩
  · rw [hmoved.account, hrouted, Function.update_idem]
  · rw [htotal, hrouted, Function.update_self]
    exact AccountData.total_withSlash _ (min_le_right _ _)

/-- A settlement as one change of the state: the charged amount leaves the pending hold of the
sponsor, the ledger restores the rest as it answers, and the events, the credits and the log say so.
Assumes: a fail-safe ledger. -/
theorem settleSponsoredFee_cases {config : Config Account Ledger RuntimeCall BaseVal BasePre}
    (hledger : config.balances.FailSafe) (fees : TransactionPayment) (sponsor signer : Account)
    (estimatedFeeWithTip tip : ℕ) (info : DispatchInfo) (post : PostDispatchInfo) (len : ℕ)
    (st : PalletState Account Ledger maxAllowedCallers) :
    let actual := fees.computeActualFee (UInt32.ofNat len) info post tip
    let pending := pendingOnHold config.balances st sponsor
    let charged := chargedOf actual estimatedFeeWithTip pending
    ∃ ledger lines,
      RestEnds config.balances sponsor
        (routedState config sponsor actual estimatedFeeWithTip tip st).ledger ledger lines ∧
      (settleSponsoredFee config fees sponsor signer estimatedFeeWithTip tip info post len st).2 =
        { st with
          ledger
          events := st.events ++
            [.sponsoredTransactionFeePaid sponsor signer charged (min tip charged)]
          routed := st.routed ++ [(charged - min tip charged, min tip charged)]
          log := st.log ++ clampLines estimatedFeeWithTip actual ++
            shortLines sponsor (min actual estimatedFeeWithTip - pending) ++ lines } := by
  intro actual pending charged
  obtain ⟨ledger, lines, hends, hrestore⟩ := restorePendingToBudget_cases hledger sponsor
    (routedState config sponsor actual estimatedFeeWithTip tip st)
  refine ⟨ledger, lines, hends, ?_⟩
  rw [settleSponsoredFee_eq hledger, hrestore]
  rfl

/-- Settlement reports and routes exactly the money it takes, on every path. Assumes: a fail-safe
ledger, whose `hold` and `release` may fail at any time, and a fee destination that consumes its
credits without touching an account, as `()` does. From any state, the total balance of the sponsor
falls by the smallest of the actual fee, the estimate and the pending hold; that amount is the fee
of the event and the sum of the two credits; the tip of the event is the tip credit; and the
shortfall subtracted is at most the fee it is subtracted from. The rest of the pending hold ends
whole where the ledger sends it: in the budget hold if the release and the new hold succeed or if
nothing is left, in the free balance if the hold fails with the error that is logged, and still
pending if the release fails with the error that is logged. No other account and no entry
changes. -/
theorem settlement_accounts {config : Config Account Ledger RuntimeCall BaseVal BasePre}
    (hledger : config.balances.FailSafe)
    (hdestination : ∀ credits ledger,
      config.balances.account (config.feeDestination credits ledger) =
        config.balances.account ledger)
    (fees : TransactionPayment) (sponsor signer : Account) (estimatedFeeWithTip tip : ℕ)
    (info : DispatchInfo) (post : PostDispatchInfo) (len : ℕ)
    (st : PalletState Account Ledger maxAllowedCallers) :
    let actual := fees.computeActualFee (UInt32.ofNat len) info post tip
    let before := config.balances.account st.ledger
    let charged := min (min actual estimatedFeeWithTip)
      ((before sponsor).onHold .sponsorshipPending)
    let slash := config.balances.slash .sponsorshipPending sponsor (min actual estimatedFeeWithTip)
      st.ledger
    let missing := slash.1.2
    let routed := config.feeDestination [charged - min tip charged, min tip charged] slash.2
    let rest := (before sponsor).onHold .sponsorshipPending - charged
    let release := config.balances.release .sponsorshipPending sponsor rest .bestEffort routed
    let hold := config.balances.hold .sponsorshipBudget sponsor rest
    let settled :=
      (settleSponsoredFee config fees sponsor signer estimatedFeeWithTip tip info post len st).2
    let after := config.balances.account settled.ledger
    (before sponsor).total = (after sponsor).total + charged ∧
      settled.events = st.events ++
        [.sponsoredTransactionFeePaid sponsor signer charged (min tip charged)] ∧
      (∃ feeCredit tipCredit, settled.routed = st.routed ++ [(feeCredit, tipCredit)] ∧
        feeCredit + tipCredit = charged ∧ tipCredit = min tip charged) ∧
      missing ≤ min actual estimatedFeeWithTip ∧
      (∃ lines, settled.log = st.log ++ clampLines estimatedFeeWithTip actual ++
          shortLines sponsor missing ++ lines ∧
        ((lines = [] ∧
            (rest = 0 ∨ ∃ released, release = .ok rest released ∧
              hold released = .ok ⟨⟩ settled.ledger) ∧
            (after sponsor).free = (before sponsor).free ∧
            (after sponsor).onHold .sponsorshipBudget =
              (before sponsor).onHold .sponsorshipBudget + rest ∧
            (after sponsor).onHold .sponsorshipPending = 0) ∨
          (∃ e, lines = [.failedToRestoreBudget sponsor e] ∧ rest ≠ 0 ∧
            release = .ok rest settled.ledger ∧ hold settled.ledger = .error e settled.ledger ∧
            (after sponsor).free = (before sponsor).free + rest ∧
            (after sponsor).onHold .sponsorshipBudget =
              (before sponsor).onHold .sponsorshipBudget ∧
            (after sponsor).onHold .sponsorshipPending = 0) ∨
          ∃ e, lines = [.failedToReleasePending sponsor e] ∧ rest ≠ 0 ∧
            release = .error e routed ∧
            (after sponsor).free = (before sponsor).free ∧
            (after sponsor).onHold .sponsorshipBudget =
              (before sponsor).onHold .sponsorshipBudget ∧
            (after sponsor).onHold .sponsorshipPending = rest)) ∧
      (∀ other, other ≠ sponsor → after other = before other) ∧
      settled.sponsors = st.sponsors := by
  intro actual before charged slash missing routed rest release hold settled after
  obtain ⟨ledger, lines, hends, hstate⟩ := settleSponsoredFee_cases hledger fees sponsor signer
    estimatedFeeWithTip tip info post len st
  have hmissing : missing = min actual estimatedFeeWithTip -
      (before sponsor).onHold .sponsorshipPending := by
    obtain ⟨slashed, hslash, -⟩ := hledger.slash_eq .sponsorshipPending sponsor
      (min actual estimatedFeeWithTip) st.ledger
    exact congrArg (fun result ↦ result.1.2) hslash
  obtain ⟨account, haccount, htotal⟩ := account_settled hledger hdestination hends
  have hsettled : settled = { st with
      ledger
      events := st.events ++
        [.sponsoredTransactionFeePaid sponsor signer charged (min tip charged)]
      routed := st.routed ++ [(charged - min tip charged, min tip charged)]
      log := st.log ++ clampLines estimatedFeeWithTip actual ++ shortLines sponsor missing ++
        lines } := by
    rw [hmissing]
    exact hstate
  have hafter : after = Function.update before sponsor account := by
    change config.balances.account settled.ledger = _
    rw [hsettled]
    exact haccount
  refine ⟨?_, ?_, ⟨charged - min tip charged, min tip charged, ?_, ?_, rfl⟩, ?_, ⟨lines, ?_, ?_⟩,
    ?_, ?_⟩
  · rw [hafter, Function.update_self]
    exact htotal.symm
  · rw [hsettled]
  · rw [hsettled]
  · omega
  · omega
  · rw [hsettled]
  · -- The restore starts from the slashed account.
    have hself : config.balances.account routed sponsor =
        (before sponsor).withSlash .sponsorshipPending charged := by
      have hrouted := account_routedState hledger hdestination sponsor actual estimatedFeeWithTip
        tip st
      exact (congrFun hrouted sponsor).trans (Function.update_self ..)
    have hrest : ((before sponsor).withSlash .sponsorshipPending charged).onHold
        .sponsorshipPending = rest := by simp [rest]
    have hbudget : ((before sponsor).withSlash .sponsorshipPending charged).onHold
        .sponsorshipBudget = (before sponsor).onHold .sponsorshipBudget := by simp
    have hledger' : settled.ledger = ledger := by rw [hsettled]
    have hroutedEnds : RestEnds config.balances sponsor routed ledger lines := hends
    have houtcome := hroutedEnds.outcome hledger
    rw [hself, hrest, hbudget, AccountData.free_withSlash, ← hledger'] at houtcome
    exact houtcome
  · intro other hother
    rw [hafter, Function.update_of_ne hother]
  · rw [hsettled]

/-! ### Two branches -/

/-- The test runtime with a given existential deposit. -/
def depositConfig (deposit : ℕ) : Config ℕ MockLedger Unit Unit Unit :=
  mockConfigOver (referenceBalances ℕ HoldReason deposit)

/-- The test state with given balances of account 1. -/
def heldState (free budget pending : ℕ) : PalletState ℕ MockLedger 8 :=
  { mockState with
    ledger := mockState.ledger.setAccount 1
      { free
        onHold := fun
          | .sponsorshipBudget => budget
          | .sponsorshipPending => pending
        untracked := 0
        alive := true } }

/-- A fee of 5 with a tip of 3 is settled against an estimate of 12. With 900 free and an
existential deposit of 1 the ledger restores the other 5 of a pending hold of 10. With nothing free
and an existential deposit of 10 it refuses to release the other 2 of a pending hold of 7, which
would be dust, and they stay pending. -/
theorem settlement_accounts_heldState :
    let clean := (settleSponsoredFee (depositConfig 1) mockFees 1 2 12 3 mockInfo mockPost 0
      (heldState 900 7 10)).2
    let dust := (settleSponsoredFee (depositConfig 10) mockFees 1 2 12 3 mockInfo mockPost 0
      (heldState 0 0 7)).2
    (clean.events = [.sponsoredTransactionFeePaid 1 2 5 3] ∧
      (clean.ledger.account 1).free = 900 ∧
      (clean.ledger.account 1).onHold .sponsorshipBudget = 12 ∧
      (clean.ledger.account 1).onHold .sponsorshipPending = 0 ∧ clean.log = []) ∧
    (dust.events = [.sponsoredTransactionFeePaid 1 2 5 3] ∧
      (dust.ledger.account 1).free = 0 ∧
      (dust.ledger.account 1).onHold .sponsorshipBudget = 0 ∧
      (dust.ledger.account 1).onHold .sponsorshipPending = 2 ∧
      dust.log = [.failedToReleasePending 1 .cannotCreate]) := by
  intro clean dust
  have hsafe : ∀ deposit, (depositConfig deposit).balances.FailSafe :=
    fun deposit ↦ (referenceBalances_exact deposit).failSafe
  obtain ⟨-, hclean, -, -, ⟨lines, hlog, hends⟩, -⟩ := settlement_accounts (hsafe 1) (fun _ _ ↦ rfl)
    mockFees 1 2 12 3 mockInfo mockPost 0 (heldState 900 7 10)
  obtain ⟨-, hdust, -, -, ⟨lines', hlog', hends'⟩, -⟩ := settlement_accounts (hsafe 10)
    (fun _ _ ↦ rfl) mockFees 1 2 12 3 mockInfo mockPost 0 (heldState 0 0 7)
  -- The log tells which of the branches was taken.
  have hquiet : clean.log = [] := by decide
  have hkept : dust.log = [.failedToReleasePending 1 .cannotCreate] := by decide
  refine ⟨⟨hclean, ?_⟩, ⟨hdust, ?_⟩⟩
  · rcases hends with ⟨-, -, hfree, hbudget, hpending⟩ | ⟨e, rfl, -⟩ | ⟨e, rfl, -⟩
    · exact ⟨hfree, hbudget, hpending, hquiet⟩
    · exact absurd (hlog.symm.trans hquiet) (by simp)
    · exact absurd (hlog.symm.trans hquiet) (by simp)
  · rcases hends' with ⟨rfl, -⟩ | ⟨e, rfl, -⟩ | ⟨e, -, -, -, hfree, hbudget, hpending⟩
    · exact absurd (hlog'.symm.trans hkept) (by decide)
    · exact absurd (List.append_cancel_left (hlog'.symm.trans hkept)) (by simp)
    · exact ⟨hfree, hbudget, hpending, hkept⟩

end SponsoredTx.Extension
