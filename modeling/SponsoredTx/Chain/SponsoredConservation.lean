import SponsoredTx.Chain.AuditTrail

/-!
# A sponsored transaction conserves money

The money of a sponsored transaction makes four moves: from the budget hold to free, from free to
the pending hold, from the pending hold to the fee, and the rest back over free to the budget hold.
Between the second and the third move runs the body: any number of lifecycle calls by any accounts,
the sponsor included, and of balance movements outside the pallet, and at its end a rollback if the
dispatch failed (`BodyStep`). No body can touch the reservation: the flight and the charges of its
sponsor are unchanged by every call and every outside movement (`flight_and_charges_of_effect`),
and so by every body (`flight_and_charges_of_body`).

`sponsored_transaction_conserves` follows the money through a whole transaction.
-/

set_option autoImplicit false
set_option relaxedAutoImplicit false

namespace SponsoredTx.Chain

open Foundation.HoldLedger Foundation.Runs Pallet Extension

variable {Account Ledger RuntimeCall BaseVal BasePre : Type} {maxAllowedCallers : ℕ}
  [DecidableEq Account] {config : Config Account Ledger RuntimeCall BaseVal BasePre} {deposit : ℕ}

/-! ### The body of a transaction -/

/-- The labels of the steps of a body: lifecycle calls, outside movements, and the rollback of a
dispatch that failed. -/
def IsBody : Option (Action Account Ledger RuntimeCall maxAllowedCallers) → Prop
  | none => True
  | some (.call _ _) => True
  | some (.outside _) => True
  | some (.begin _ _ _ _ _ _) => False
  | some (.settle _ _ _) => False

/-- One step of the body of a dispatch. -/
def BodyStep (config : Config Account Ledger RuntimeCall BaseVal BasePre) (deposit : ℕ)
    (label : Option (Action Account Ledger RuntimeCall maxAllowedCallers))
    (before after : ChainState Account Ledger maxAllowedCallers) : Prop :=
  Step config deposit label before after ∧ IsBody label

/-- A body leads from a reachable state to a reachable state. -/
theorem Reachable.body {start : PalletState Account Ledger maxAllowedCallers}
    {chain chain' : ChainState Account Ledger maxAllowedCallers}
    (hreach : Reachable config deposit start chain)
    (hbody : Reaches (BodyStep config deposit) chain chain') :
    Reachable config deposit start chain' :=
  Reaches.trans hreach (hbody.mono fun _ _ _ hstep ↦ hstep.1)

/-- What every step of a body preserves of the stage, if a call and an outside movement preserve it
and it holds after `prepare`, holds at the end of the body. The rollback returns to the stage after
`prepare`. Assumes: an exact ledger, burned fees, and a genesis. -/
theorem body_invariant (hsound : config.Sound deposit)
    {start : PalletState Account Ledger maxAllowedCallers}
    (hgenesis : Genesis config.balances start) {P : Stage Account Ledger maxAllowedCallers → Prop}
    {opened : Stage Account Ledger maxAllowedCallers}
    {ended : ChainState Account Ledger maxAllowedCallers} (hopened : P opened)
    (hreach : Reachable config deposit start ⟨opened, some opened⟩)
    (heffect : ∀ (action : Action Account Ledger RuntimeCall maxAllowedCallers) stage stage',
      IsBody (some action) → Effect config deposit stage action stage' → P stage → P stage')
    (hbody : Reaches (BodyStep config deposit) ⟨opened, some opened⟩ ended) : P ended.now := by
  suffices hinv : Reachable config deposit start ended ∧ ended.checkpoint = some opened ∧
      P ended.now from hinv.2.2
  refine Reaches.invariant (P := fun chain ↦ Reachable config deposit start chain ∧
    chain.checkpoint = some opened ∧ P chain.now) ?_ hbody ⟨hreach, rfl, hopened⟩
  rintro label chain chain' ⟨hstep, hlabel⟩ ⟨hchain, hcheckpoint, hp⟩
  refine ⟨Reaches.tail hchain hstep, ?_⟩
  cases hstep with
  | @advance action _ after htransition =>
    have heff := transition_effect hsound (secured_of_reachable hsound hgenesis hchain) htransition
    have hmark : checkpointMark action = .keep := by
      cases action with
      | call origin call => rfl
      | outside ledger => rfl
      | begin fees self origin call info len => exact hlabel.elim
      | settle fees post result => exact hlabel.elim
    refine ⟨?_, heffect action _ _ hlabel heff hp⟩
    rw [hmark, Mark.apply, hcheckpoint]
  | @revert _ before hbefore =>
    obtain rfl : opened = before := Option.some.inj (hcheckpoint.symm.trans hbefore)
    exact ⟨rfl, hopened⟩

/-- A body leaves the transaction in flight, and charges nobody. -/
theorem flight_and_charges_of_effect {action : Action Account Ledger RuntimeCall maxAllowedCallers}
    {stage stage' : Stage Account Ledger maxAllowedCallers} (haction : IsBody (some action))
    (heffect : Effect config deposit stage action stage') :
    stage'.flight = stage.flight ∧
      ∀ who, chargedTo who stage'.emitted = chargedTo who stage.emitted := by
  cases heffect with
  | refused origin call => exact ⟨rfl, fun _ ↦ rfl⟩
  | accepted signer call after haccepts hadvances =>
    refine ⟨rfl, ?_⟩
    intro who
    rw [emitted_record hadvances.events]
    by_cases hwho : signer = who
    · rw [chargedTo, sumAbout_append_self _ ((Slot.sponsor_announcement _ signer call).trans hwho),
        feeOf_announcement, Nat.add_zero, chargedTo]
    · have hne : ((slotOf config.balances stage.state signer).announcement signer call).sponsor ≠
          who := by rwa [Slot.sponsor_announcement]
      rw [chargedTo, sumAbout_append_of_ne _ hne, chargedTo]
  | moved ledger hmove => exact ⟨rfl, fun _ ↦ rfl⟩
  | reserved fees tip sponsor signer call info len prepared hidle hadmits hadvances =>
    exact haction.elim
  | settled fees post result flight after hflight hsettles => exact haction.elim

/-- After any body the transaction is still in flight, and nobody was charged. Assumes: an exact
ledger, burned fees, and a genesis. -/
theorem flight_and_charges_of_body (hsound : config.Sound deposit)
    {start : PalletState Account Ledger maxAllowedCallers}
    (hgenesis : Genesis config.balances start) {opened : Stage Account Ledger maxAllowedCallers}
    (hreach : Reachable config deposit start ⟨opened, some opened⟩)
    {ended : ChainState Account Ledger maxAllowedCallers}
    (hbody : Reaches (BodyStep config deposit) ⟨opened, some opened⟩ ended) :
    ended.now.flight = opened.flight ∧
      ∀ who, chargedTo who ended.now.emitted = chargedTo who opened.emitted := by
  refine body_invariant hsound hgenesis (P := fun stage ↦ stage.flight = opened.flight ∧
    ∀ who, chargedTo who stage.emitted = chargedTo who opened.emitted) ⟨rfl, fun _ ↦ rfl⟩ hreach ?_
    hbody
  rintro action stage stage' haction heffect ⟨hflight, hcharges⟩
  obtain ⟨hflight', hcharges'⟩ := flight_and_charges_of_effect haction heffect
  exact ⟨hflight'.trans hflight, fun who ↦ (hcharges' who).trans (hcharges who)⟩

/-- Between two stages of a run without a charge, the two holds of an account together change by
what it escrowed and by what was released to it. -/
theorem holds_change_of_audited {balances : Balances Account HoldReason Ledger}
    {start : PalletState Account Ledger maxAllowedCallers}
    {before ended : Stage Account Ledger maxAllowedCallers}
    (hbefore : Audited balances start before) (hended : Audited balances start ended)
    {who : Account} (hcharges : chargedTo who ended.emitted = chargedTo who before.emitted) :
    ((budgetOnHold balances ended.state who + pendingOnHold balances ended.state who : ℕ) : ℤ) -
        (budgetOnHold balances before.state who + pendingOnHold balances before.state who : ℕ) =
      ((escrowedBy who ended.emitted : ℤ) - escrowedBy who before.emitted) -
        ((ended.released who : ℤ) - before.released who) := by
  have hfirst : escrowedBy who before.emitted = chargedTo who before.emitted +
      before.released who + (budgetOnHold balances before.state who +
        pendingOnHold balances before.state who) := hbefore.balanced who
  have hsecond : escrowedBy who ended.emitted = chargedTo who ended.emitted +
      ended.released who + (budgetOnHold balances ended.state who +
        pendingOnHold balances ended.state who) := hended.balanced who
  omega

/-! ### The whole transaction -/

/-- The accounts of a sponsored transaction, from the stage before it over the stage after
`prepare` and the stage at the end of the body to the stage after the settlement, with a charge of
`charged`. -/
structure Conserves (balances : Balances Account HoldReason Ledger)
    (flight : Flight Account Ledger maxAllowedCallers) (actual charged : ℕ)
    (before opened ended closed : Stage Account Ledger maxAllowedCallers) : Prop where
  /-- When the settlement starts, the pending hold is the estimate, -/
  reservation : pendingOnHold balances ended.state flight.sponsor = flight.estimatedFeeWithTip
  /-- the slash takes the charge and reports no shortfall, -/
  slash : (balances.slash .sponsorshipPending flight.sponsor charged ended.state.ledger).1 =
    (charged, 0)
  /-- and the settlement logs nothing but a clamped fee, so the restore does not fail. -/
  log : closed.state.log =
    ended.state.log ++ clampLines flight.estimatedFeeWithTip actual
  /-- Afterwards nothing is pending, -/
  pending : pendingOnHold balances closed.state flight.sponsor = 0
  /-- the budget got back what was not charged, -/
  budget : budgetOnHold balances closed.state flight.sponsor + charged =
    budgetOnHold balances ended.state flight.sponsor + flight.estimatedFeeWithTip
  /-- so that over the whole transaction it changed by what the body escrowed, by what the body
  released, and by the charge, -/
  budgetChange : (budgetOnHold balances closed.state flight.sponsor : ℤ) -
      budgetOnHold balances before.state flight.sponsor =
    ((escrowedBy flight.sponsor ended.emitted : ℤ) - escrowedBy flight.sponsor before.emitted) -
      ((ended.released flight.sponsor : ℤ) - before.released flight.sponsor) - charged
  /-- the free balance is what the body left, -/
  free : (balances.account closed.state.ledger flight.sponsor).free =
    (balances.account ended.state.ledger flight.sponsor).free
  /-- the issuance fell by the charge, -/
  totalIssuance : balances.totalIssuance closed.state.ledger + charged =
    balances.totalIssuance ended.state.ledger
  /-- no other account, the signer's included, was touched by the settlement, -/
  other : ∀ who, who ≠ flight.sponsor →
    balances.account closed.state.ledger who = balances.account ended.state.ledger who
  /-- and `prepare` touched no other account and took nothing from the sponsor. -/
  prepared : (∀ who, who ≠ flight.sponsor →
      balances.account opened.state.ledger who = balances.account before.state.ledger who) ∧
    (balances.account opened.state.ledger flight.sponsor).total =
      (balances.account before.state.ledger flight.sponsor).total ∧
    (balances.account opened.state.ledger flight.sponsor).free =
      (balances.account before.state.ledger flight.sponsor).free

/-- A settlement on a secured stage takes the charge out of the pending hold and puts the rest
back. -/
theorem settled_accounts {balances : Balances Account HoldReason Ledger}
    {stage : Stage Account Ledger maxAllowedCallers} (hsecured : Secured balances deposit stage)
    {flight : Flight Account Ledger maxAllowedCallers} (hflight : stage.flight = some flight)
    {fees : TransactionPayment} {post : PostDispatchInfo}
    {after : PalletState Account Ledger maxAllowedCallers}
    (hsettles : Settles balances stage.state flight.sponsor flight.signer
      (withSettled (slotOf balances stage.state flight.sponsor).account (flight.charge fees post))
      (flight.charge fees post) flight.tip
      (clampLines flight.estimatedFeeWithTip (flight.actualFee fees post)) after) :
    pendingOnHold balances after flight.sponsor = 0 ∧
      budgetOnHold balances after flight.sponsor + flight.charge fees post =
        budgetOnHold balances stage.state flight.sponsor + flight.estimatedFeeWithTip ∧
      (balances.account after.ledger flight.sponsor).free =
        (balances.account stage.state.ledger flight.sponsor).free ∧
      balances.totalIssuance after.ledger + flight.charge fees post =
        balances.totalIssuance stage.state.ledger := by
  have haccount : balances.account after.ledger flight.sponsor =
      withSettled (balances.account stage.state.ledger flight.sponsor) (flight.charge fees post) :=
    congrArg Slot.account hsettles.slot_self
  have hpending : (balances.account stage.state.ledger flight.sponsor).onHold .sponsorshipPending =
      flight.estimatedFeeWithTip := hsecured.pending_eq hflight
  have hcharged : flight.charge fees post ≤ flight.estimatedFeeWithTip := min_le_right _ _
  have hcovered := hsecured.charge_le_totalIssuance hflight fees post
  have hissuance := hsettles.totalIssuance
  refine ⟨?_, ?_, ?_, by omega⟩
  · rw [pendingOnHold, haccount, pending_withSettled]
  · rw [budgetOnHold, haccount, budget_withSettled, hpending, budgetOnHold]
    omega
  · rw [haccount, free_withSettled]

/-- A sponsored transaction conserves money. Assumes: an exact ledger, burned fees, and a run from
a state without sponsors and sponsorship holds. For a transaction that passes `validate` and
`prepare` in any reachable state, any body, whether it succeeds or is rolled back, and any
post-dispatch report and fee functions at the settlement, the accounts are conserved with a charge
of the smaller of the actual fee and the estimate; and the charge is the actual fee if the fee
functions are those of the validation and are monotone as documented. There is a settlement for all
fee functions, reports and results. -/
theorem sponsored_transaction_conserves (hsound : config.Sound deposit)
    {start : PalletState Account Ledger maxAllowedCallers}
    (hgenesis : Genesis config.balances start)
    {chain : ChainState Account Ledger maxAllowedCallers}
    (hreach : Reachable config deposit start chain) {fees : TransactionPayment}
    {self : SponsoredChargeTransactionPayment Account} {origin : RawOrigin Account}
    {call : RuntimeCall} {info : DispatchInfo} {len : ℕ}
    {opened : Stage Account Ledger maxAllowedCallers}
    (hbegin : Transition config deposit (.begin fees self origin call info len) chain.now opened)
    {ended : ChainState Account Ledger maxAllowedCallers}
    (hbody : Reaches (BodyStep config deposit) ⟨opened, some opened⟩ ended)
    {feesAfter : TransactionPayment} {post : PostDispatchInfo} {result : Except DispatchError Unit}
    {closed : Stage Account Ledger maxAllowedCallers}
    (hsettle : Transition config deposit (.settle feesAfter post result) ended.now closed) :
    ∃ sponsor flight, self.sponsor = some sponsor ∧ flight.sponsor = sponsor ∧
      origin = .signed flight.signer ∧
      flight.estimatedFeeWithTip = fees.computeFee (UInt32.ofNat len) info self.tip ∧
      Conserves config.balances flight
        (feesAfter.computeActualFee (UInt32.ofNat len) info post self.tip)
        (min (feesAfter.computeActualFee (UInt32.ofNat len) info post self.tip)
          (fees.computeFee (UInt32.ofNat len) info self.tip))
        chain.now opened ended.now closed ∧
      (fees.Monotone → feesAfter = fees →
        min (feesAfter.computeActualFee (UInt32.ofNat len) info post self.tip)
            (fees.computeFee (UInt32.ofNat len) info self.tip) =
          feesAfter.computeActualFee (UInt32.ofNat len) info post self.tip) ∧
      ∀ fees post result, ∃ settled, Transition config deposit (.settle fees post result) ended.now
        settled := by
  have hsecured := secured_of_reachable hsound hgenesis hreach
  have hopened : Reachable config deposit start ⟨opened, some opened⟩ := hreach.advance hbegin
  have hended := hopened.body hbody
  have hsecuredEnded := secured_of_reachable hsound hgenesis hended
  have haudited := audited_of_reachable hsound hgenesis (checkpoint_reaches hreach).1
  have hauditedEnded := audited_of_reachable hsound hgenesis (checkpoint_reaches hended).1
  have hbegun := transition_effect hsound hsecured hbegin
  have hclosed := transition_effect hsound hsecuredEnded hsettle
  obtain ⟨hflight, hcharges⟩ := flight_and_charges_of_body hsound hgenesis hopened hbody
  generalize hnow : chain.now = before at *
  cases hbegun with
  | reserved _ tip sponsor signer _ _ _ prepared hidle hadmits hadvances =>
    have hemitted : (before.opened config.balances prepared fees sponsor signer tip info
        len).emitted = before.emitted := (emitted_record hadvances.events).trans (List.append_nil _)
    have hchange := holds_change_of_audited haudited hauditedEnded
      ((hcharges sponsor).trans (congrArg (chargedTo sponsor) hemitted))
    have hidlePending : pendingOnHold config.balances before.state sponsor = 0 :=
      (hsecured.escrowed sponsor).pending_eq.trans (by rw [hidle, reservedOn])
    cases hclosed with
    | settled _ _ _ flight after hflightEnded hsettles =>
      obtain rfl := Option.some.inj (hflight.symm.trans hflightEnded)
      obtain ⟨hpending, hbudget, hfree, hissuance⟩ :=
        settled_accounts hsecuredEnded hflightEnded hsettles
      have hreservation : pendingOnHold config.balances ended.now.state sponsor =
          fees.computeFee (UInt32.ofNat len) info tip := hsecuredEnded.pending_eq hflightEnded
      refine ⟨sponsor, _, rfl, rfl, rfl, rfl, ⟨hreservation, ?_, hsettles.log, hpending, hbudget,
        ?_, hfree, hissuance, fun who hwho ↦ congrArg Slot.account (hsettles.slot_of_ne hwho),
        fun who hwho ↦ congrArg Slot.account (hadvances.slot_of_ne hwho), ?_, ?_⟩, ?_,
        fun fees post result ↦ ⟨_, settles_of_flight deposit hflightEnded fees post result⟩⟩
      · exact hsound.exact.slash_of_le (hsecuredEnded.charge_le hflightEnded feesAfter post)
      · -- The charge is what the settlement took out of both holds.
        dsimp only [Stage.record, Flight.charge, Flight.actualFee] at hbudget ⊢
        omega
      · have haccount := congrArg (fun slot ↦ slot.account.total) hadvances.slot_self
        exact haccount.trans (total_withReserved hadmits.budget)
      · have haccount := congrArg (fun slot ↦ slot.account.free) hadvances.slot_self
        exact haccount.trans (free_withReserved _ _)
      · rintro hmonotone rfl
        exact min_eq_left (hmonotone.computeActualFee_le _ _ _ _)

/-- Inside the transaction of account 2 in the test runtime, sponsor 1 takes back 10 of its
budget. -/
def mockBody : Stage ℕ MockLedger 8 :=
  mockCall mockInFlight 1 (.decreaseBudget 10)

/-- The transaction with that body leaves a budget of 100 - 10 - 5, and the charge is the actual
fee. -/
theorem sponsored_transaction_conserves_mockBody :
    budgetOnHold mockBalances (mockSettle mockBody).state 1 = 85 ∧
      (∃ flight : Flight ℕ MockLedger 8, flight.sponsor = 1 ∧
        Conserves mockBalances flight 5 5 mockSponsored mockInFlight mockBody
          (mockSettle mockBody)) ∧
      min (mockFees.computeActualFee 0 mockInfo mockPost 3) (mockFees.computeFee 0 mockInfo 3) =
        mockFees.computeActualFee 0 mockInfo mockPost 3 := by
  have hstep : BodyStep mockConfig 1 (some (.call (.signed 1) (.decreaseBudget 10)))
      ⟨mockInFlight, some mockInFlight⟩ ⟨mockBody, some mockInFlight⟩ :=
    ⟨.advance (c := ⟨mockInFlight, some mockInFlight⟩) (.call mockInFlight (.signed 1) _), trivial⟩
  have hbody : Reaches (BodyStep mockConfig 1) ⟨mockInFlight, some mockInFlight⟩
      ⟨mockBody, some mockInFlight⟩ := Reaches.tail (.refl _) hstep
  have hsettle : Transition mockConfig 1 (.settle mockFees mockPost (.ok ())) mockBody
      (mockSettle mockBody) := settles_of_flight 1 rfl mockFees mockPost (.ok ())
  obtain ⟨sponsor, flight, hsponsor, hflight, -, -, hconserves, hexact, -⟩ :=
    sponsored_transaction_conserves mockConfig_sound mockState_genesis mockSponsored_reachable
      mockInFlight_begins hbody hsettle
  refine ⟨by decide, ⟨flight, ?_, hconserves⟩, hexact mockFees_monotone rfl⟩
  rw [hflight]
  exact (Option.some.inj hsponsor).symm

end SponsoredTx.Chain
