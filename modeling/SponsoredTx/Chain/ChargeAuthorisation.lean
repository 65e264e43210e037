import SponsoredTx.Chain.AuditTrail

/-!
# Every charge was authorised

The allowlist, the fee cap and the active flag are read once, by `validate`; neither `prepare` nor
the settlement looks at them again. That a charge is authorised is therefore a statement about
histories: the state in which the transaction was validated (`Flight.validatedIn`) admitted it, and
that state is a stage of the same run, so its flag is what the events before it say.

`PausedSince` and `UnregisteredSince` read off those events that an account was out of service.
A registration ends both: an account that is paused, unregisters and registers again is active
without a `resume`, and `charged_after_reregistration` is a run in which it is then charged.
`charge_is_authorised` is the result for every step of every run.
-/

set_option autoImplicit false
set_option relaxedAutoImplicit false

namespace SponsoredTx.Chain

open Foundation.StatefulResult Foundation.HoldLedger Foundation.Runs Pallet Extension

variable {Account Ledger RuntimeCall BaseVal BasePre : Type} {maxAllowedCallers : ℕ}
  [DecidableEq Account]

/-! ### Out of service -/

/-- The account paused, and has neither resumed nor registered again since. -/
def PausedSince (who : Account) (events : List (Event Account)) : Prop :=
  ∃ earlier later, events = earlier ++ .sponsorPaused who :: later ∧
    .sponsorResumed who ∉ later ∧ ∀ initialBudget, .sponsorRegistered who initialBudget ∉ later

/-- The account unregistered, and has not registered again since. -/
def UnregisteredSince (who : Account) (events : List (Event Account)) : Prop :=
  ∃ earlier later, events = earlier ++ .sponsorUnregistered who :: later ∧
    ∀ initialBudget, .sponsorRegistered who initialBudget ∉ later

omit [DecidableEq Account] in
/-- A property of lines that every event of a list preserves is preserved by the list. -/
theorem foldlM_apply_invariant {P : Line → Prop} {events : List (Event Account)} {line line' : Line}
    (hpreserves : ∀ event ∈ events, ∀ line line', line.apply event = some line' → P line → P line')
    (hfold : events.foldlM Line.apply line = some line') (hline : P line) : P line' := by
  induction events generalizing line with
  | nil =>
    obtain rfl : line = line' := by simpa using hfold
    exact hline
  | cons event rest ih =>
    rw [List.foldlM_cons, Option.bind_eq_bind, Option.bind_eq_some_iff] at hfold
    obtain ⟨next, hnext, hrest⟩ := hfold
    exact ih (fun other hother ↦ hpreserves other (List.mem_cons_of_mem _ hother)) hrest
      (hpreserves event List.mem_cons_self _ _ hnext hline)

/-- A property of lines that an event establishes and that later events preserve holds at the end of
the replay. -/
theorem replay_invariant {P : Line → Prop} {who : Account} {event : Event Account}
    {earlier later : List (Event Account)} {line : Line}
    (hreplay : replay who (earlier ++ event :: later) = some line) (hevent : event.sponsor = who)
    (hestablishes : ∀ line line' : Line, line.apply event = some line' → P line')
    (hpreserves : ∀ other ∈ later, other.sponsor = who → ∀ line line',
      line.apply other = some line' → P line → P line') : P line := by
  rw [replay, eventsAbout_append, List.foldlM_append, Option.bind_eq_bind,
    Option.bind_eq_some_iff] at hreplay
  obtain ⟨before, -, hrest⟩ := hreplay
  have hcons : eventsAbout who (event :: later) = event :: eventsAbout who later :=
    List.filter_cons_of_pos (by simpa using hevent)
  rw [hcons, List.foldlM_cons, Option.bind_eq_bind, Option.bind_eq_some_iff] at hrest
  obtain ⟨after, hafter, hlater⟩ := hrest
  refine foldlM_apply_invariant ?_ hlater (hestablishes _ _ hafter)
  intro other hother
  obtain ⟨hmem, hsponsor⟩ := List.mem_filter.mp hother
  exact hpreserves other hmem (by simpa using hsponsor)

/-- What an event says about being registered. -/
def registeredAfter (registered : Bool) : Event Account → Bool
  | .sponsorRegistered _ _ => true
  | .sponsorUnregistered _ => false
  | _ => registered

/-- What an event says about being active. -/
def activeAfter (active : Bool) : Event Account → Bool
  | .sponsorRegistered _ _ => true
  | .sponsorPaused _ => false
  | .sponsorResumed _ => true
  | .sponsorUnregistered _ => false
  | _ => active

omit [DecidableEq Account] in
/-- The flags of a line after an event. -/
theorem Line.flags_of_apply {line line' : Line} {event : Event Account}
    (hline : line.apply event = some line') :
    line'.registered = registeredAfter line.registered event ∧
      line'.active = activeAfter line.active event := by
  have hsubtract : ∀ amount, line.subtract amount = some line' →
      line'.registered = line.registered ∧ line'.active = line.active := by
    intro amount hsome
    unfold Line.subtract at hsome
    split_ifs at hsome
    obtain rfl := Option.some.inj hsome
    exact ⟨rfl, rfl⟩
  cases event with
  | budgetDecreased sponsor amount newBudget => exact hsubtract amount hline
  | sponsoredTransactionFeePaid sponsor signer actualFee tip => exact hsubtract actualFee hline
  | _ =>
    obtain rfl := Option.some.inj hline
    exact ⟨rfl, rfl⟩

/-- An account that paused and neither resumed nor registered again is not active. -/
theorem PausedSince.not_active {who : Account} {events : List (Event Account)} {line : Line}
    (hpaused : PausedSince who events) (hreplay : replay who events = some line) :
    line.active = false := by
  obtain ⟨earlier, later, rfl, hresumed, hregistered⟩ := hpaused
  refine replay_invariant (P := fun line ↦ line.active = false) hreplay rfl
    (fun _ _ hline ↦ (Line.flags_of_apply hline).2) ?_
  intro other hmem hsponsor line line' hline hactive
  rw [(Line.flags_of_apply hline).2]
  cases other with
  | sponsorRegistered sponsor initialBudget =>
    obtain rfl : sponsor = who := hsponsor
    exact absurd hmem (hregistered initialBudget)
  | sponsorResumed sponsor =>
    obtain rfl : sponsor = who := hsponsor
    exact absurd hmem hresumed
  | sponsorPaused sponsor => rfl
  | sponsorUnregistered sponsor => rfl
  | _ => exact hactive

/-- An account that unregistered and did not register again is not registered. -/
theorem UnregisteredSince.not_registered {who : Account} {events : List (Event Account)}
    {line : Line} (hunregistered : UnregisteredSince who events)
    (hreplay : replay who events = some line) :
    line.registered = false := by
  obtain ⟨earlier, later, rfl, hregistered⟩ := hunregistered
  refine replay_invariant (P := fun line ↦ line.registered = false) hreplay rfl
    (fun _ _ hline ↦ (Line.flags_of_apply hline).1) ?_
  intro other hmem hsponsor line line' hline habsent
  rw [(Line.flags_of_apply hline).1]
  cases other with
  | sponsorRegistered sponsor initialBudget =>
    obtain rfl : sponsor = who := hsponsor
    exact absurd hmem (hregistered initialBudget)
  | sponsorUnregistered sponsor => rfl
  | _ => exact habsent

/-! ### Authorised flights -/

/-- The transaction in flight was authorised where it was validated: the origin was signed by the
signer that will be reported, the sponsor was registered and active, its allowlist had the signer,
the worst-case fee was within the cap of the policy and within the budget, and by the events of the
run the sponsor was neither paused nor unregistered. -/
structure Authorised (balances : Balances Account HoldReason Ledger)
    (start : PalletState Account Ledger maxAllowedCallers)
    (flight : Flight Account Ledger maxAllowedCallers) : Prop where
  signed : flight.origin = .signed flight.signer
  estimate : flight.estimatedFeeWithTip =
    flight.fees.computeFee (UInt32.ofNat flight.len) flight.info flight.tip
  policy : ∃ state, flight.validatedIn.sponsors flight.sponsor = some state ∧
    state.active = true ∧ flight.signer ∈ state.policy.allowedCallers.toList ∧
    flight.estimatedFeeWithTip ≤ state.policy.maxFeePerTx
  budget : flight.estimatedFeeWithTip ≤ budgetOnHold balances flight.validatedIn flight.sponsor
  unpaused : ¬ PausedSince flight.sponsor
    (flight.validatedIn.events.drop start.events.length)
  registered : ¬ UnregisteredSince flight.sponsor
    (flight.validatedIn.events.drop start.events.length)

/-- A transaction admitted by a stage with a complete audit trail is authorised. -/
theorem authorised_of_admits {balances : Balances Account HoldReason Ledger}
    {start : PalletState Account Ledger maxAllowedCallers}
    {stage : Stage Account Ledger maxAllowedCallers} (haudited : Audited balances start stage)
    {flight : Flight Account Ledger maxAllowedCallers} (hstate : flight.validatedIn = stage.state)
    (hestimate : flight.estimatedFeeWithTip =
      flight.fees.computeFee (UInt32.ofNat flight.len) flight.info flight.tip)
    (hadmits : Admits (slotOf balances stage.state flight.sponsor) flight.origin
      flight.estimatedFeeWithTip flight.signer) : Authorised balances start flight := by
  obtain ⟨hsigned, ⟨state, hentry, hactive, hallowed, hcap⟩, hbudget⟩ := hadmits
  have hemitted : flight.validatedIn.events.drop start.events.length = stage.emitted := by
    rw [hstate, haudited.events, List.drop_left]
  have hreplay := haudited.replayed flight.sponsor
  refine ⟨hsigned, hestimate, ⟨state, ?_, hactive, hallowed, hcap⟩, ?_, ?_, ?_⟩
  · rw [hstate]
    exact hentry
  · rw [hstate]
    exact hbudget
  · rw [hemitted]
    intro hpaused
    have hflag := hpaused.not_active hreplay
    simp [lineOf, hentry, hactive] at hflag
  · rw [hemitted]
    intro hunregistered
    have hflag := hunregistered.not_registered hreplay
    simp [lineOf, hentry] at hflag

/-- In every reachable stage the transaction in flight is authorised. Assumes: an exact ledger,
burned fees, and a genesis. -/
theorem authorised_of_reachable {config : Config Account Ledger RuntimeCall BaseVal BasePre}
    {deposit : ℕ} (hsound : config.Sound deposit)
    {start : PalletState Account Ledger maxAllowedCallers}
    (hgenesis : Genesis config.balances start)
    {stage : Stage Account Ledger maxAllowedCallers}
    (hreach : Reaches (Transition config deposit) (initialStage start) stage)
    {flight : Flight Account Ledger maxAllowedCallers} (hflight : stage.flight = some flight) :
    Authorised config.balances start flight := by
  suffices hinv : Audited config.balances start stage ∧
      ∀ flight, stage.flight = some flight → Authorised config.balances start flight from
    hinv.2 flight hflight
  refine (reachable_invariant (P := fun stage ↦ Audited config.balances start stage ∧
    ∀ flight, stage.flight = some flight → Authorised config.balances start flight) hsound hgenesis
    ⟨audited_initialStage hgenesis, by simp [initialStage]⟩ ?_ hreach).2
  rintro action stage stage' hsecured heffect ⟨haudited, hauthorised⟩
  refine ⟨heffect.audited hsecured haudited, ?_⟩
  cases heffect with
  | refused origin call => exact hauthorised
  | accepted who call after haccepts hadvances => exact hauthorised
  | moved ledger hmove => exact hauthorised
  | reserved fees tip sponsor signer call info len prepared hidle hadmits hadvances =>
    intro flight hflight
    obtain rfl := Option.some.inj hflight
    exact authorised_of_admits haudited rfl rfl hadmits
  | settled fees post result flight after hflight hsettles =>
    intro other hother
    exact absurd hother (by simp)

/-! ### Charges -/

/-- No unauthorised charge. Assumes: an exact ledger, burned fees, and a run from a state without
sponsors and sponsorship holds. Whenever a step of the pallet in the run lowers the total balance of
an account, the step is the settlement of a transaction that names the account as its sponsor, the
amount is reported as its fee and is at most its worst-case fee, and the transaction was authorised
by the account in the state where it was validated; no other account, in particular no other signer,
changes in that step. -/
theorem charge_is_authorised {config : Config Account Ledger RuntimeCall BaseVal BasePre}
    {deposit : ℕ} (hsound : config.Sound deposit)
    {start : PalletState Account Ledger maxAllowedCallers}
    (hgenesis : Genesis config.balances start)
    {chain : ChainState Account Ledger maxAllowedCallers}
    (hreach : Reachable config deposit start chain)
    {action : Action Account Ledger RuntimeCall maxAllowedCallers}
    {after : Stage Account Ledger maxAllowedCallers}
    (hstep : Transition config deposit action chain.now after)
    (hpallet : ∀ ledger, action ≠ .outside ledger) {who : Account}
    (hcharged : (config.balances.account after.state.ledger who).total <
      (config.balances.account chain.now.state.ledger who).total) :
    ∃ fees post result flight charged, action = .settle fees post result ∧
      chain.now.flight = some flight ∧ flight.sponsor = who ∧
      (config.balances.account after.state.ledger who).total + charged =
        (config.balances.account chain.now.state.ledger who).total ∧
      after.state.events = chain.now.state.events ++
        [.sponsoredTransactionFeePaid who flight.signer charged (min flight.tip charged)] ∧
      charged ≤ flight.estimatedFeeWithTip ∧ Authorised config.balances start flight ∧
      ∀ other, other ≠ who → config.balances.account after.state.ledger other =
        config.balances.account chain.now.state.ledger other := by
  have hsecured := secured_of_reachable hsound hgenesis hreach
  have heffect := transition_effect hsound hsecured hstep
  cases heffect with
  | refused origin call => exact absurd hcharged (lt_irrefl _)
  | accepted signer call state haccepts hadvances =>
    have htotal := total_eq_of_advances hadvances (Slot.total_after _ haccepts) who
    exact absurd hcharged (not_lt.mpr htotal.ge)
  | moved ledger hmove => exact absurd rfl (hpallet ledger)
  | reserved fees tip sponsor signer call info len prepared hidle hadmits hadvances =>
    have htotal := total_eq_of_advances hadvances (total_withReserved hadmits.budget) who
    exact absurd hcharged (not_lt.mpr htotal.ge)
  | settled fees post result flight state hflight hsettles =>
    have hsponsor : who = flight.sponsor := by
      by_contra hne
      have haccount := congrArg (fun slot ↦ slot.account.total) (hsettles.slot_of_ne hne)
      exact absurd hcharged (not_lt.mpr haccount.ge)
    subst hsponsor
    exact ⟨fees, post, result, flight, flight.charge fees post, rfl, hflight, rfl,
      total_of_settles hsettles (hsecured.charge_le hflight fees post), hsettles.events,
      min_le_right _ _,
      authorised_of_reachable hsound hgenesis (checkpoint_reaches hreach).1 hflight,
      fun other hother ↦ congrArg Slot.account (hsettles.slot_of_ne hother)⟩

/-- The settlement of the test runtime charges sponsor 1 for a transaction that it authorised. -/
theorem charge_is_authorised_mockSettled :
    ∃ flight, mockInFlight.flight = some flight ∧ flight.sponsor = 1 ∧
      Authorised mockBalances mockState flight := by
  obtain ⟨-, -, -, flight, -, -, hflight, hsponsor, -, -, -, hauthorised, -⟩ :=
    charge_is_authorised mockConfig_sound mockState_genesis mockInFlight_reachable
      mockSettled_settles (fun _ ↦ by simp) (show (mockBalances.account mockSettled.state.ledger
        1).total < (mockBalances.account mockInFlight.state.ledger 1).total by decide)
  exact ⟨flight, hflight, hsponsor, hauthorised⟩

/-! ### A charge after a pause without a resume -/

/-- Sponsor 1 pauses, unregisters and registers again. -/
def mockReregistered : Stage ℕ MockLedger 8 :=
  mockCall (mockCall (mockCall mockSponsored 1 .pause) 1 .unregister) 1
    (.registerSponsor 100 mockSponsorPolicy)

theorem mockReregistered_reachable : Reachable mockConfig 1 mockState ⟨mockReregistered, none⟩ :=
  mockCall_reachable (mockCall_reachable (mockCall_reachable mockSponsored_reachable 1 _) 1 _) 1 _

/-- A transaction validated after a successful `pause` and before any `resume` charges the sponsor:
a registration is active from the start. -/
theorem charged_after_reregistration :
    ∃ (chain : ChainState ℕ MockLedger 8) (after : Stage ℕ MockLedger 8)
      (flight : Flight ℕ MockLedger 8) (earlier later : List (Event ℕ)),
      Reachable mockConfig 1 mockState chain ∧
      Transition mockConfig 1 (.settle mockFees mockPost (.ok ())) chain.now after ∧
      chain.now.flight = some flight ∧ flight.sponsor = 1 ∧
      flight.validatedIn.events = earlier ++ .sponsorPaused 1 :: later ∧
      .sponsorResumed 1 ∉ later ∧
      (mockBalances.account after.state.ledger 1).total <
        (mockBalances.account chain.now.state.ledger 1).total := by
  have hvalidate : SponsoredChargeTransactionPayment.validate mockConfig mockFees ⟨3, some 1⟩
      (.signed 2) () mockInfo 0 mockReregistered.state =
        .ok (sponsoredValidity mockConfig mockInfo 0 3 5, .sponsored 1 2 5 3, .signed 2)
          mockReregistered.state := rfl
  have hbegin : Transition mockConfig 1 (.begin mockFees ⟨3, some 1⟩ (.signed 2) () mockInfo 0)
      mockReregistered (mockBegin mockReregistered) :=
    .begin mockReregistered mockFees ⟨3, some 1⟩ (.signed 2) () mockInfo 0 rfl hvalidate rfl
  refine ⟨⟨mockBegin mockReregistered, some (mockBegin mockReregistered)⟩,
    mockSettle (mockBegin mockReregistered), _, [.sponsorRegistered 1 100],
    [.sponsorUnregistered 1, .sponsorRegistered 1 100],
    mockReregistered_reachable.advance hbegin, ?_, rfl, rfl, rfl, by decide, by decide⟩
  exact settles_of_flight 1 rfl mockFees mockPost (.ok ())

end SponsoredTx.Chain
