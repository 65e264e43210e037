import SponsoredTx.Overlap.SerialOrder

/-!
# How long an admission lasts, and what a revocation leaves open

A transaction is validated when it enters the pool and again when it is included, and any number of
moves may lie in between. `Ready` is the condition on the view of a sponsor under which a
preparation goes through (`viewStep_prepare_done_iff`). `Move.spares` excludes five kinds of moves:
another preparation that names the sponsor, and the sponsor's own `decrease_budget`, `set_policy`,
`pause` and `unregister`. Everything else keeps a view ready: settlements only raise the budget, and
the moves of others are invisible. `admission_lasts` is the result for runs.

The other direction is about safety. Once a sponsor is paused or unregistered (`Revoked`), no
transaction that names it is prepared any more, and whatever is still in flight can only take what
is pending at that moment. `revocation_bounds_charges` is the bound over every later run.
-/

set_option autoImplicit false
set_option relaxedAutoImplicit false

namespace SponsoredTx.Overlap

open Foundation.HoldLedger Foundation.Runs Pallet Extension Chain

variable {Account Ledger RuntimeCall BaseVal BasePre : Type} {maxAllowedCallers : ℕ}
  [DecidableEq Account] {config : Config Account Ledger RuntimeCall BaseVal BasePre} {deposit : ℕ}

/-! ### Moves that spare an admission -/

/-- The move does not take an admission by the sponsor away: it is no preparation that names the
sponsor, and no call of its own that lowers the budget or changes the entry for the worse. -/
def Move.spares (sponsor : Account) : Move Account RuntimeCall maxAllowedCallers → Bool
  | .call origin (.decreaseBudget _) => asSystemOriginSigner origin ≠ some sponsor
  | .call origin (.setPolicy _) => asSystemOriginSigner origin ≠ some sponsor
  | .call origin .pause => asSystemOriginSigner origin ≠ some sponsor
  | .call origin .unregister => asSystemOriginSigner origin ≠ some sponsor
  | .call _ (.registerSponsor _ _) => true
  | .call _ (.increaseBudget _) => true
  | .call _ .resume => true
  | .prepare _ named _ _ _ _ _ _ => named ≠ sponsor
  | .settle _ _ _ _ _ => true

/-- A preparation with the given ticket, origin and fee goes through: the ticket is free, the slot
admits the signer, and an account that is not alive is not asked to hold zero. -/
structure Ready (view : View Account maxAllowedCallers) (sponsor : Account) (ticket : ℕ)
    (origin : RawOrigin Account) (feeWithTip : ℕ) (signer : Account) : Prop where
  ticketFree : (view.flights.any fun flight ↦ flight.isTicket sponsor ticket) = false
  admits : Admits view.slot origin feeWithTip signer
  provided : feeWithTip = 0 → view.slot.account.alive = true

section View

variable {view : View Account maxAllowedCallers} {sponsor signer : Account} {ticket : ℕ}
  {origin : RawOrigin Account} {feeWithTip : ℕ}

/-- On an escrowed slot, a preparation is done exactly if the view is ready for it. -/
theorem viewStep_prepare_done_iff (hescrowed : Escrowed deposit view.slot.pending view.slot)
    (named : Account) (fees : TransactionPayment) (tip : ℕ) (call : RuntimeCall)
    (info : DispatchInfo) (len : ℕ) :
    (viewStep deposit sponsor view (.prepare ticket named fees tip origin call info len)).1 =
        .done ↔
      ∃ signer, Ready view sponsor ticket origin (fees.computeFee (UInt32.ofNat len) info tip)
        signer := by
  simp only [viewStep]
  constructor
  · intro hdone
    split_ifs at hdone with htaken
    cases hadmission : admission view.slot origin
        (fees.computeFee (UInt32.ofNat len) info tip) with
    | error e => simp [hadmission] at hdone
    | ok signer =>
      have hadmits := (admission_eq_ok_iff _ _ _ _).mp hadmission
      simp only [hadmission, reserve_of_escrowed hescrowed hadmits.budget] at hdone
      refine ⟨signer, by simpa using htaken, hadmits, ?_⟩
      intro hzero
      by_contra halive
      rw [Bool.not_eq_true] at halive
      simp [hzero, halive] at hdone
  · rintro ⟨signer, hfree, hadmits, hprovided⟩
    have hgap : ¬ (fees.computeFee (UInt32.ofNat len) info tip = 0 ∧
        view.slot.account.alive = false) := by
      rintro ⟨hzero, hgone⟩
      simp [hprovided hzero] at hgone
    rw [if_neg (by simp [hfree]), (admission_eq_ok_iff _ _ _ _).mpr hadmits]
    simp only [reserve_of_escrowed hescrowed hadmits.budget, if_neg hgap]

omit [DecidableEq Account] in
/-- A slot that admits a signer admits it with the same entry and a larger budget. -/
theorem admits_of_budget_le {slot slot' : Slot Account maxAllowedCallers}
    (hadmits : Admits slot origin feeWithTip signer) (hentry : slot'.entry = slot.entry)
    (hbudget : slot.budget ≤ slot'.budget) : Admits slot' origin feeWithTip signer where
  signed := hadmits.signed
  policy := by
    rw [hentry]
    exact hadmits.policy
  budget := hadmits.budget.trans hbudget

/-- A sparing move of the sponsor keeps its view ready. -/
theorem ready_viewStep (hescrowed : Escrowed deposit view.slot.pending view.slot)
    (hready : Ready view sponsor ticket origin feeWithTip signer)
    {move : Move Account RuntimeCall maxAllowedCallers} (hconcerns : move.sponsor = some sponsor)
    (hspares : move.spares sponsor = true) :
    Ready (viewStep deposit sponsor view move).2 sponsor ticket origin feeWithTip signer := by
  obtain ⟨hfree, hadmits, hprovided⟩ := hready
  obtain ⟨state, hentry, hactive, -, -⟩ := hadmits.policy
  cases move with
  | call origin' call =>
    have hsigner : asSystemOriginSigner origin' = some sponsor := hconcerns
    simp only [viewStep]
    cases hrefusal : view.slot.refusal deposit call with
    | some e => exact ⟨hfree, hadmits, hprovided⟩
    | none =>
      have haccepts := (Slot.refusal_eq_none_iff _ _ _).mp hrefusal
      cases call with
      | registerSponsor initialBudget policy =>
        -- The sponsor is registered, so the registration is refused.
        have hnone : view.slot.entry = none := haccepts.2.1
        simp [hentry] at hnone
      | increaseBudget amount =>
        refine ⟨hfree, admits_of_budget_le hadmits rfl ?_, hprovided⟩
        simp [Slot.after, Slot.budget]
      | resume =>
        obtain ⟨paused, hpaused, hinactive⟩ := haccepts
        rw [hentry, Option.some.injEq] at hpaused
        simp [← hpaused, hactive] at hinactive
      | decreaseBudget amount => simp [Move.spares, hsigner] at hspares
      | setPolicy policy => simp [Move.spares, hsigner] at hspares
      | pause => simp [Move.spares, hsigner] at hspares
      | unregister => simp [Move.spares, hsigner] at hspares
  | prepare ticket' named fees tip origin' call info len =>
    obtain rfl : named = sponsor := Option.some.inj hconcerns
    simp [Move.spares] at hspares
  | settle ticket' named fees post result =>
    simp only [viewStep]
    split
    · exact ⟨hfree, hadmits, hprovided⟩
    · simp only [View.settled, settledAccount_of_escrowed hescrowed]
      refine ⟨?_, admits_of_budget_le hadmits rfl ?_, hprovided⟩
      · simp only [List.any_eq_false] at hfree ⊢
        exact fun flight hflight ↦ hfree flight (List.mem_filter.mp hflight).1
      · simp [Slot.budget]

end View

/-- An admission lasts. Assumes: an exact ledger, burned fees, and a run from a state without
sponsorship holds. If a sponsored transaction could be validated and prepared at some point of the
run, then it still can after any further moves among which there is no other preparation that names
the sponsor and no `decrease_budget`, `set_policy`, `pause` or `unregister` of the sponsor itself,
with the fee functions it was validated with: no settlement, no call of anybody else and no other
sponsor's transaction can invalidate it. -/
theorem admission_lasts (hsound : config.Sound deposit)
    {start : PalletState Account Ledger maxAllowedCallers}
    (hstart : ∀ who reason, (config.balances.account start.ledger who).onHold reason = 0)
    (earlier between : List (Move Account RuntimeCall maxAllowedCallers)) (ticket : ℕ)
    (sponsor : Account) (fees : TransactionPayment) (tip : ℕ) (origin : RawOrigin Account)
    (call : RuntimeCall) (info : DispatchInfo) (len : ℕ) :
    let now := runState (step config) ⟨start, []⟩ earlier
    let later := runState (step config) now between
    (step config now (.prepare ticket sponsor fees tip origin call info len)).1 = .done →
      (∀ move ∈ between, move.spares sponsor = true) →
      (step config later (.prepare ticket sponsor fees tip origin call info len)).1 = .done := by
  intro now later hdone hspares
  have hfunded := funded_runState hsound (funded_start hstart) earlier
  have hmeaning : ∀ traffic : Traffic Account Ledger maxAllowedCallers,
      (step config traffic (.prepare ticket sponsor fees tip origin call info len)).1 =
        (viewStep deposit sponsor (view config.balances sponsor traffic)
          (.prepare ticket sponsor fees tip origin call info len)).1 := fun traffic ↦
    congrArg Prod.fst (view_step_of_concerns hsound traffic _ (rfl : Move.sponsor _ = some sponsor))
  rw [hmeaning, viewStep_prepare_done_iff (hfunded sponsor)] at hdone
  obtain ⟨signer, hready⟩ := hdone
  rw [hmeaning, viewStep_prepare_done_iff (funded_runState hsound hfunded between sponsor)]
  refine ⟨signer, view_runState_invariant (P := fun view ↦ Ready view sponsor ticket origin
    (fees.computeFee (UInt32.ofNat len) info tip) signer) hsound ?_ hfunded hready⟩
  intro view move hmove hconcerns hescrowed hready
  exact ready_viewStep hescrowed hready hconcerns (hspares move hmove)

/-- In the test runtime, while a transaction of account 2 waits to be prepared on sponsor 1,
sponsor 3 registers and has a transaction prepared and settled, and sponsor 1 raises its budget. -/
def sparingMoves : List (Move ℕ Unit 8) :=
  [.call (.signed 3) (.registerSponsor 200 mockSponsorPolicy),
    .prepare 0 3 mockFees 0 (.signed 2) () mockInfo 0,
    .call (.signed 1) (.increaseBudget 10),
    .call (.signed 3) .pause,
    .settle 0 3 mockFees mockPost (.ok ())]

theorem admission_lasts_sparingMoves :
    let now := runState (step mockConfig) ⟨mockState, []⟩ (mockMoves.take 1)
    let later := runState (step mockConfig) now sparingMoves
    later.state.events.length = 5 ∧
      (step mockConfig later (.prepare 7 1 mockFees 3 (.signed 2) () mockInfo 0)).1 = .done :=
  ⟨by decide, admission_lasts mockConfig_sound (fun _ _ ↦ rfl) (mockMoves.take 1) sparingMoves 7 1
    mockFees 3 (.signed 2) () mockInfo 0 (by decide) (by decide)⟩

/-! ### Revocation -/

/-- The entry admits nobody: it is absent or paused. -/
def Revoked (slot : Slot Account maxAllowedCallers) : Prop :=
  ∀ state, slot.entry = some state → state.active = false

/-- The move is a call of the sponsor that could make it active again. -/
def Move.reactivates (sponsor : Account) : Move Account RuntimeCall maxAllowedCallers → Bool
  | .call origin (.registerSponsor _ _) => asSystemOriginSigner origin = some sponsor
  | .call origin .resume => asSystemOriginSigner origin = some sponsor
  | _ => false

/-- What a later view has in common with the view at the revocation: it is still revoked, no flight
was added, and what was charged since then came out of what was pending. -/
structure Closing (before view : View Account maxAllowedCallers)
    (emitted : List (Event Account)) : Prop where
  revoked : Revoked view.slot
  flights : view.flights.Sublist before.flights
  events : view.events = before.events ++ emitted
  charged : (emitted.map feeOf).sum + view.slot.pending ≤ before.slot.pending

section View

variable {before view : View Account maxAllowedCallers} {sponsor : Account}

/-- An accepted call that does not reactivate keeps the entry revoked. -/
theorem revoked_after {slot : Slot Account maxAllowedCallers} (hrevoked : Revoked slot)
    {origin : RawOrigin Account} (hsigner : asSystemOriginSigner origin = some sponsor)
    {call : Call Account maxAllowedCallers}
    (hcall : (Move.call origin call : Move Account RuntimeCall maxAllowedCallers).reactivates
      sponsor = false) : Revoked (slot.after call) := by
  intro state hstate
  cases call with
  | registerSponsor initialBudget policy => simp [Move.reactivates, hsigner] at hcall
  | increaseBudget amount => exact hrevoked state hstate
  | decreaseBudget amount => exact hrevoked state hstate
  | setPolicy policy =>
    obtain ⟨old, hold, rfl⟩ := Option.map_eq_some_iff.mp hstate
    exact hrevoked old hold
  | pause =>
    obtain ⟨old, -, rfl⟩ := Option.map_eq_some_iff.mp hstate
    rfl
  | resume => simp [Move.reactivates, hsigner] at hcall
  | unregister => simp [Slot.after] at hstate

omit [DecidableEq Account] in
/-- A settlement takes its charge out of what is pending and ends its flight. -/
theorem Closing.settle {emitted : List (Event Account)} (hclosing : Closing before view emitted)
    (named signer : Account) {charged : ℕ} (tip : ℕ) (hcharged : charged ≤ view.slot.pending)
    {flights : List (Prepared Account)} (hflights : flights.Sublist view.flights) :
    Closing before
      ⟨{ view.slot with account := withSettled view.slot.account charged },
        view.events ++ [.sponsoredTransactionFeePaid named signer charged tip], flights⟩
      (emitted ++ [.sponsoredTransactionFeePaid named signer charged tip]) where
  revoked := hclosing.revoked
  flights := hflights.trans hclosing.flights
  events := by rw [hclosing.events, List.append_assoc]
  charged := by
    have hbound := hclosing.charged
    simp only [List.map_append, List.sum_append, List.map_singleton, List.sum_singleton, feeOf,
      Slot.pending, pending_withSettled] at hbound hcharged ⊢
    omega

/-- Every move of a revoked sponsor that does not reactivate it keeps the view closing. -/
theorem closing_viewStep (hescrowed : Escrowed deposit view.slot.pending view.slot)
    (hclosing : ∃ emitted, Closing before view emitted)
    {move : Move Account RuntimeCall maxAllowedCallers} (hconcerns : move.sponsor = some sponsor)
    (hmove : move.reactivates sponsor = false) :
    ∃ emitted, Closing before (viewStep deposit sponsor view move).2 emitted := by
  obtain ⟨emitted, hclosing⟩ := hclosing
  cases move with
  | call origin call =>
    simp only [viewStep]
    cases hrefusal : view.slot.refusal deposit call with
    | some e => exact ⟨emitted, hclosing⟩
    | none =>
      have hafter := hescrowed.after_call ((Slot.refusal_eq_none_iff _ _ _).mp hrefusal)
      refine ⟨emitted ++ [view.slot.announcement sponsor call],
        revoked_after hclosing.revoked hconcerns hmove, hclosing.flights, ?_, ?_⟩
      · rw [hclosing.events, List.append_assoc]
      · simpa [feeOf_announcement, hafter.pending_eq] using hclosing.charged
  | prepare ticket named fees tip origin call info len =>
    simp only [viewStep]
    split_ifs
    · exact ⟨emitted, hclosing⟩
    · cases hadmission : admission view.slot origin
          (fees.computeFee (UInt32.ofNat len) info tip) with
      | error e => exact ⟨emitted, hclosing⟩
      | ok signer =>
        -- An admission needs an active entry.
        obtain ⟨state, hentry, hactive, -, -⟩ :=
          ((admission_eq_ok_iff _ _ _ _).mp hadmission).policy
        simp [hclosing.revoked state hentry] at hactive
  | settle ticket named fees post result =>
    simp only [viewStep]
    split
    · exact ⟨emitted, hclosing⟩
    · simp only [View.settled, settledAccount_of_escrowed hescrowed]
      exact ⟨_, hclosing.settle _ _ _ (min_le_right _ _) List.filter_sublist⟩

end View

/-- A revocation bounds every later charge. Assumes: an exact ledger, burned fees, and a run from a
state without sponsorship holds. From any point of the run at which a sponsor is paused or has
unregistered, and along any further moves among which it neither resumes nor registers again, no
transaction that names it is added to the flights, and everything it is charged from then on adds up
to at most its pending hold at that point. -/
theorem revocation_bounds_charges (hsound : config.Sound deposit)
    {start : PalletState Account Ledger maxAllowedCallers}
    (hstart : ∀ who reason, (config.balances.account start.ledger who).onHold reason = 0)
    (earlier later : List (Move Account RuntimeCall maxAllowedCallers)) (sponsor : Account) :
    let before := runState (step config) ⟨start, []⟩ earlier
    let after := runState (step config) before later
    (∀ state, before.state.sponsors sponsor = some state → state.active = false) →
      (∀ move ∈ later, move.reactivates sponsor = false) →
      (flightsOn sponsor after.inFlight).Sublist (flightsOn sponsor before.inFlight) ∧
        ∃ emitted, after.state.events = before.state.events ++ emitted ∧
          chargedTo sponsor emitted ≤ pendingOnHold config.balances before.state sponsor := by
  intro before after hrevoked hlater
  have hfunded := funded_runState hsound (funded_start hstart) earlier
  have hview : ∃ own, Closing (view config.balances sponsor before)
      (view config.balances sponsor after) own := by
    refine view_runState_invariant (P := fun now ↦
      ∃ own, Closing (view config.balances sponsor before) now own) hsound ?_ hfunded ?_
    · intro now move hmove hconcerns hescrowed hclosing
      exact closing_viewStep hescrowed hclosing hconcerns (hlater move hmove)
    · exact ⟨[], hrevoked, List.Sublist.refl _, (List.append_nil _).symm, (Nat.zero_add _).le⟩
  obtain ⟨own, hclosing⟩ := hview
  obtain ⟨emitted, hemits⟩ := emits_runState hsound before later
  refine ⟨hclosing.flights, emitted, hemits.events, ?_⟩
  have hown : eventsAbout sponsor emitted = own :=
    eventsAbout_eq_of_append hemits.events hclosing.events
  rw [chargedTo, sumAbout, hown]
  exact (Nat.le_add_right _ _).trans hclosing.charged

/-- In the test runtime sponsor 1 pauses while a transaction of account 2 with an estimate of 5 is
in flight. The transaction is settled, another one is refused, and the charge is at most 5. -/
theorem revocation_bounds_charges_pause :
    let before := runState (step mockConfig) ⟨mockState, []⟩
      [.call (.signed 1) (.registerSponsor 100 mockSponsorPolicy),
        .prepare 0 1 mockFees 3 (.signed 2) () mockInfo 0, .call (.signed 1) .pause]
    let later : List (Move ℕ Unit 8) := [.prepare 1 1 mockFees 3 (.signed 2) () mockInfo 0,
      .settle 0 1 mockFees mockPost (.ok ())]
    ∃ emitted, (runState (step mockConfig) before later).state.events =
        before.state.events ++ emitted ∧ chargedTo 1 emitted ≤ 5 := by
  intro before later
  exact (revocation_bounds_charges mockConfig_sound (fun _ _ ↦ rfl)
    [.call (.signed 1) (.registerSponsor 100 mockSponsorPolicy),
      .prepare 0 1 mockFees 3 (.signed 2) () mockInfo 0, .call (.signed 1) .pause] later 1
    (by decide) (by decide)).2

end SponsoredTx.Overlap
