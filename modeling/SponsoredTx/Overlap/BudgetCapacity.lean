import SponsoredTx.Overlap.AdmissionLifetime

/-!
# A budget that serves everybody

The budget check of `validate` is per transaction, and the reservations of all flights come out of
the same hold. This module says when nobody is turned away. `offered` is the sum of the worst-case
fees of the transactions that name a sponsor in a sequence of moves. As long as the sponsor does not
lower its budget or change its terms, a preparation takes its own fee out of the budget, everything
else can only raise it, and so the budget stays above what is still offered (`able_viewStep`).

`budget_serves_all` is the result: if the budget covers everything offered, then every transaction
that meets the policy is prepared, in every interleaving with settlements and with other sponsors.
-/

set_option autoImplicit false
set_option relaxedAutoImplicit false

namespace SponsoredTx.Overlap

open Foundation.HoldLedger Foundation.Runs Pallet Extension Chain

variable {Account Ledger RuntimeCall BaseVal BasePre : Type} {maxAllowedCallers : ℕ}
  [DecidableEq Account] {config : Config Account Ledger RuntimeCall BaseVal BasePre} {deposit : ℕ}

/-! ### What a sequence of moves asks of a sponsor -/

/-- The worst-case fee of a move that is a preparation on the sponsor. -/
def Move.offer (sponsor : Account) : Move Account RuntimeCall maxAllowedCallers → ℕ
  | .prepare _ named fees tip _ _ info len =>
    if named = sponsor then fees.computeFee (UInt32.ofNat len) info tip else 0
  | .call _ _ => 0
  | .settle _ _ _ _ _ => 0

/-- The sum of the worst-case fees of the preparations on the sponsor. -/
def offered (sponsor : Account) (moves : List (Move Account RuntimeCall maxAllowedCallers)) : ℕ :=
  (moves.map (Move.offer sponsor)).sum

/-- The ticket of a move that is a preparation on the sponsor. -/
def Move.ticketOn (sponsor : Account) : Move Account RuntimeCall maxAllowedCallers → Option ℕ
  | .prepare ticket named _ _ _ _ _ _ => if named = sponsor then some ticket else none
  | .call _ _ => none
  | .settle _ _ _ _ _ => none

/-- The tickets of the preparations on the sponsor. -/
def ticketsOn (sponsor : Account) (moves : List (Move Account RuntimeCall maxAllowedCallers)) :
    List ℕ :=
  moves.filterMap (Move.ticketOn sponsor)

/-- The move is no call of the sponsor that lowers its budget or changes its terms. -/
def Move.keepsTerms (sponsor : Account) : Move Account RuntimeCall maxAllowedCallers → Bool
  | .prepare _ _ _ _ _ _ _ _ => true
  | .call origin lifecycle => Move.spares sponsor (.call origin lifecycle :
      Move Account RuntimeCall maxAllowedCallers)
  | .settle _ _ _ _ _ => true

/-- A preparation on the sponsor meets a policy: it is signed by an allowed caller, and its
worst-case fee is not zero and within the limit. -/
def Move.Meets (policy : SponsorPolicy Account maxAllowedCallers) (sponsor : Account) :
    Move Account RuntimeCall maxAllowedCallers → Prop
  | .prepare _ named fees tip origin _ info len => named = sponsor →
    ∃ signer, origin = .signed signer ∧ signer ∈ policy.allowedCallers.toList ∧
      0 < fees.computeFee (UInt32.ofNat len) info tip ∧
      fees.computeFee (UInt32.ofNat len) info tip ≤ policy.maxFeePerTx
  | .call _ _ => True
  | .settle _ _ _ _ _ => True

/-- The view can serve some moves: it is active with the policy, its budget covers what they offer,
and none of their tickets is in flight. -/
structure Able (policy : SponsorPolicy Account maxAllowedCallers) (sponsor : Account)
    (moves : List (Move Account RuntimeCall maxAllowedCallers))
    (view : View Account maxAllowedCallers) : Prop where
  entry : view.slot.entry = some ⟨true, policy⟩
  budget : offered sponsor moves ≤ view.slot.budget
  fresh : ∀ flight ∈ view.flights, flight.ticket ∉ ticketsOn sponsor moves

section View

variable {policy : SponsorPolicy Account maxAllowedCallers} {sponsor : Account}
  {move : Move Account RuntimeCall maxAllowedCallers}
  {rest : List (Move Account RuntimeCall maxAllowedCallers)}
  {view : View Account maxAllowedCallers}

/-- A view that can serve a move and more can serve the rest. -/
theorem Able.tail (hable : Able policy sponsor (move :: rest) view) :
    Able policy sponsor rest view where
  entry := hable.entry
  budget := by
    have hbudget := hable.budget
    simp only [offered, List.map_cons, List.sum_cons] at hbudget ⊢
    omega
  fresh := by
    intro flight hflight hticket
    refine hable.fresh flight hflight ?_
    rw [ticketsOn, List.filterMap_cons]
    split
    · exact hticket
    · exact List.mem_cons_of_mem _ hticket

/-- A view that can serve a preparation which meets the policy is ready for it. -/
theorem Able.ready {ticket : ℕ} {fees : TransactionPayment} {tip : ℕ} {origin : RawOrigin Account}
    {call : RuntimeCall} {info : DispatchInfo} {len : ℕ}
    (hable : Able policy sponsor (.prepare ticket sponsor fees tip origin call info len :: rest)
      view)
    (hmeets : Move.Meets policy sponsor
      (.prepare ticket sponsor fees tip origin call info len :
        Move Account RuntimeCall maxAllowedCallers)) :
    ∃ signer, Ready view sponsor ticket origin (fees.computeFee (UInt32.ofNat len) info tip)
      signer := by
  obtain ⟨signer, hsigned, hallowed, hpos, hcap⟩ := hmeets rfl
  have hbudget := hable.budget
  rw [offered, List.map_cons, List.sum_cons, Move.offer, if_pos rfl] at hbudget
  refine ⟨signer, ?_, ⟨hsigned, ⟨_, hable.entry, rfl, hallowed, hcap⟩, by omega⟩, by omega⟩
  rw [List.any_eq_false]
  intro flight hflight hticket
  have hfresh := hable.fresh flight hflight
  simp only [ticketsOn, List.filterMap_cons, Move.ticketOn, if_true, List.mem_cons, not_or]
    at hfresh
  simp only [Prepared.isTicket, decide_eq_true_eq] at hticket
  exact hfresh.1 hticket.2

/-- Every move of the sponsor that keeps its terms and meets its policy leaves a view that can serve
the rest, if its ticket is not used again. -/
theorem able_viewStep (hescrowed : Escrowed deposit view.slot.pending view.slot)
    (hable : Able policy sponsor (move :: rest) view) (hconcerns : move.sponsor = some sponsor)
    (hkeeps : move.keepsTerms sponsor = true) (hmeets : move.Meets policy sponsor)
    (htickets : (ticketsOn sponsor (move :: rest)).Nodup) :
    Able policy sponsor rest (viewStep deposit sponsor view move).2 := by
  cases move with
  | call origin call =>
    have hsigner : asSystemOriginSigner origin = some sponsor := hconcerns
    have htail := hable.tail
    simp only [viewStep]
    cases hrefusal : view.slot.refusal deposit call with
    | some e => exact htail
    | none =>
      have haccepts := (Slot.refusal_eq_none_iff _ _ _).mp hrefusal
      cases call with
      | registerSponsor initialBudget policy' =>
        -- The sponsor is registered, so the registration is refused.
        have hnone : view.slot.entry = none := haccepts.2.1
        simp [hable.entry] at hnone
      | increaseBudget amount =>
        refine ⟨htail.entry, htail.budget.trans ?_, htail.fresh⟩
        simp [Slot.after, Slot.budget]
      | resume =>
        obtain ⟨paused, hpaused, hinactive⟩ := haccepts
        rw [hable.entry, Option.some.injEq] at hpaused
        simp [← hpaused] at hinactive
      | decreaseBudget amount => simp [Move.keepsTerms, Move.spares, hsigner] at hkeeps
      | setPolicy policy' => simp [Move.keepsTerms, Move.spares, hsigner] at hkeeps
      | pause => simp [Move.keepsTerms, Move.spares, hsigner] at hkeeps
      | unregister => simp [Move.keepsTerms, Move.spares, hsigner] at hkeeps
  | prepare ticket named fees tip origin call info len =>
    obtain rfl : named = sponsor := Option.some.inj hconcerns
    obtain ⟨signer, hfree, hadmits, hprovided⟩ := hable.ready hmeets
    have hgap : ¬ (fees.computeFee (UInt32.ofNat len) info tip = 0 ∧
        view.slot.account.alive = false) := by
      rintro ⟨hzero, hgone⟩
      simp [hprovided hzero] at hgone
    simp only [viewStep, hfree, Bool.false_eq_true, if_false,
      (admission_eq_ok_iff _ _ _ _).mpr hadmits, reserve_of_escrowed hescrowed hadmits.budget,
      if_neg hgap]
    have hbudget := hable.budget
    rw [offered, List.map_cons, List.sum_cons, Move.offer, if_pos rfl] at hbudget
    refine ⟨hable.entry, ?_, ?_⟩
    · simp only [offered, Slot.budget, budget_withReserved] at hbudget ⊢
      omega
    · rw [List.forall_mem_append, List.forall_mem_singleton]
      refine ⟨hable.tail.fresh, ?_⟩
      simp only [ticketsOn, List.filterMap_cons, Move.ticketOn, if_true, List.nodup_cons]
        at htickets
      exact htickets.1
  | settle ticket named fees post result =>
    have htail := hable.tail
    simp only [viewStep]
    split
    · exact htail
    · simp only [View.settled, settledAccount_of_escrowed hescrowed]
      refine ⟨htail.entry, htail.budget.trans ?_, ?_⟩
      · simp [Slot.budget]
      · intro flight hflight
        exact htail.fresh flight (List.mem_filter.mp hflight).1

end View

/-! ### Whole runs -/

/-- From a funded state whose view can serve some moves, every preparation among them on the sponsor
is done, by induction on the moves before it. Assumes: an exact ledger and burned fees. -/
theorem prepared_of_able (hsound : config.Sound deposit)
    {policy : SponsorPolicy Account maxAllowedCallers} {sponsor : Account}
    {first rest : List (Move Account RuntimeCall maxAllowedCallers)} {ticket : ℕ}
    {fees : TransactionPayment} {tip : ℕ} {origin : RawOrigin Account} {call : RuntimeCall}
    {info : DispatchInfo} {len : ℕ} {traffic : Traffic Account Ledger maxAllowedCallers}
    (hfunded : Funded config.balances deposit traffic)
    (hable : Able policy sponsor
      (first ++ .prepare ticket sponsor fees tip origin call info len :: rest)
      (view config.balances sponsor traffic))
    (hmoves : ∀ move ∈ first ++ .prepare ticket sponsor fees tip origin call info len :: rest,
      move.keepsTerms sponsor = true ∧ move.Meets policy sponsor)
    (htickets : (ticketsOn sponsor
      (first ++ .prepare ticket sponsor fees tip origin call info len :: rest)).Nodup) :
    (step config (runState (step config) traffic first)
      (.prepare ticket sponsor fees tip origin call info len)).1 = .done := by
  induction first generalizing traffic with
  | nil =>
    have hmeaning := view_step_of_concerns hsound traffic
      (.prepare ticket sponsor fees tip origin call info len) (rfl : Move.sponsor _ = some sponsor)
    refine (congrArg Prod.fst hmeaning).trans ?_
    rw [viewStep_prepare_done_iff (hfunded sponsor)]
    exact hable.ready (hmoves _ List.mem_cons_self).2
  | cons move first ih =>
    rw [List.cons_append] at hable hmoves htickets
    rw [List.forall_mem_cons] at hmoves
    refine ih (funded_step hsound hfunded move) ?_ hmoves.2 ?_
    · by_cases hconcerns : move.sponsor = some sponsor
      · have hstep := congrArg Prod.snd (view_step_of_concerns hsound traffic move hconcerns)
        change view config.balances sponsor (step config traffic move).2 = _ at hstep
        rw [hstep]
        exact able_viewStep (hfunded sponsor) hable hconcerns hmoves.1.1 hmoves.1.2 htickets
      · rw [view_step_of_not_concerns hsound traffic move hconcerns]
        exact hable.tail
    · exact htickets.sublist ((List.sublist_cons_self move _).filterMap _)

/-- A budget that covers what is offered serves everybody. Assumes: an exact ledger, burned fees,
and a run from a state without sponsorship holds. Take any point of the run at which a sponsor is
active with some policy, and any further moves among which it makes no `decrease_budget`,
`set_policy`, `pause` or `unregister`. If the worst-case fees of the transactions in them that name
it add up to at most its budget hold, and each of these is signed by an allowed caller with a fee
that is not zero and within the limit, then every one of them is validated and prepared when its
turn comes, however they are interleaved with settlements and with the moves of others. -/
theorem budget_serves_all (hsound : config.Sound deposit)
    {start : PalletState Account Ledger maxAllowedCallers}
    (hstart : ∀ who reason, (config.balances.account start.ledger who).onHold reason = 0)
    (earlier moves : List (Move Account RuntimeCall maxAllowedCallers)) (sponsor : Account)
    (policy : SponsorPolicy Account maxAllowedCallers) :
    let now := runState (step config) ⟨start, []⟩ earlier
    now.state.sponsors sponsor = some ⟨true, policy⟩ →
      offered sponsor moves ≤ budgetOnHold config.balances now.state sponsor →
      (∀ move ∈ moves, move.keepsTerms sponsor = true ∧ move.Meets policy sponsor) →
      (ticketsOn sponsor moves).Nodup →
      (∀ flight ∈ now.inFlight, flight.sponsor = sponsor →
        flight.ticket ∉ ticketsOn sponsor moves) →
      ∀ first ticket fees tip origin call info len rest,
        moves = first ++ .prepare ticket sponsor fees tip origin call info len :: rest →
        (step config (runState (step config) now first)
          (.prepare ticket sponsor fees tip origin call info len)).1 = .done := by
  intro now hentry hbudget hmoves htickets hfresh first ticket fees tip origin call info len rest
    hsplit
  subst hsplit
  have hfunded := funded_runState hsound (funded_start hstart) earlier
  refine prepared_of_able hsound hfunded ⟨hentry, hbudget, ?_⟩ hmoves htickets
  intro flight hflight
  obtain ⟨hmem, hsponsor⟩ := List.mem_filter.mp hflight
  exact hfresh flight hmem (by simpa using hsponsor)

/-- Three transactions of account 2 with worst-case fees of 5 on sponsor 1, of which the first is
settled before the last is prepared. -/
def servedMoves : List (Move ℕ Unit 8) :=
  [.prepare 0 1 mockFees 3 (.signed 2) () mockInfo 0,
    .prepare 1 1 mockFees 3 (.signed 2) () mockInfo 0,
    .settle 0 1 mockFees mockPost (.ok ()),
    .prepare 2 1 mockFees 3 (.signed 2) () mockInfo 0]

/-- In the test runtime a budget of exactly 15 serves all three. -/
theorem budget_serves_all_servedMoves :
    let now := runState (step mockConfig) ⟨mockState, []⟩
      [.call (.signed 1) (.registerSponsor 15 mockSponsorPolicy)]
    offered 1 servedMoves = 15 ∧ budgetOnHold mockBalances now.state 1 = 15 ∧
      (step mockConfig (runState (step mockConfig) now (servedMoves.take 3))
        (.prepare 2 1 mockFees 3 (.signed 2) () mockInfo 0)).1 = .done := by
  intro now
  have hmeets : ∀ move ∈ servedMoves,
      move.keepsTerms 1 = true ∧ move.Meets mockSponsorPolicy 1 := by
    simp only [servedMoves, List.forall_mem_cons, List.not_mem_nil, false_implies, implies_true,
      and_true]
    refine ⟨⟨rfl, fun _ ↦ ?_⟩, ⟨rfl, fun _ ↦ ?_⟩, ⟨rfl, trivial⟩, rfl, fun _ ↦ ?_⟩ <;>
      exact ⟨2, rfl, by decide, by decide, by decide⟩
  exact ⟨by decide, by decide, budget_serves_all mockConfig_sound (fun _ _ ↦ rfl)
    [.call (.signed 1) (.registerSponsor 15 mockSponsorPolicy)] servedMoves 1 mockSponsorPolicy rfl
    (by decide) hmeets (by decide) (by decide) (servedMoves.take 3) 2 mockFees 3 (.signed 2) ()
    mockInfo 0 [] rfl⟩

end SponsoredTx.Overlap
