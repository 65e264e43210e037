import Mathlib.Algebra.Order.BigOperators.Group.List
import SponsoredTx.Overlap.FlightRuns

/-!
# Reservations under overlap

All transactions in flight on a sponsor share its one pending hold, and the settlement of any of
them returns everything that is left there to the budget. The design is for one transaction at a
time: the pending hold is what is reserved for the current transaction. `ReservationsHold` asks for
more: after every move the pending hold of each sponsor is the sum of the estimates in flight on
it, and every settlement finds its own estimate, so that it charges the sponsor in full
(`ChargedInFull`). `not_reservationsHold_two_flights` is the smallest run that fails: of two
transactions on one sponsor, the second to be settled finds nothing and pays nothing.

`reservationsHold_iff_settleAlone` says exactly which runs have the property: those in which no
transaction is settled while another one with a nonzero estimate is in flight on the same sponsor.
Flights on different sponsors may overlap as they like.
-/

set_option autoImplicit false
set_option relaxedAutoImplicit false

namespace SponsoredTx.Overlap

open Foundation.HoldLedger Foundation.Runs Pallet Extension

variable {Account Ledger RuntimeCall BaseVal BasePre : Type} {maxAllowedCallers : ℕ}
  [DecidableEq Account] {config : Config Account Ledger RuntimeCall BaseVal BasePre} {deposit : ℕ}

/-! ### The property and the condition -/

/-- The sum of the estimates of some transactions. -/
def estimates (flights : List (Prepared Account)) : ℕ :=
  (flights.map Prepared.estimatedFeeWithTip).sum

/-- The pending hold of every account is the sum of the estimates in flight on it. -/
def Reserved (balances : Balances Account HoldReason Ledger)
    (traffic : Traffic Account Ledger maxAllowedCallers) : Prop :=
  ∀ sponsor, pendingOnHold balances traffic.state sponsor =
    estimates (flightsOn sponsor traffic.inFlight)

/-- Between two pallet states a flight was settled and charged in full: the smaller of the actual
fee and the estimate left the total balance of the sponsor, it is the fee of the event and the sum
of the two credits, and no shortfall was logged, only a clamp to the estimate if there was one. -/
structure ChargedInFull (balances : Balances Account HoldReason Ledger) (flight : Prepared Account)
    (actual : ℕ) (before after : PalletState Account Ledger maxAllowedCallers) : Prop where
  total : (balances.account after.ledger flight.sponsor).total +
      min actual flight.estimatedFeeWithTip =
    (balances.account before.ledger flight.sponsor).total
  events : after.events = before.events ++
    [.sponsoredTransactionFeePaid flight.sponsor flight.signer
      (min actual flight.estimatedFeeWithTip)
      (min flight.tip (min actual flight.estimatedFeeWithTip))]
  routed : ∃ feeCredit tipCredit, after.routed = before.routed ++ [(feeCredit, tipCredit)] ∧
    feeCredit + tipCredit = min actual flight.estimatedFeeWithTip
  log : after.log = before.log ++ clampLines flight.estimatedFeeWithTip actual

/-- A settlement finds its own reservation: it charges the sponsor in full. -/
def FindsReservation (config : Config Account Ledger RuntimeCall BaseVal BasePre)
    (traffic : Traffic Account Ledger maxAllowedCallers) :
    Move Account RuntimeCall maxAllowedCallers → Prop
  | .call _ _ => True
  | .prepare _ _ _ _ _ _ _ _ => True
  | .settle ticket sponsor fees post result =>
    ∀ flight, (traffic.inFlight.find? fun flight ↦ flight.isTicket sponsor ticket) = some flight →
      ChargedInFull config.balances flight
        (fees.computeActualFee (UInt32.ofNat flight.len) flight.info post flight.tip) traffic.state
        (step config traffic (.settle ticket sponsor fees post result)).2.state

/-- Along the run, every settlement finds its reservation, and after every move the pending holds
are the estimates in flight. -/
def ReservationsHold (config : Config Account Ledger RuntimeCall BaseVal BasePre) :
    Traffic Account Ledger maxAllowedCallers → List (Move Account RuntimeCall maxAllowedCallers) →
      Prop
  | _, [] => True
  | traffic, move :: rest =>
    FindsReservation config traffic move ∧ Reserved config.balances (step config traffic move).2 ∧
      ReservationsHold config (step config traffic move).2 rest

/-- If the move settles a transaction, no other one with a nonzero estimate is in flight on the same
sponsor. -/
def SettlesAlone (traffic : Traffic Account Ledger maxAllowedCallers) :
    Move Account RuntimeCall maxAllowedCallers → Prop
  | .call _ _ => True
  | .prepare _ _ _ _ _ _ _ _ => True
  | .settle ticket sponsor _ _ _ =>
    (traffic.inFlight.find? fun flight ↦ flight.isTicket sponsor ticket).isSome →
      ∀ other ∈ traffic.inFlight, other.sponsor = sponsor → other.ticket ≠ ticket →
        other.estimatedFeeWithTip = 0

instance (traffic : Traffic Account Ledger maxAllowedCallers) :
    DecidablePred (SettlesAlone traffic : Move Account RuntimeCall maxAllowedCallers → Prop)
  | .call _ _ => .isTrue trivial
  | .prepare _ _ _ _ _ _ _ _ => .isTrue trivial
  | .settle ticket sponsor _ _ _ => inferInstanceAs (Decidable
      ((traffic.inFlight.find? fun flight ↦ flight.isTicket sponsor ticket).isSome →
        ∀ other ∈ traffic.inFlight, other.sponsor = sponsor → other.ticket ≠ ticket →
          other.estimatedFeeWithTip = 0))

/-- Along the run, every transaction is settled alone. -/
def SettleAlone (config : Config Account Ledger RuntimeCall BaseVal BasePre) :
    Traffic Account Ledger maxAllowedCallers → List (Move Account RuntimeCall maxAllowedCallers) →
      Prop
  | _, [] => True
  | traffic, move :: rest =>
    SettlesAlone traffic move ∧ SettleAlone config (step config traffic move).2 rest

instance SettleAlone.decide (config : Config Account Ledger RuntimeCall BaseVal BasePre)
    (traffic : Traffic Account Ledger maxAllowedCallers) :
    DecidablePred (SettleAlone config traffic)
  | [] => .isTrue trivial
  | move :: rest =>
    have := SettleAlone.decide config (step config traffic move).2 rest
    inferInstanceAs (Decidable
      (SettlesAlone traffic move ∧ SettleAlone config (step config traffic move).2 rest))

/-! ### One move on the view of its sponsor -/

section View

variable {view : View Account maxAllowedCallers} {sponsor : Account}

/-- Every move keeps a slot escrowed with its pending hold. A settlement keeps the escrow even when
the pending hold is shared, because it returns the whole rest. -/
theorem escrowed_viewStep (hescrowed : Escrowed deposit view.slot.pending view.slot)
    (move : Move Account RuntimeCall maxAllowedCallers) :
    Escrowed deposit (viewStep deposit sponsor view move).2.slot.pending
      (viewStep deposit sponsor view move).2.slot := by
  suffices hsome : ∃ reserved,
      Escrowed deposit reserved (viewStep deposit sponsor view move).2.slot by
    obtain ⟨reserved, hreserved⟩ := hsome
    rwa [hreserved.pending_eq]
  cases move with
  | call origin call =>
    simp only [viewStep]
    cases hrefusal : view.slot.refusal deposit call with
    | some e => exact ⟨_, hescrowed⟩
    | none => exact ⟨_, hescrowed.after_call ((Slot.refusal_eq_none_iff _ _ _).mp hrefusal)⟩
  | prepare ticket named fees tip origin call info len =>
    simp only [viewStep]
    split_ifs
    · exact ⟨_, hescrowed⟩
    · cases hadmission : admission view.slot origin
          (fees.computeFee (UInt32.ofNat len) info tip) with
      | error e => exact ⟨_, hescrowed⟩
      | ok signer =>
        have hbudget := ((admission_eq_ok_iff _ _ _ _).mp hadmission).budget
        simp only [reserve_of_escrowed hescrowed hbudget]
        split_ifs <;> exact ⟨_, hescrowed.withReserved hbudget⟩
  | settle ticket named fees post result =>
    simp only [viewStep]
    split
    · exact ⟨_, hescrowed⟩
    · simp only [View.settled, settledAccount_of_escrowed hescrowed]
      exact ⟨_, hescrowed.withSettled _⟩

/-- A call and a preparation keep the pending hold equal to the estimates in flight. -/
theorem pending_viewStep (hescrowed : Escrowed deposit view.slot.pending view.slot)
    (hreserved : view.slot.pending = estimates view.flights)
    {move : Move Account RuntimeCall maxAllowedCallers}
    (hmove : ∀ ticket named fees post result, move ≠ .settle ticket named fees post result) :
    (viewStep deposit sponsor view move).2.slot.pending =
      estimates (viewStep deposit sponsor view move).2.flights := by
  cases move with
  | call origin call =>
    simp only [viewStep]
    cases hrefusal : view.slot.refusal deposit call with
    | some e => exact hreserved
    | none =>
      have hafter := hescrowed.after_call ((Slot.refusal_eq_none_iff _ _ _).mp hrefusal)
      exact hafter.pending_eq.trans hreserved
  | prepare ticket named fees tip origin call info len =>
    simp only [viewStep]
    split_ifs
    · exact hreserved
    · cases hadmission : admission view.slot origin
          (fees.computeFee (UInt32.ofNat len) info tip) with
      | error e => exact hreserved
      | ok signer =>
        have hbudget := ((admission_eq_ok_iff _ _ _ _).mp hadmission).budget
        have hpending := (hescrowed.withReserved hbudget).pending_eq
        simp only [reserve_of_escrowed hescrowed hbudget]
        split_ifs with hgap
        · -- A refused preparation moved nothing, since its amount is zero.
          simp only [hgap.1, Nat.add_zero] at hpending ⊢
          exact hpending.trans hreserved
        · simp only [hpending, hreserved, estimates, List.map_append, List.sum_append,
            List.map_singleton, List.sum_singleton]
  | settle ticket named fees post result => exact absurd rfl (hmove ticket named fees post result)

end View

/-! ### One move -/

/-- Every slot is escrowed with its pending hold. -/
def Funded (balances : Balances Account HoldReason Ledger) (deposit : ℕ)
    (traffic : Traffic Account Ledger maxAllowedCallers) : Prop :=
  ∀ who, Escrowed deposit (slotOf balances traffic.state who).pending
    (slotOf balances traffic.state who)

/-- What a move does to one sponsor: it follows the meaning of its own moves on its view, and does
not change its view otherwise. Assumes: an exact ledger and burned fees. -/
theorem view_step_cases (hsound : config.Sound deposit)
    (traffic : Traffic Account Ledger maxAllowedCallers)
    (move : Move Account RuntimeCall maxAllowedCallers) (who : Account) :
    view config.balances who (step config traffic move).2 =
        (viewStep deposit who (view config.balances who traffic) move).2 ∨
      view config.balances who (step config traffic move).2 = view config.balances who traffic := by
  by_cases hmove : move.sponsor = some who
  · exact Or.inl (congrArg Prod.snd (view_step_of_concerns hsound traffic move hmove))
  · exact Or.inr (view_step_of_not_concerns hsound traffic move hmove)

/-- Every move keeps every slot escrowed. Assumes: an exact ledger and burned fees. -/
theorem funded_step (hsound : config.Sound deposit)
    {traffic : Traffic Account Ledger maxAllowedCallers}
    (hfunded : Funded config.balances deposit traffic)
    (move : Move Account RuntimeCall maxAllowedCallers) :
    Funded config.balances deposit (step config traffic move).2 := by
  intro who
  have hview : Escrowed deposit (view config.balances who (step config traffic move).2).slot.pending
      (view config.balances who (step config traffic move).2).slot := by
    rcases view_step_cases hsound traffic move who with hown | hother
    · rw [hown]
      exact escrowed_viewStep (hfunded who) move
    · rw [hother]
      exact hfunded who
  exact hview

omit [DecidableEq Account] in
/-- A start without sponsorship holds is funded. -/
theorem funded_start {balances : Balances Account HoldReason Ledger}
    {start : PalletState Account Ledger maxAllowedCallers}
    (hstart : ∀ who reason, (balances.account start.ledger who).onHold reason = 0) :
    Funded balances deposit ⟨start, []⟩ := by
  intro who
  have hescrowed : Escrowed deposit 0 (slotOf balances start who) :=
    Escrowed.of_no_holds (hstart who _) (hstart who _)
  rwa [← hescrowed.pending_eq] at hescrowed

/-- A settlement that finds at least its own estimate charges the sponsor in full. Assumes: an exact
ledger and burned fees. -/
theorem chargedInFull_of_le (hsound : config.Sound deposit)
    {traffic : Traffic Account Ledger maxAllowedCallers}
    (hfunded : Funded config.balances deposit traffic) (flight : Prepared Account)
    (hestimate : flight.estimatedFeeWithTip ≤
      pendingOnHold config.balances traffic.state flight.sponsor)
    (fees : TransactionPayment) (post : PostDispatchInfo) :
    ChargedInFull config.balances flight
      (fees.computeActualFee (UInt32.ofNat flight.len) flight.info post flight.tip) traffic.state
      (settleSponsoredFee config fees flight.sponsor flight.signer flight.estimatedFeeWithTip
        flight.tip flight.info post flight.len traffic.state).2 := by
  have hsettles := settleSponsoredFee_settles hsound fees flight.sponsor flight.signer
    flight.estimatedFeeWithTip flight.tip flight.info post flight.len traffic.state
  generalize fees.computeActualFee (UInt32.ofNat flight.len) flight.info post flight.tip = actual
    at hsettles ⊢
  have hcover : min actual flight.estimatedFeeWithTip ≤
      (slotOf config.balances traffic.state flight.sponsor).pending :=
    (min_le_right _ _).trans hestimate
  have hcharged : chargedOf actual flight.estimatedFeeWithTip
      (slotOf config.balances traffic.state flight.sponsor).pending =
        min actual flight.estimatedFeeWithTip := min_eq_left hcover
  simp only [hcharged, settledAccount_of_escrowed (hfunded flight.sponsor)] at hsettles
  refine ⟨?_, hsettles.events, ⟨_, _, hsettles.routed, by omega⟩, ?_⟩
  · have haccount := congrArg Slot.account hsettles.slot_self
    change config.balances.account _ flight.sponsor = _ at haccount
    rw [haccount]
    exact total_withSettled hcover
  · rw [hsettles.log, shortLines, Nat.sub_eq_zero_of_le hcover, if_neg (not_not.mpr rfl),
      List.append_nil, List.append_nil]

/-- A settlement finds its own estimate when the pending hold is the sum of the estimates in
flight. Assumes: an exact ledger and burned fees. -/
theorem findsReservation_of_reserved (hsound : config.Sound deposit)
    {traffic : Traffic Account Ledger maxAllowedCallers}
    (hfunded : Funded config.balances deposit traffic)
    (hreserved : Reserved config.balances traffic)
    (move : Move Account RuntimeCall maxAllowedCallers) :
    FindsReservation config traffic move := by
  cases move with
  | call origin call => trivial
  | prepare ticket sponsor fees tip origin call info len => trivial
  | settle ticket sponsor fees post result =>
    intro flight hfind
    have hmem : flight ∈ flightsOn flight.sponsor traffic.inFlight :=
      List.mem_filter.mpr ⟨List.mem_of_find?_eq_some hfind, by simp⟩
    have hestimate : flight.estimatedFeeWithTip ≤
        estimates (flightsOn flight.sponsor traffic.inFlight) :=
      List.single_le_sum (by simp) _ (List.mem_map_of_mem hmem)
    rw [step_settle_of_some hfind]
    exact chargedInFull_of_le hsound hfunded flight
      (hestimate.trans (hreserved flight.sponsor).ge) fees post

/-- The settlement of a flight empties the pending hold of its sponsor. Assumes: an exact ledger and
burned fees. -/
theorem pending_settle (hsound : config.Sound deposit)
    {traffic : Traffic Account Ledger maxAllowedCallers}
    (hfunded : Funded config.balances deposit traffic) {ticket : ℕ} {sponsor : Account}
    {flight : Prepared Account}
    (hfind : (traffic.inFlight.find? fun flight ↦ flight.isTicket sponsor ticket) = some flight)
    (fees : TransactionPayment) (post : PostDispatchInfo) (result : Except DispatchError Unit) :
    pendingOnHold config.balances
      (step config traffic (.settle ticket sponsor fees post result)).2.state sponsor = 0 := by
  have hview := view_step_of_concerns hsound traffic (.settle ticket sponsor fees post result)
    (rfl : Move.sponsor _ = some sponsor)
  simp only [viewStep, view, find?_flightsOn, hfind, View.settled] at hview
  rw [settledAccount_of_escrowed (hfunded sponsor)] at hview
  have hslot := congrArg (fun step ↦ step.2.slot.pending) hview
  simpa [Slot.pending, slotOf, pendingOnHold] using hslot

/-- The estimates that stay on a sponsor when one ticket is settled are all zero exactly if every
other transaction in flight on it has a zero estimate. -/
theorem estimates_remaining_eq_zero_iff (sponsor : Account) (ticket : ℕ)
    (inFlight : List (Prepared Account)) :
    estimates (flightsOn sponsor
        (inFlight.filter fun flight ↦ ¬ flight.isTicket sponsor ticket)) = 0 ↔
      ∀ other ∈ inFlight, other.sponsor = sponsor → other.ticket ≠ ticket →
        other.estimatedFeeWithTip = 0 := by
  rw [estimates, List.sum_eq_zero_iff_forall_eq_nat, List.forall_mem_map]
  refine forall_congr' fun other ↦ ?_
  simp only [flightsOn, Prepared.isTicket, List.mem_filter, decide_eq_true_eq, and_imp,
    not_and]
  constructor
  · intro hzero hother hsponsor hticket
    exact hzero hother (fun _ ↦ hticket) hsponsor
  · intro hzero hother hticket hsponsor
    exact hzero hother hsponsor (hticket hsponsor)

/-- The settlement of a flight leaves the pending holds equal to the estimates in flight exactly if
it is settled alone. Assumes: an exact ledger and burned fees. -/
theorem reserved_settle_iff (hsound : config.Sound deposit)
    {traffic : Traffic Account Ledger maxAllowedCallers}
    (hfunded : Funded config.balances deposit traffic)
    (hreserved : Reserved config.balances traffic) {ticket : ℕ} {sponsor : Account}
    {flight : Prepared Account}
    (hfind : (traffic.inFlight.find? fun flight ↦ flight.isTicket sponsor ticket) = some flight)
    (fees : TransactionPayment) (post : PostDispatchInfo) (result : Except DispatchError Unit) :
    Reserved config.balances (step config traffic (.settle ticket sponsor fees post result)).2 ↔
      ∀ other ∈ traffic.inFlight, other.sponsor = sponsor → other.ticket ≠ ticket →
        other.estimatedFeeWithTip = 0 := by
  rw [← estimates_remaining_eq_zero_iff]
  have hpending := pending_settle hsound hfunded hfind fees post result
  have hinFlight : (step config traffic (.settle ticket sponsor fees post result)).2.inFlight =
      traffic.inFlight.filter fun flight ↦ ¬ flight.isTicket sponsor ticket := by
    rw [step_settle_of_some hfind]
  constructor
  · intro hafter
    have hsum := hafter sponsor
    rw [hpending, hinFlight] at hsum
    exact hsum.symm
  · intro hzero who
    by_cases hwho : who = sponsor
    · rw [hwho, hpending, hinFlight, hzero]
    · -- The view of every other sponsor is unchanged.
      have hne : (Move.settle ticket sponsor fees post result :
          Move Account RuntimeCall maxAllowedCallers).sponsor ≠ some who := by
        intro heq
        exact hwho (Option.some.inj heq).symm
      have hview := view_step_of_not_concerns hsound traffic _ hne
      have hslot := congrArg (fun view ↦ view.slot.pending) hview
      have hflights := congrArg (fun view ↦ estimates view.flights) hview
      exact hslot.trans ((hreserved who).trans hflights.symm)

/-- A move keeps the pending holds equal to the estimates in flight exactly if it does not settle a
transaction next to another one with a nonzero estimate. Assumes: an exact ledger and burned fees.
-/
theorem reserved_step_iff (hsound : config.Sound deposit)
    {traffic : Traffic Account Ledger maxAllowedCallers}
    (hfunded : Funded config.balances deposit traffic)
    (hreserved : Reserved config.balances traffic)
    (move : Move Account RuntimeCall maxAllowedCallers) :
    Reserved config.balances (step config traffic move).2 ↔ SettlesAlone traffic move := by
  -- Everything but a settlement keeps the equation on every view.
  have hkeeps : (∀ ticket named fees post result, move ≠ .settle ticket named fees post result) →
      Reserved config.balances (step config traffic move).2 := by
    intro hmove who
    have hview : (view config.balances who (step config traffic move).2).slot.pending =
        estimates (view config.balances who (step config traffic move).2).flights := by
      rcases view_step_cases hsound traffic move who with hown | hother
      · rw [hown]
        exact pending_viewStep (hfunded who) (hreserved who) hmove
      · rw [hother]
        exact hreserved who
    exact hview
  cases move with
  | call origin call => exact iff_of_true (hkeeps (by simp)) trivial
  | prepare ticket sponsor fees tip origin call info len =>
    exact iff_of_true (hkeeps (by simp)) trivial
  | settle ticket sponsor fees post result =>
    cases hfind : traffic.inFlight.find? fun flight ↦ flight.isTicket sponsor ticket with
    | none =>
      rw [step_settle_of_none hfind]
      exact iff_of_true hreserved (by simp [SettlesAlone, hfind])
    | some flight =>
      rw [reserved_settle_iff hsound hfunded hreserved hfind]
      simp [SettlesAlone, hfind]

/-! ### Runs -/

/-- From a state in which the pending holds are the estimates in flight, they stay so along a run
exactly if every transaction is settled alone. Assumes: an exact ledger and burned fees. -/
theorem reservationsHold_iff_of_reserved (hsound : config.Sound deposit)
    (moves : List (Move Account RuntimeCall maxAllowedCallers))
    {traffic : Traffic Account Ledger maxAllowedCallers}
    (hfunded : Funded config.balances deposit traffic)
    (hreserved : Reserved config.balances traffic) :
    ReservationsHold config traffic moves ↔ SettleAlone config traffic moves := by
  induction moves generalizing traffic with
  | nil => exact Iff.rfl
  | cons move rest ih =>
    have hfinds := findsReservation_of_reserved hsound hfunded hreserved move
    have hstep := reserved_step_iff hsound hfunded hreserved move
    have hnext := funded_step hsound hfunded move
    constructor
    · rintro ⟨-, hafter, hrest⟩
      exact ⟨hstep.mp hafter, (ih hnext hafter).mp hrest⟩
    · rintro ⟨halone, hrest⟩
      have hafter := hstep.mpr halone
      exact ⟨hfinds, hafter, (ih hnext hafter).mpr hrest⟩

/-- Reservations under overlap. Assumes: an exact ledger, burned fees, and a start without holds
and without transactions in flight. For any sequence of lifecycle calls, preparations and
settlements, it holds that every settlement charges the smaller of its actual fee and its estimate
without a shortfall and that after every move the pending hold of every account is the sum of the
estimates in flight on it, exactly if no transaction is settled while another one with a nonzero
estimate is in flight on the same sponsor. -/
theorem reservationsHold_iff_settleAlone (hsound : config.Sound deposit)
    {start : PalletState Account Ledger maxAllowedCallers}
    (hstart : ∀ who reason, (config.balances.account start.ledger who).onHold reason = 0)
    (moves : List (Move Account RuntimeCall maxAllowedCallers)) :
    ReservationsHold config ⟨start, []⟩ moves ↔ SettleAlone config ⟨start, []⟩ moves :=
  reservationsHold_iff_of_reserved hsound moves (funded_start hstart) fun who ↦ hstart who _

/-- In the test runtime, the transactions of sponsor 1 are settled one after another while one of
sponsor 3 stays in flight. -/
def aloneMoves : List (Move ℕ Unit 8) :=
  [.call (.signed 1) (.registerSponsor 100 mockPairPolicy),
    .call (.signed 3) (.registerSponsor 200 (mockPolicy [1] (by decide) 50)),
    .prepare 0 3 mockFees 0 (.signed 1) () mockInfo 0,
    .prepare 0 1 mockFees 3 (.signed 2) () mockInfo 0,
    .settle 0 1 mockFees mockPost (.ok ()),
    .prepare 1 1 mockFees 3 (.signed 3) () mockInfo 0,
    .settle 1 1 mockFees mockPost (.ok ()),
    .settle 0 3 mockFees mockPost (.ok ())]

/-- Sponsor 1 pays two fees of 5 out of its budget of 100, and sponsor 3 a fee of 2 out of 200. -/
theorem reservationsHold_aloneMoves :
    let final := (runState (step mockConfig) ⟨mockState, []⟩ aloneMoves).state
    SettleAlone mockConfig ⟨mockState, []⟩ aloneMoves ∧
      ReservationsHold mockConfig ⟨mockState, []⟩ aloneMoves ∧
      final.events = [.sponsorRegistered 1 100, .sponsorRegistered 3 200,
        .sponsoredTransactionFeePaid 1 2 5 3, .sponsoredTransactionFeePaid 1 3 5 3,
        .sponsoredTransactionFeePaid 3 1 2 0] ∧
      budgetOnHold mockBalances final 1 = 90 ∧ budgetOnHold mockBalances final 3 = 198 ∧
      mockBalances.totalIssuance final.ledger = 2988 ∧ final.log = [] := by
  intro final
  have halone : SettleAlone mockConfig ⟨mockState, []⟩ aloneMoves := by decide
  refine ⟨halone, ?_, by decide, by decide, by decide, by decide, by decide⟩
  exact (reservationsHold_iff_settleAlone mockConfig_sound (fun _ _ ↦ rfl) aloneMoves).mpr halone

/-- In the test runtime, two transactions of different callers are prepared on sponsor 1 before the
first of them is settled. Each has an estimate of 5. -/
def overlappingMoves : List (Move ℕ Unit 8) :=
  [.call (.signed 1) (.registerSponsor 100 mockPairPolicy),
    .prepare 0 1 mockFees 3 (.signed 2) () mockInfo 0,
    .prepare 1 1 mockFees 3 (.signed 3) () mockInfo 0,
    .settle 0 1 mockFees mockPost (.ok ()),
    .settle 1 1 mockFees mockPost (.ok ())]

/-- The first settlement returns the reservation of the second transaction to the budget: the
pending hold is 0 while an estimate of 5 is in flight. The second settlement is short by 5, charges
nothing of its fee of 5, and does not find its reservation. -/
theorem not_reservationsHold_two_flights :
    let overlapped := runState (step mockConfig) ⟨mockState, []⟩ (overlappingMoves.take 4)
    let final := (runState (step mockConfig) ⟨mockState, []⟩ overlappingMoves).state
    ¬ ReservationsHold mockConfig ⟨mockState, []⟩ overlappingMoves ∧
      pendingOnHold mockBalances overlapped.state 1 = 0 ∧
      estimates (flightsOn 1 overlapped.inFlight) = 5 ∧
      ¬ FindsReservation mockConfig overlapped (.settle 1 1 mockFees mockPost (.ok ())) ∧
      final.events.getLast? = some (.sponsoredTransactionFeePaid 1 3 0 0) ∧
      final.log = [.pendingHoldShort 1 5] ∧
      mockBalances.totalIssuance final.ledger = 2995 := by
  intro overlapped final
  refine ⟨?_, by decide, by decide, ?_, by decide, by decide, by decide⟩
  · rintro ⟨-, -, -, -, -, -, -, hafter, -⟩
    exact absurd (hafter 1) (by decide)
  · intro hfinds
    have hlog := (hfinds _ rfl).log
    exact absurd hlog (by decide)

end SponsoredTx.Overlap
