import SponsoredTx.Extension.EscrowedSlot
import SponsoredTx.Foundation.Runs

/-!
# Runs with overlapping flights

Here any number of sponsored transactions may be between `prepare` and settlement at once, on the
same sponsor or on different ones. `Traffic` is the pallet state with the transactions in flight, a
`Move` is a lifecycle call, the validation and preparation of a transaction, or the settlement of
one that is in flight, and `step` runs the code for it. Transactions are told apart by a ticket.

The view of one sponsor (`View`) is its slot, the events about it and its flights. `viewStep` is the
meaning of a move for that sponsor, on the view alone. `view_step_of_concerns` and
`view_step_of_not_concerns` show that the code computes it: a move of the sponsor is determined by
its view, and a move of anybody else is invisible in it. Both hold in every state, reachable or not.
-/

set_option autoImplicit false
set_option relaxedAutoImplicit false

namespace SponsoredTx.Overlap

open Foundation.StatefulResult Foundation.HoldLedger Pallet Extension

variable {Account Ledger RuntimeCall BaseVal BasePre : Type} {maxAllowedCallers : ℕ}
  [DecidableEq Account]

/-! ### Moves -/

/-- A prepared transaction that waits for its settlement. -/
structure Prepared (Account : Type) where
  ticket : ℕ
  sponsor : Account
  signer : Account
  estimatedFeeWithTip : ℕ
  tip : ℕ
  info : DispatchInfo
  len : ℕ
  deriving DecidableEq

/-- The transaction is the one with the given ticket on the given sponsor. -/
def Prepared.isTicket (flight : Prepared Account) (sponsor : Account) (ticket : ℕ) : Bool :=
  flight.sponsor = sponsor ∧ flight.ticket = ticket

/-- The pallet state and the transactions in flight, oldest first. -/
structure Traffic (Account Ledger : Type) (maxAllowedCallers : ℕ) where
  state : PalletState Account Ledger maxAllowedCallers
  inFlight : List (Prepared Account)

/-- What can happen. -/
inductive Move (Account RuntimeCall : Type) (maxAllowedCallers : ℕ)
  | call (origin : RawOrigin Account) (call : Call Account maxAllowedCallers)
  | prepare (ticket : ℕ) (sponsor : Account) (fees : TransactionPayment) (tip : ℕ)
      (origin : RawOrigin Account) (call : RuntimeCall) (info : DispatchInfo) (len : ℕ)
  | settle (ticket : ℕ) (sponsor : Account) (fees : TransactionPayment) (post : PostDispatchInfo)
      (result : Except DispatchError Unit)

/-- The sponsor a move concerns: the signer of a call, and the sponsor that a transaction names. -/
def Move.sponsor : Move Account RuntimeCall maxAllowedCallers → Option Account
  | .call origin _ => asSystemOriginSigner origin
  | .prepare _ sponsor _ _ _ _ _ _ => some sponsor
  | .settle _ sponsor _ _ _ => some sponsor

/-- The result of a move. A ticket in use is not prepared again, and only a transaction in flight is
settled. -/
inductive Outcome
  | done
  | refused (e : DispatchError)
  | invalid (e : TransactionValidityError)
  | ticketTaken
  | notInFlight
  deriving DecidableEq, Repr

/-- Run a move. -/
def step (config : Config Account Ledger RuntimeCall BaseVal BasePre)
    (traffic : Traffic Account Ledger maxAllowedCallers) :
    Move Account RuntimeCall maxAllowedCallers →
      Outcome × Traffic Account Ledger maxAllowedCallers
  | .call origin call =>
    match dispatch config.balances origin call traffic.state with
    | .ok _ state => (.done, { traffic with state })
    | .error e state => (.refused e, { traffic with state })
  | .prepare ticket sponsor fees tip origin call info len =>
    let self : SponsoredChargeTransactionPayment Account := ⟨tip, some sponsor⟩
    if traffic.inFlight.any fun flight ↦ flight.isTicket sponsor ticket then (.ticketTaken, traffic)
    else
      match self.validate config fees origin call info len traffic.state with
      | .error e state => (.invalid e, { traffic with state })
      | .ok (_, val, origin) state =>
        match self.prepare config val origin call info len state with
        | .error e state => (.invalid e, { traffic with state })
        | .ok (.unsponsored _) state => (.done, { traffic with state })
        | .ok (.sponsored sponsor signer estimatedFeeWithTip tip) state =>
          (.done,
            { state
              inFlight := traffic.inFlight ++
                [{ ticket, sponsor, signer, estimatedFeeWithTip, tip, info, len }] })
  | .settle ticket sponsor fees post result =>
    match traffic.inFlight.find? fun flight ↦ flight.isTicket sponsor ticket with
    | none => (.notInFlight, traffic)
    | some flight =>
      match postDispatchDetails config fees
        (.sponsored flight.sponsor flight.signer flight.estimatedFeeWithTip flight.tip) flight.info
          post flight.len result traffic.state with
      | .error e state => (.invalid e, { traffic with state })
      | .ok _ state =>
        (.done,
          { state
            inFlight := traffic.inFlight.filter fun flight ↦ ¬ flight.isTicket sponsor ticket })

/-! ### The view of one sponsor -/

/-- The transactions in flight on one sponsor. -/
def flightsOn (sponsor : Account) (inFlight : List (Prepared Account)) : List (Prepared Account) :=
  inFlight.filter fun flight ↦ flight.sponsor = sponsor

/-- What concerns one sponsor: its slot, the events about it, and the transactions in flight on
it. -/
@[ext] structure View (Account : Type) (maxAllowedCallers : ℕ) where
  slot : Slot Account maxAllowedCallers
  events : List (Event Account)
  flights : List (Prepared Account)

/-- The view of a sponsor. -/
def view (balances : Balances Account HoldReason Ledger) (sponsor : Account)
    (traffic : Traffic Account Ledger maxAllowedCallers) : View Account maxAllowedCallers where
  slot := slotOf balances traffic.state sponsor
  events := eventsAbout sponsor traffic.state.events
  flights := flightsOn sponsor traffic.inFlight

/-- The view after a settlement of a flight at an actual fee. -/
def View.settled (deposit : ℕ) (view : View Account maxAllowedCallers) (flight : Prepared Account)
    (actual : ℕ) (flights : List (Prepared Account)) : View Account maxAllowedCallers :=
  let charged := chargedOf actual flight.estimatedFeeWithTip view.slot.pending
  { slot := { view.slot with
      account := (settledAccount deposit flight.sponsor view.slot.account charged).2 }
    events := view.events ++ [.sponsoredTransactionFeePaid flight.sponsor flight.signer charged
      (min flight.tip charged)]
    flights }

/-- What a move of the sponsor does, on its view alone. -/
def viewStep (deposit : ℕ) (sponsor : Account) (view : View Account maxAllowedCallers) :
    Move Account RuntimeCall maxAllowedCallers → Outcome × View Account maxAllowedCallers
  | .call _ call =>
    match view.slot.refusal deposit call with
    | some e => (.refused e, view)
    | none =>
      (.done, { view with
        slot := view.slot.after call
        events := view.events ++ [view.slot.announcement sponsor call] })
  | .prepare ticket _ fees tip origin _ info len =>
    let feeWithTip := fees.computeFee (UInt32.ofNat len) info tip
    if view.flights.any fun flight ↦ flight.isTicket sponsor ticket then (.ticketTaken, view)
    else
      match admission view.slot origin feeWithTip with
      | .error e => (.invalid e, view)
      | .ok signer =>
        let slot := { view.slot with account := (reserve deposit view.slot.account feeWithTip).2 }
        match (reserve deposit view.slot.account feeWithTip).1 with
        | some e => (.invalid e, { view with slot })
        | none =>
          (.done, { view with
            slot
            flights := view.flights ++
              [{ ticket, sponsor, signer, estimatedFeeWithTip := feeWithTip, tip, info, len }] })
  | .settle ticket _ fees post _ =>
    match view.flights.find? fun flight ↦ flight.isTicket sponsor ticket with
    | none => (.notInFlight, view)
    | some flight =>
      (.done, view.settled deposit flight
        (fees.computeActualFee (UInt32.ofNat flight.len) flight.info post flight.tip)
        (view.flights.filter fun flight ↦ ¬ flight.isTicket sponsor ticket))

/-! ### The code computes the view -/

section Simulation

variable {config : Config Account Ledger RuntimeCall BaseVal BasePre} {deposit : ℕ}

/-- The flights on a sponsor among the flights that are not a given ticket of it. -/
theorem flightsOn_filter_not (sponsor : Account) (ticket : ℕ) (inFlight : List (Prepared Account)) :
    flightsOn sponsor (inFlight.filter fun flight ↦ ¬ flight.isTicket sponsor ticket) =
      (flightsOn sponsor inFlight).filter fun flight ↦ ¬ flight.isTicket sponsor ticket := by
  simp only [flightsOn, List.filter_filter, Bool.and_comm]

/-- Removing a ticket of one sponsor leaves the flights on another. -/
theorem flightsOn_filter_not_of_ne {sponsor other : Account} (hother : other ≠ sponsor) (ticket : ℕ)
    (inFlight : List (Prepared Account)) :
    flightsOn other (inFlight.filter fun flight ↦ ¬ flight.isTicket sponsor ticket) =
      flightsOn other inFlight := by
  simp only [flightsOn, List.filter_filter]
  refine List.filter_congr fun flight _ ↦ ?_
  by_cases hflight : flight.sponsor = other
  · simp [Prepared.isTicket, hflight, hother]
  · simp [hflight]

/-- A ticket of a sponsor is looked up among its own flights. -/
theorem find?_flightsOn (sponsor : Account) (ticket : ℕ) (inFlight : List (Prepared Account)) :
    (flightsOn sponsor inFlight).find? (fun flight ↦ flight.isTicket sponsor ticket) =
      inFlight.find? fun flight ↦ flight.isTicket sponsor ticket := by
  rw [flightsOn, List.find?_filter]
  congr 1
  funext flight
  simp [Prepared.isTicket]

/-- A ticket of a sponsor is in use exactly if one of its own flights has it. -/
theorem any_flightsOn (sponsor : Account) (ticket : ℕ) (inFlight : List (Prepared Account)) :
    ((flightsOn sponsor inFlight).any fun flight ↦ flight.isTicket sponsor ticket) =
      inFlight.any fun flight ↦ flight.isTicket sponsor ticket := by
  rw [flightsOn, List.any_filter]
  congr 1
  funext flight
  simp [Prepared.isTicket]

/-- A flight that was looked up is on the sponsor it was looked up for. -/
theorem sponsor_of_find? {sponsor : Account} {ticket : ℕ} {inFlight : List (Prepared Account)}
    {flight : Prepared Account}
    (hfind : (inFlight.find? fun flight ↦ flight.isTicket sponsor ticket) = some flight) :
    flight.sponsor = sponsor := by
  have hticket := List.find?_some hfind
  simp only [Prepared.isTicket, Bool.decide_and, Bool.and_eq_true, decide_eq_true_eq] at hticket
  exact hticket.1

/-- A move of a prepared transaction, with its validation and its reservation on the slot of the
sponsor. Assumes: an exact ledger. -/
theorem step_prepare (hexact : config.balances.Exact deposit)
    (traffic : Traffic Account Ledger maxAllowedCallers) (ticket : ℕ) (sponsor : Account)
    (fees : TransactionPayment) (tip : ℕ) (origin : RawOrigin Account) (call : RuntimeCall)
    (info : DispatchInfo) (len : ℕ) :
    let feeWithTip := fees.computeFee (UInt32.ofNat len) info tip
    let slot := slotOf config.balances traffic.state sponsor
    ∃ state, Advances config.balances traffic.state sponsor
        { slot with account := (reserve deposit slot.account feeWithTip).2 } [] state ∧
      step config traffic (.prepare ticket sponsor fees tip origin call info len) =
        if traffic.inFlight.any fun flight ↦ flight.isTicket sponsor ticket then
          (.ticketTaken, traffic)
        else
          match admission slot origin feeWithTip with
          | .error e => (.invalid e, traffic)
          | .ok signer =>
            match (reserve deposit slot.account feeWithTip).1 with
            | some e => (.invalid e, { traffic with state })
            | none =>
              (.done,
                { state
                  inFlight := traffic.inFlight ++
                    [⟨ticket, sponsor, signer, feeWithTip, tip, info, len⟩] }) := by
  intro feeWithTip slot
  cases hadmission : admission slot origin feeWithTip with
  | error e =>
    obtain ⟨state, hadvances, -⟩ := prepare_sponsored hexact ⟨tip, some sponsor⟩ sponsor sponsor
      feeWithTip tip origin call info len traffic.state
    refine ⟨state, hadvances, ?_⟩
    simp only [step, validate_sponsored]
    rw [hadmission]
  | ok signer =>
    obtain ⟨state, hadvances, hprepare⟩ := prepare_sponsored hexact ⟨tip, some sponsor⟩ sponsor
      signer feeWithTip tip origin call info len traffic.state
    refine ⟨state, hadvances, ?_⟩
    simp only [step, validate_sponsored]
    rw [hadmission]
    simp only
    rw [hprepare]
    cases (reserve deposit slot.account feeWithTip).1 <;> rfl

/-- The settlement of a flight that is looked up. -/
theorem step_settle_of_some {traffic : Traffic Account Ledger maxAllowedCallers} {ticket : ℕ}
    {sponsor : Account} {flight : Prepared Account}
    (hfind : (traffic.inFlight.find? fun flight ↦ flight.isTicket sponsor ticket) = some flight)
    (fees : TransactionPayment) (post : PostDispatchInfo) (result : Except DispatchError Unit) :
    step config traffic (.settle ticket sponsor fees post result) =
      (.done,
        { state := (settleSponsoredFee config fees flight.sponsor flight.signer
            flight.estimatedFeeWithTip flight.tip flight.info post flight.len traffic.state).2
          inFlight := traffic.inFlight.filter fun flight ↦ ¬ flight.isTicket sponsor ticket }) := by
  simp only [step, hfind]
  rfl

/-- The settlement of a ticket that is not in flight. -/
theorem step_settle_of_none {traffic : Traffic Account Ledger maxAllowedCallers} {ticket : ℕ}
    {sponsor : Account}
    (hfind : (traffic.inFlight.find? fun flight ↦ flight.isTicket sponsor ticket) = none)
    (fees : TransactionPayment) (post : PostDispatchInfo) (result : Except DispatchError Unit) :
    step config traffic (.settle ticket sponsor fees post result) = (.notInFlight, traffic) := by
  simp only [step, hfind]

/-- A move of another sponsor is invisible. Assumes: an exact ledger and burned fees. -/
theorem view_step_of_not_concerns (hsound : config.Sound deposit)
    (traffic : Traffic Account Ledger maxAllowedCallers)
    (move : Move Account RuntimeCall maxAllowedCallers) {sponsor : Account}
    (hmove : move.sponsor ≠ some sponsor) :
    view config.balances sponsor (step config traffic move).2 =
      view config.balances sponsor traffic := by
  cases move with
  | call origin call =>
    rcases dispatch_cases hsound.exact traffic.state origin call with
      ⟨e, hrefused⟩ | ⟨who, state, rfl, -, hok, hadvances⟩
    · simp only [step, hrefused]
    · have hne : sponsor ≠ who := by
        rintro rfl
        exact hmove rfl
      have habout := hadvances.eventsAbout_of_ne (Slot.sponsor_announcement _ who call) hne
      simp only [step, hok, view, hadvances.slot_of_ne hne, habout]
  | prepare ticket named fees tip origin call info len =>
    have hne : sponsor ≠ named := by
      rintro rfl
      exact hmove rfl
    obtain ⟨state, hadvances, hstep⟩ := step_prepare hsound.exact traffic ticket named fees tip
      origin call info len
    have hslot := hadvances.slot_of_ne hne
    have hevents : state.events = traffic.state.events := hadvances.events.trans (List.append_nil _)
    rw [hstep]
    split_ifs
    · rfl
    · split
      · rfl
      · split
        · simp only [view, hslot, hevents]
        · simp only [view, hslot, hevents, flightsOn, List.filter_append]
          simp [Ne.symm hne]
  | settle ticket named fees post result =>
    have hne : sponsor ≠ named := by
      rintro rfl
      exact hmove rfl
    cases hfind : traffic.inFlight.find? fun flight ↦ flight.isTicket named ticket with
    | none => rw [step_settle_of_none hfind]
    | some flight =>
      have hsponsor := sponsor_of_find? hfind
      have hsettles := settleSponsoredFee_settles hsound fees flight.sponsor flight.signer
        flight.estimatedFeeWithTip flight.tip flight.info post flight.len traffic.state
      have hother : sponsor ≠ flight.sponsor := hsponsor.symm ▸ hne
      rw [step_settle_of_some hfind]
      simp only [view, hsettles.slot_of_ne hother, hsettles.eventsAbout_of_ne hother,
        flightsOn_filter_not_of_ne hne]

/-- A move of the sponsor is determined by its view. Assumes: an exact ledger and burned fees. -/
theorem view_step_of_concerns (hsound : config.Sound deposit)
    (traffic : Traffic Account Ledger maxAllowedCallers)
    (move : Move Account RuntimeCall maxAllowedCallers) {sponsor : Account}
    (hmove : move.sponsor = some sponsor) :
    ((step config traffic move).1, view config.balances sponsor (step config traffic move).2) =
      viewStep deposit sponsor (view config.balances sponsor traffic) move := by
  cases move with
  | call origin call =>
    obtain rfl : origin = .signed sponsor := (asSystemOriginSigner_eq_some_iff _ _).mp hmove
    cases hrefusal : (slotOf config.balances traffic.state sponsor).refusal deposit call with
    | some e =>
      have hrefused := dispatch_signed_of_refused hsound.exact hrefusal
      have hview : (view config.balances sponsor traffic).slot.refusal deposit call = some e :=
        hrefusal
      simp only [step, hrefused, viewStep, hview]
    | none =>
      obtain ⟨state, hok, hadvances⟩ := dispatch_signed_of_accepted hsound.exact hrefusal
      have hview : (view config.balances sponsor traffic).slot.refusal deposit call = none :=
        hrefusal
      have habout := hadvances.eventsAbout_self (Slot.sponsor_announcement _ sponsor call)
      simp only [step, hok, viewStep, hview]
      simp only [view, hadvances.slot_self, habout]
  | prepare ticket named fees tip origin call info len =>
    obtain rfl : named = sponsor := Option.some.inj hmove
    obtain ⟨state, hadvances, hstep⟩ := step_prepare hsound.exact traffic ticket named fees tip
      origin call info len
    have hslot := hadvances.slot_self
    have hevents : state.events = traffic.state.events := hadvances.events.trans (List.append_nil _)
    rw [hstep]
    simp only [viewStep, view, any_flightsOn]
    split_ifs
    · rfl
    · cases admission (slotOf config.balances traffic.state named) origin
          (fees.computeFee (UInt32.ofNat len) info tip) with
      | error e => rfl
      | ok signer =>
        simp only
        cases (reserve deposit (slotOf config.balances traffic.state named).account
            (fees.computeFee (UInt32.ofNat len) info tip)).1 with
        | some e => simp only [hslot, hevents]
        | none => simp [hslot, hevents, flightsOn, List.filter_append]
  | settle ticket named fees post result =>
    obtain rfl : named = sponsor := Option.some.inj hmove
    cases hfind : traffic.inFlight.find? fun flight ↦ flight.isTicket named ticket with
    | none =>
      rw [step_settle_of_none hfind]
      simp only [viewStep, view, find?_flightsOn, hfind]
    | some flight =>
      obtain rfl := sponsor_of_find? hfind
      have hsettles := settleSponsoredFee_settles hsound fees flight.sponsor flight.signer
        flight.estimatedFeeWithTip flight.tip flight.info post flight.len traffic.state
      rw [step_settle_of_some hfind]
      simp only [viewStep, view, find?_flightsOn, hfind, View.settled]
      rw [hsettles.slot_self, hsettles.eventsAbout_self, flightsOn_filter_not]

end Simulation

end SponsoredTx.Overlap
