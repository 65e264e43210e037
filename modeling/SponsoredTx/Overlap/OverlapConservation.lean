import SponsoredTx.Chain.EscrowRecovery
import SponsoredTx.Overlap.ReservationOverlap

/-!
# What overlapping flights cannot break

Flights on one sponsor share its pending hold, so a settlement may find less than its estimate
there. This module is about what holds in every run all the same. `Accounted` is the invariant of
the view of one sponsor: its slot is escrowed, the pending hold is at most the sum of the estimates
in flight, the events about it replay to its entry and to the sum of its two holds, and the fees in
them are what its total balance lost. Every move keeps it (`accounted_viewStep`). A charge comes out
of the pending hold and nowhere else, which is why sharing the hold can lower a charge and never
raise it.

`overlapping_runs_account` is the result for whole runs: the event log is a complete audit trail
with any number of flights, and nothing is lost or created. `overlapping_runs_release` is the way
back: once the flights of a sponsor are settled, in any order and at any fees, its `unregister`
succeeds and leaves nothing on hold.
-/

set_option autoImplicit false
set_option relaxedAutoImplicit false

namespace SponsoredTx.Overlap

open Foundation.StatefulResult Foundation.HoldLedger Foundation.Runs Pallet Extension Chain

variable {Account Ledger RuntimeCall BaseVal BasePre : Type} {maxAllowedCallers : ℕ}
  [DecidableEq Account] {config : Config Account Ledger RuntimeCall BaseVal BasePre} {deposit : ℕ}

/-! ### What one move leaves behind -/

/-- The credit that the settlement behind an event routed to `FeeDestination`. -/
def creditOf : Event Account → Option (ℕ × ℕ)
  | .sponsoredTransactionFeePaid _ _ actualFee tip => some (actualFee - tip, tip)
  | _ => none

omit [DecidableEq Account] in
/-- No call announces a credit. -/
theorem creditOf_announcement (slot : Slot Account maxAllowedCallers) (who : Account)
    (call : Call Account maxAllowedCallers) : creditOf (slot.announcement who call) = none := by
  cases call <;> rfl

/-- A reservation keeps the total balance, also where it fails half way. -/
theorem total_reserve (deposit : ℕ) (account : AccountData HoldReason) (amount : ℕ) :
    (reserve deposit account amount).2.total = account.total := by
  simp only [reserve]
  split_ifs with hrelease hhold
  · have hfree : amount ≤ (account.withRelease .sponsorshipBudget amount).free :=
      Nat.le_add_left _ _
    rw [AccountData.total_withHold _ _ hfree, AccountData.total_withRelease _ hrelease.2]
  · exact AccountData.total_withRelease _ hrelease.2
  · rfl

omit [DecidableEq Account] in
/-- A settlement takes the charge out of the total balance and nothing else, also where the rest
cannot be restored. -/
theorem total_settledAccount (deposit : ℕ) (sponsor : Account) {account : AccountData HoldReason}
    {charged : ℕ} (hcharged : charged ≤ account.onHold .sponsorshipPending) :
    (settledAccount deposit sponsor account charged).2.total + charged = account.total := by
  have hslashed := AccountData.total_withSlash account hcharged
  have hreleased := (account.withSlash .sponsorshipPending charged).total_withRelease
    (le_refl ((account.withSlash .sponsorshipPending charged).onHold .sponsorshipPending))
  unfold settledAccount restoredAccount
  dsimp only
  split
  · split
    · rw [AccountData.total_withHold _ _ (Nat.le_add_left _ _), hreleased, hslashed]
    · rw [hreleased, hslashed]
  · exact hslashed

/-- What a move leaves behind, in any state: nothing changes; or one slot advances with its total
balance, and no event reports a fee; or a settlement takes its charge from one account. Assumes: an
exact ledger and burned fees. -/
theorem step_footprint (hsound : config.Sound deposit)
    (traffic : Traffic Account Ledger maxAllowedCallers)
    (move : Move Account RuntimeCall maxAllowedCallers) :
    let after := (step config traffic move).2.state
    after = traffic.state ∨
    (∃ who slot emitted, Advances config.balances traffic.state who slot emitted after ∧
      slot.account.total = (slotOf config.balances traffic.state who).account.total ∧
      ∀ event ∈ emitted, feeOf event = 0 ∧ creditOf event = none) ∨
    ∃ sponsor signer account charged tip lines,
      Settles config.balances traffic.state sponsor signer account charged tip lines after ∧
      account.total + charged =
        (slotOf config.balances traffic.state sponsor).account.total := by
  intro after
  cases move with
  | call origin call =>
    rcases dispatch_cases hsound.exact traffic.state origin call with
      ⟨e, hrefused⟩ | ⟨who, state, rfl, haccepted, hok, hadvances⟩
    · left
      simp only [after, step, hrefused]
    · right; left
      have hafter : after = state := by simp only [after, step, hok]
      have haccepts := (Slot.refusal_eq_none_iff _ _ _).mp haccepted
      refine ⟨who, _, _, hafter ▸ hadvances, Slot.total_after _ haccepts, ?_⟩
      simp [feeOf_announcement, creditOf_announcement]
  | prepare ticket sponsor fees tip origin call info len =>
    obtain ⟨state, hadvances, hstep⟩ := step_prepare hsound.exact traffic ticket sponsor fees tip
      origin call info len
    have hcases : after = traffic.state ∨ after = state := by
      simp only [after, hstep]
      split_ifs
      · exact Or.inl rfl
      · cases admission (slotOf config.balances traffic.state sponsor) origin
            (fees.computeFee (UInt32.ofNat len) info tip) with
        | error e => exact Or.inl rfl
        | ok signer =>
          right
          cases (reserve deposit (slotOf config.balances traffic.state sponsor).account
            (fees.computeFee (UInt32.ofNat len) info tip)).1 <;> rfl
    rcases hcases with hsame | hafter
    · exact Or.inl hsame
    · exact Or.inr (Or.inl ⟨sponsor, _, [], hafter ▸ hadvances, total_reserve _ _ _, by simp⟩)
  | settle ticket sponsor fees post result =>
    cases hfind : traffic.inFlight.find? fun flight ↦ flight.isTicket sponsor ticket with
    | none =>
      left
      simp only [after, step_settle_of_none hfind]
    | some flight =>
      right; right
      have hafter : after = (settleSponsoredFee config fees flight.sponsor flight.signer
          flight.estimatedFeeWithTip flight.tip flight.info post flight.len traffic.state).2 := by
        simp only [after, step_settle_of_some hfind]
      exact ⟨_, _, _, _, _, _, hafter ▸ settleSponsoredFee_settles hsound fees flight.sponsor
        flight.signer flight.estimatedFeeWithTip flight.tip flight.info post flight.len
        traffic.state, total_settledAccount _ _ (min_le_right _ _)⟩

/-! ### One sponsor in a run -/

/-- Every run keeps every slot escrowed. Assumes: an exact ledger and burned fees. -/
theorem funded_runState (hsound : config.Sound deposit)
    {traffic : Traffic Account Ledger maxAllowedCallers}
    (hfunded : Funded config.balances deposit traffic)
    (moves : List (Move Account RuntimeCall maxAllowedCallers)) :
    Funded config.balances deposit (runState (step config) traffic moves) :=
  runState_invariant (P := Funded config.balances deposit)
    (fun _ move _ hfunded ↦ funded_step hsound hfunded move) hfunded

/-- The rule for one sponsor: what its own moves preserve on an escrowed view, every run preserves.
Assumes: an exact ledger and burned fees. -/
theorem view_runState_invariant (hsound : config.Sound deposit) {sponsor : Account}
    {P : View Account maxAllowedCallers → Prop}
    {moves : List (Move Account RuntimeCall maxAllowedCallers)}
    (hpreserves : ∀ view, ∀ move ∈ moves, move.sponsor = some sponsor →
      Escrowed deposit view.slot.pending view.slot → P view →
      P (viewStep deposit sponsor view move).2)
    {traffic : Traffic Account Ledger maxAllowedCallers}
    (hfunded : Funded config.balances deposit traffic)
    (hview : P (view config.balances sponsor traffic)) :
    P (view config.balances sponsor (runState (step config) traffic moves)) := by
  refine (runState_invariant (P := fun traffic ↦ Funded config.balances deposit traffic ∧
    P (view config.balances sponsor traffic)) ?_ ⟨hfunded, hview⟩).2
  rintro traffic move hmove ⟨hfunded, hview⟩
  refine ⟨funded_step hsound hfunded move, ?_⟩
  by_cases hconcerns : move.sponsor = some sponsor
  · have hstep : view config.balances sponsor (step config traffic move).2 =
        (viewStep deposit sponsor (view config.balances sponsor traffic) move).2 :=
      congrArg Prod.snd (view_step_of_concerns hsound traffic move hconcerns)
    rw [hstep]
    exact hpreserves _ move hmove hconcerns (hfunded sponsor) hview
  · rwa [view_step_of_not_concerns hsound traffic move hconcerns]

/-! ### The invariant of one view -/

/-- What the events since the start say about a view: they replay to its slot, and their fees are
what the account lost. Every charge came out of a pending hold that the flights cover. -/
structure Accounted (deposit : ℕ) (start view : View Account maxAllowedCallers)
    (emitted : List (Event Account)) : Prop where
  escrowed : Escrowed deposit view.slot.pending view.slot
  bounded : view.slot.pending ≤ estimates view.flights
  events : view.events = start.events ++ emitted
  replayed : emitted.foldlM Line.apply Line.absent = some (lineOf view.slot)
  conserved : view.slot.account.total + (emitted.map feeOf).sum = start.slot.account.total

section View

variable {start view : View Account maxAllowedCallers} {emitted : List (Event Account)}
  {sponsor : Account}

omit [DecidableEq Account] in
/-- A change of the slot that is announced by one event keeps the accounts if the event takes the
line of the slot before to the line after, and its fee is what the account lost. -/
theorem Accounted.announce (haccounted : Accounted deposit start view emitted)
    {slot : Slot Account maxAllowedCallers} {flights : List (Prepared Account)}
    {event : Event Account} (hescrowed : Escrowed deposit slot.pending slot)
    (hbounded : slot.pending ≤ estimates flights)
    (hline : (lineOf view.slot).apply event = some (lineOf slot))
    (htotal : slot.account.total + feeOf event = view.slot.account.total) :
    Accounted deposit start ⟨slot, view.events ++ [event], flights⟩ (emitted ++ [event]) where
  escrowed := hescrowed
  bounded := hbounded
  events := by rw [haccounted.events, List.append_assoc]
  replayed := by
    rw [List.foldlM_append, haccounted.replayed]
    simpa using hline
  conserved := by
    have hconserved := haccounted.conserved
    simp only [List.map_append, List.sum_append, List.map_singleton, List.sum_singleton]
    omega

omit [DecidableEq Account] in
/-- A reservation within the budget is announced by no event and covered by its own flight. -/
theorem Accounted.reserve (haccounted : Accounted deposit start view emitted) {amount : ℕ}
    (hamount : amount ≤ view.slot.budget) {flights : List (Prepared Account)}
    (hflights : estimates view.flights + amount ≤ estimates flights) :
    Accounted deposit start
      ⟨{ view.slot with account := withReserved view.slot.account amount }, view.events, flights⟩
      emitted where
  escrowed := by
    have hreserved := haccounted.escrowed.withReserved hamount
    rwa [← hreserved.pending_eq] at hreserved
  bounded := by
    have hbounded := haccounted.bounded
    simp only [Slot.pending, pending_withReserved] at hbounded ⊢
    omega
  events := haccounted.events
  replayed := by rw [haccounted.replayed, lineOf_withReserved hamount]
  conserved := by rw [total_withReserved hamount, haccounted.conserved]

omit [DecidableEq Account] in
/-- A settlement that charges at most the pending hold is announced by its fee event. -/
theorem Accounted.settle (haccounted : Accounted deposit start view emitted)
    (named signer : Account) {charged : ℕ} (tip : ℕ) (hcharged : charged ≤ view.slot.pending)
    (flights : List (Prepared Account)) :
    Accounted deposit start
      ⟨{ view.slot with account := withSettled view.slot.account charged },
        view.events ++ [.sponsoredTransactionFeePaid named signer charged tip], flights⟩
      (emitted ++ [.sponsoredTransactionFeePaid named signer charged tip]) := by
  have hsettled := haccounted.escrowed.withSettled charged
  refine haccounted.announce ?_ ?_ (apply_feePaid named signer tip hcharged)
    (total_withSettled hcharged)
  · rwa [← hsettled.pending_eq] at hsettled
  · rw [hsettled.pending_eq]
    exact Nat.zero_le _

/-- Every move keeps the accounts of the view it concerns. -/
theorem accounted_viewStep (haccounted : Accounted deposit start view emitted)
    (move : Move Account RuntimeCall maxAllowedCallers) :
    ∃ emitted', Accounted deposit start (viewStep deposit sponsor view move).2 emitted' := by
  cases move with
  | call origin call =>
    simp only [viewStep]
    cases hrefusal : view.slot.refusal deposit call with
    | some e => exact ⟨emitted, haccounted⟩
    | none =>
      have haccepts := (Slot.refusal_eq_none_iff _ _ _).mp hrefusal
      have hafter := haccounted.escrowed.after_call haccepts
      refine ⟨_, haccounted.announce ?_ ?_ (apply_announcement haccounted.escrowed sponsor haccepts)
        ?_⟩
      · rwa [← hafter.pending_eq] at hafter
      · rw [hafter.pending_eq]
        exact haccounted.bounded
      · rw [feeOf_announcement, Nat.add_zero, Slot.total_after _ haccepts]
  | prepare ticket named fees tip origin call info len =>
    simp only [viewStep]
    split_ifs
    · exact ⟨emitted, haccounted⟩
    · cases hadmission : admission view.slot origin
          (fees.computeFee (UInt32.ofNat len) info tip) with
      | error e => exact ⟨emitted, haccounted⟩
      | ok signer =>
        have hbudget := ((admission_eq_ok_iff _ _ _ _).mp hadmission).budget
        simp only [reserve_of_escrowed haccounted.escrowed hbudget]
        split_ifs with hgap
        · -- A refused preparation moved nothing, since its amount is zero.
          exact ⟨emitted, haccounted.reserve hbudget (by omega)⟩
        · exact ⟨emitted, haccounted.reserve hbudget (by simp [estimates])⟩
  | settle ticket named fees post result =>
    simp only [viewStep]
    split
    · exact ⟨emitted, haccounted⟩
    · simp only [View.settled, settledAccount_of_escrowed haccounted.escrowed]
      exact ⟨_, haccounted.settle _ _ _ (min_le_right _ _) _⟩

end View

/-! ### The invariant of the whole state -/

/-- Every view is accounted for, and the fees of all events since the start are what the issuance
lost. -/
structure Conserved (balances : Balances Account HoldReason Ledger) (deposit : ℕ)
    (start traffic : Traffic Account Ledger maxAllowedCallers) : Prop where
  accounted : ∀ who, ∃ emitted,
    Accounted deposit (view balances who start) (view balances who traffic) emitted
  backed : balances.Backed traffic.state.ledger
  issued : ∃ emitted, traffic.state.events = start.state.events ++ emitted ∧
    balances.totalIssuance traffic.state.ledger + feesPaid emitted =
      balances.totalIssuance start.state.ledger

/-- Accounted views are escrowed. -/
theorem Conserved.funded {balances : Balances Account HoldReason Ledger}
    {start traffic : Traffic Account Ledger maxAllowedCallers}
    (hconserved : Conserved balances deposit start traffic) : Funded balances deposit traffic := by
  intro who
  obtain ⟨emitted, haccounted⟩ := hconserved.accounted who
  exact haccounted.escrowed

/-- A start without sponsors and holds is accounted for. -/
theorem conserved_start {balances : Balances Account HoldReason Ledger}
    {start : PalletState Account Ledger maxAllowedCallers} (hgenesis : Genesis balances start) :
    Conserved balances deposit ⟨start, []⟩ ⟨start, []⟩ where
  accounted := by
    intro who
    refine ⟨[], ⟨funded_start hgenesis.onHold who, ?_, (List.append_nil _).symm, ?_,
      Nat.add_zero _⟩⟩
    · exact (hgenesis.onHold who _).le
    · exact congrArg some (lineOf_genesis hgenesis who).symm
  backed := hgenesis.backed
  issued := ⟨[], (List.append_nil _).symm, Nat.add_zero _⟩

/-- What a move does to the issuance: it loses the fees of the events that the move deposits, and
still covers the balances. Assumes: an exact ledger and burned fees. -/
theorem issuance_step (hsound : config.Sound deposit)
    {traffic : Traffic Account Ledger maxAllowedCallers}
    (hbacked : config.balances.Backed traffic.state.ledger)
    (move : Move Account RuntimeCall maxAllowedCallers) :
    let after := (step config traffic move).2.state
    config.balances.Backed after.ledger ∧ ∃ emitted,
      after.events = traffic.state.events ++ emitted ∧
        config.balances.totalIssuance after.ledger + feesPaid emitted =
          config.balances.totalIssuance traffic.state.ledger := by
  intro after
  rcases step_footprint hsound traffic move with
    hsame | ⟨who, slot, emitted, hadvances, htotal, hfree⟩ |
      ⟨sponsor, signer, account, charged, tip, lines, hsettles, htotal⟩
  · refine ⟨?_, [], ?_, ?_⟩
    · rwa [show after = traffic.state from hsame]
    · rw [List.append_nil]
      exact congrArg PalletState.events hsame
    · exact congrArg (fun st ↦ config.balances.totalIssuance st.ledger) hsame
  · refine ⟨?_, emitted, hadvances.events, ?_⟩
    · exact hbacked.of_total_eq (total_eq_of_advances hadvances htotal) hadvances.totalIssuance
    · have hfees : feesPaid emitted = 0 := by
        rw [feesPaid, List.sum_eq_zero_iff_forall_eq_nat, List.forall_mem_map]
        exact fun event hevent ↦ (hfree event hevent).1
      rw [hfees, Nat.add_zero]
      exact hadvances.totalIssuance
  · have hself : (config.balances.account after.ledger sponsor).total + charged =
        (config.balances.account traffic.state.ledger sponsor).total := by
      have haccount := congrArg (fun slot ↦ slot.account.total) hsettles.slot_self
      exact (congrArg (· + charged) haccount).trans htotal
    have hother : ∀ other, other ≠ sponsor →
        (config.balances.account after.ledger other).total =
          (config.balances.account traffic.state.ledger other).total :=
      fun other hother ↦ congrArg (fun slot ↦ slot.account.total) (hsettles.slot_of_ne hother)
    refine ⟨hbacked.of_burned hself hother hsettles.totalIssuance, _, hsettles.events, ?_⟩
    have hcovered : charged ≤ config.balances.totalIssuance traffic.state.ledger := by
      have howned := hbacked.total_le sponsor
      omega
    have hissuance := hsettles.totalIssuance
    simp only [feesPaid, List.map_singleton, List.sum_singleton, feeOf]
    rw [hissuance]
    exact Nat.sub_add_cancel hcovered

/-- Every move keeps the accounts of the whole state. Assumes: an exact ledger and burned fees. -/
theorem conserved_step (hsound : config.Sound deposit)
    {start traffic : Traffic Account Ledger maxAllowedCallers}
    (hconserved : Conserved config.balances deposit start traffic)
    (move : Move Account RuntimeCall maxAllowedCallers) :
    Conserved config.balances deposit start (step config traffic move).2 := by
  obtain ⟨hbacked, emitted', hevents', hissued'⟩ :=
    issuance_step hsound hconserved.backed move
  refine ⟨?_, hbacked, ?_⟩
  · intro who
    obtain ⟨emitted, haccounted⟩ := hconserved.accounted who
    rcases view_step_cases hsound traffic move who with hown | hother
    · rw [hown]
      exact accounted_viewStep haccounted move
    · rw [hother]
      exact ⟨emitted, haccounted⟩
  · obtain ⟨emitted, hevents, hissued⟩ := hconserved.issued
    refine ⟨emitted ++ emitted', by rw [hevents', hevents, List.append_assoc], ?_⟩
    simp only [feesPaid, List.map_append, List.sum_append] at hissued hissued' ⊢
    omega

/-- Every run keeps the accounts. Assumes: an exact ledger, burned fees, and a genesis. -/
theorem conserved_runState (hsound : config.Sound deposit)
    {start : PalletState Account Ledger maxAllowedCallers}
    (hgenesis : Genesis config.balances start)
    (moves : List (Move Account RuntimeCall maxAllowedCallers)) :
    Conserved config.balances deposit ⟨start, []⟩ (runState (step config) ⟨start, []⟩ moves) :=
  runState_invariant (P := Conserved config.balances deposit ⟨start, []⟩)
    (fun _ move _ hconserved ↦ conserved_step hsound hconserved move) (conserved_start hgenesis)

/-- If all events grew by `emitted` and those about an account grew by `own`, then `own` are the
events about it among `emitted`. -/
theorem eventsAbout_eq_of_append {who : Account} {before after emitted own : List (Event Account)}
    (hevents : after = before ++ emitted)
    (hown : eventsAbout who after = eventsAbout who before ++ own) :
    eventsAbout who emitted = own := by
  rw [hevents, eventsAbout_append] at hown
  exact List.append_cancel_left hown

/-- Overlapping flights are accounted for. Assumes: an exact ledger, burned fees, and a start
without sponsors and sponsorship holds. After any sequence of lifecycle calls, preparations and
settlements, with any number of flights on any sponsors, the events emitted since the start replay,
for every account, to whether it is registered, its active flag and the sum of its two holds,
without a subtraction below zero; its total balance and the fees it was charged add up to the total
balance it started with; and so do the total issuance and all the fees. -/
theorem overlapping_runs_account (hsound : config.Sound deposit)
    {start : PalletState Account Ledger maxAllowedCallers}
    (hgenesis : Genesis config.balances start)
    (moves : List (Move Account RuntimeCall maxAllowedCallers)) :
    let final := (runState (step config) ⟨start, []⟩ moves).state
    ∃ emitted, final.events = start.events ++ emitted ∧
      (∀ who, replay who emitted = some (lineOf (slotOf config.balances final who))) ∧
      (∀ who, (config.balances.account final.ledger who).total + chargedTo who emitted =
        (config.balances.account start.ledger who).total) ∧
      config.balances.totalIssuance final.ledger + feesPaid emitted =
        config.balances.totalIssuance start.ledger := by
  intro final
  have hconserved := conserved_runState hsound hgenesis moves
  obtain ⟨emitted, hevents, hissued⟩ := hconserved.issued
  have habout : ∀ who, Accounted deposit (view config.balances who ⟨start, []⟩)
      (view config.balances who (runState (step config) ⟨start, []⟩ moves))
      (eventsAbout who emitted) := by
    intro who
    obtain ⟨own, haccounted⟩ := hconserved.accounted who
    have hown : eventsAbout who emitted = own :=
      eventsAbout_eq_of_append hevents haccounted.events
    rwa [hown]
  exact ⟨emitted, hevents, fun who ↦ (habout who).replayed, fun who ↦ (habout who).conserved,
    hissued⟩

/-- In the run of the test runtime in which two flights on sponsor 1 overlap, it is charged once and
its total balance of 1,000 is accounted for. -/
theorem overlapping_runs_account_overlappingMoves :
    ∃ emitted,
      (runState (step mockConfig) ⟨mockState, []⟩ overlappingMoves).state.events = emitted ∧
      chargedTo 1 emitted = 5 ∧
      (mockBalances.account
        (runState (step mockConfig) ⟨mockState, []⟩ overlappingMoves).state.ledger 1).total +
          chargedTo 1 emitted = 1000 := by
  obtain ⟨emitted, hevents, -, hconserved, -⟩ :=
    overlapping_runs_account mockConfig_sound mockState_genesis overlappingMoves
  obtain rfl :
      (runState (step mockConfig) ⟨mockState, []⟩ overlappingMoves).state.events = emitted :=
    hevents
  exact ⟨_, rfl, by decide, hconserved 1⟩

/-! ### The way back -/

/-- The settlement of one ticket of a sponsor. -/
structure Settlement where
  ticket : ℕ
  fees : TransactionPayment
  post : PostDispatchInfo
  result : Except DispatchError Unit

/-- The move of a settlement. -/
def Settlement.move (settlement : Settlement) (sponsor : Account) :
    Move Account RuntimeCall maxAllowedCallers :=
  .settle settlement.ticket sponsor settlement.fees settlement.post settlement.result

/-- After a settlement the flights on its sponsor are those with other tickets. -/
theorem flightsOn_step_settlement (traffic : Traffic Account Ledger maxAllowedCallers)
    (settlement : Settlement) (sponsor : Account) :
    flightsOn sponsor (step config traffic (settlement.move sponsor)).2.inFlight =
      (flightsOn sponsor traffic.inFlight).filter fun flight ↦
        flight.ticket ≠ settlement.ticket := by
  have hother : flightsOn sponsor (traffic.inFlight.filter fun flight ↦
      ¬ flight.isTicket sponsor settlement.ticket) =
        (flightsOn sponsor traffic.inFlight).filter fun flight ↦
          flight.ticket ≠ settlement.ticket := by
    simp only [flightsOn, List.filter_filter, Prepared.isTicket]
    refine List.filter_congr fun flight _ ↦ ?_
    by_cases hsponsor : flight.sponsor = sponsor <;> simp [hsponsor]
  unfold Settlement.move
  cases hfind : traffic.inFlight.find? fun flight ↦
      flight.isTicket sponsor settlement.ticket with
  | some flight => rw [step_settle_of_some hfind, hother]
  | none =>
    rw [step_settle_of_none hfind, ← hother]
    congr 1
    refine (List.filter_eq_self.mpr fun flight hflight ↦ ?_).symm
    simpa using List.find?_eq_none.mp hfind flight hflight

/-- Settlements that cover the tickets of a sponsor end all flights on it. -/
theorem flightsOn_runState_settlements (settlements : List Settlement) (sponsor : Account)
    {traffic : Traffic Account Ledger maxAllowedCallers}
    (hcover : ∀ flight ∈ flightsOn sponsor traffic.inFlight,
      ∃ settlement ∈ settlements, settlement.ticket = flight.ticket) :
    flightsOn sponsor (runState (step config) traffic
      (settlements.map fun settlement ↦ settlement.move sponsor)).inFlight = [] := by
  induction settlements generalizing traffic with
  | nil =>
    refine List.eq_nil_iff_forall_not_mem.mpr fun flight hflight ↦ ?_
    simpa using hcover flight hflight
  | cons settlement rest ih =>
    refine ih fun flight hflight ↦ ?_
    rw [flightsOn_step_settlement] at hflight
    obtain ⟨hmem, hticket⟩ := List.mem_filter.mp hflight
    obtain ⟨other, hother, heq⟩ := hcover flight hmem
    rcases List.mem_cons.mp hother with rfl | hrest
    · simp [heq] at hticket
    · exact ⟨other, hrest, heq⟩

/-- Between two slots, some settlements were made: the entry and the free balance are the same, the
budget hold did not fall, and the two holds together did not rise. -/
structure Drained (before after : Slot Account maxAllowedCallers) : Prop where
  entry : after.entry = before.entry
  free : after.account.free = before.account.free
  budget : before.budget ≤ after.budget
  holds : after.budget + after.pending ≤ before.budget + before.pending

/-- A settlement drains the slot of its sponsor. -/
theorem drained_viewStep_settlement {sponsor : Account} {before : Slot Account maxAllowedCallers}
    {view : View Account maxAllowedCallers}
    (hescrowed : Escrowed deposit view.slot.pending view.slot) (hdrained : Drained before view.slot)
    (settlement : Settlement) :
    Drained before (viewStep deposit sponsor view
      (settlement.move sponsor : Move Account RuntimeCall maxAllowedCallers)).2.slot := by
  simp only [Settlement.move, viewStep]
  split
  · exact hdrained
  · obtain ⟨hentry, hfree, hbudget, hholds⟩ := hdrained
    simp only [View.settled, settledAccount_of_escrowed hescrowed]
    refine ⟨hentry, ?_, ?_, ?_⟩
    · simpa using hfree
    · simp only [Slot.budget, budget_withSettled] at hbudget ⊢
      omega
    · simp only [Slot.budget, Slot.pending, budget_withSettled, pending_withSettled] at hholds ⊢
      omega

/-- Any settlements of a sponsor drain its slot. -/
theorem drained_runState_settlements (hsound : config.Sound deposit)
    {traffic : Traffic Account Ledger maxAllowedCallers}
    (hfunded : Funded config.balances deposit traffic) (settlements : List Settlement)
    (sponsor : Account) :
    Drained (slotOf config.balances traffic.state sponsor)
      (slotOf config.balances (runState (step config) traffic
        (settlements.map fun settlement ↦ settlement.move sponsor)).state sponsor) := by
  refine view_runState_invariant (P := fun view ↦
    Drained (slotOf config.balances traffic.state sponsor) view.slot) hsound ?_ hfunded
    ⟨rfl, rfl, le_rfl, le_rfl⟩
  intro view move hmove _ hescrowed hdrained
  obtain ⟨settlement, -, rfl⟩ := List.mem_map.mp hmove
  exact drained_viewStep_settlement hescrowed hdrained settlement

/-- Overlapping flights strand nothing. Assumes: an exact ledger, burned fees, and a start without
sponsors and sponsorship holds. After any run the pending hold of every account is at most the sum
of the estimates in flight on it. A registered sponsor, active or paused, whose flights are then
settled in any order, with any fees, reports and results, can `unregister`: the call succeeds,
removes the entry, leaves both holds empty and hands back at least the budget hold and at most both
holds of the moment before the settlements. -/
theorem overlapping_runs_release (hsound : config.Sound deposit)
    {start : PalletState Account Ledger maxAllowedCallers}
    (hgenesis : Genesis config.balances start)
    (moves : List (Move Account RuntimeCall maxAllowedCallers)) (sponsor : Account) :
    let final := runState (step config) ⟨start, []⟩ moves
    pendingOnHold config.balances final.state sponsor ≤
        estimates (flightsOn sponsor final.inFlight) ∧
      ∀ settlements : List Settlement, (final.state.sponsors sponsor).isSome →
        (∀ flight ∈ flightsOn sponsor final.inFlight,
          ∃ settlement ∈ settlements, settlement.ticket = flight.ticket) →
        ∃ after, dispatch config.balances (.signed sponsor) .unregister
            (runState (step config) final
              (settlements.map fun settlement ↦ settlement.move sponsor)).state = .ok ⟨⟩ after ∧
          after.sponsors sponsor = none ∧
          budgetOnHold config.balances after sponsor = 0 ∧
          pendingOnHold config.balances after sponsor = 0 ∧
          (config.balances.account final.state.ledger sponsor).free +
              budgetOnHold config.balances final.state sponsor ≤
            (config.balances.account after.ledger sponsor).free ∧
          (config.balances.account after.ledger sponsor).free ≤
            (config.balances.account final.state.ledger sponsor).free +
              (budgetOnHold config.balances final.state sponsor +
                pendingOnHold config.balances final.state sponsor) := by
  intro final
  obtain ⟨emitted, haccounted⟩ := (conserved_runState hsound hgenesis moves).accounted sponsor
  refine ⟨haccounted.bounded, ?_⟩
  intro settlements hregistered hcover
  let drained := runState (step config) final
    (settlements.map fun settlement ↦ settlement.move sponsor)
  have hend : Conserved config.balances deposit ⟨start, []⟩ drained := by
    have hrun := conserved_runState hsound hgenesis
      (moves ++ settlements.map fun settlement ↦ settlement.move sponsor)
    rwa [runState_append] at hrun
  -- With no flight left, nothing is pending.
  obtain ⟨emitted', haccounted'⟩ := hend.accounted sponsor
  have hpending : (slotOf config.balances drained.state sponsor).pending = 0 := by
    have hbounded := haccounted'.bounded
    have hflights : (view config.balances sponsor drained).flights = [] :=
      flightsOn_runState_settlements settlements sponsor hcover
    rw [hflights] at hbounded
    exact Nat.le_zero.mp hbounded
  have hfunded := (conserved_runState hsound hgenesis moves).funded
  obtain ⟨hentry, hfree, hbudget, hholds⟩ :=
    drained_runState_settlements hsound hfunded settlements sponsor
  have hescrowed : Escrowed deposit 0 (slotOf config.balances drained.state sponsor) := by
    have hslot : Escrowed deposit (slotOf config.balances drained.state sponsor).pending
        (slotOf config.balances drained.state sponsor) := hend.funded sponsor
    rwa [hpending] at hslot
  obtain ⟨after, hok, hgone, hbudget', hpending', hreturned⟩ :=
    unregister_of_escrowed hsound hescrowed (hentry ▸ hregistered)
  refine ⟨after, hok, hgone, hbudget', hpending', ?_, ?_⟩
  · rw [hreturned, hfree]
    exact Nat.add_le_add_left hbudget _
  · rw [hreturned, hfree]
    rw [hpending, Nat.add_zero] at hholds
    exact Nat.add_le_add_left hholds _

/-- Two flights on sponsor 1 of the test runtime, of which the second was prepared last and is
settled first. -/
theorem overlapping_runs_release_overlappingMoves :
    let final := runState (step mockConfig) ⟨mockState, []⟩ (overlappingMoves.take 3)
    let settlements : List Settlement :=
      [⟨1, mockFees, mockPost, .ok ()⟩, ⟨0, mockFees, mockPost, .ok ()⟩]
    pendingOnHold mockBalances final.state 1 = 10 ∧
      ∃ after, dispatch mockBalances (.signed 1) .unregister (runState (step mockConfig) final
          (settlements.map fun settlement ↦ settlement.move 1)).state = .ok ⟨⟩ after ∧
        990 ≤ (mockBalances.account after.ledger 1).free ∧
        (mockBalances.account after.ledger 1).free ≤ 1000 := by
  intro final settlements
  obtain ⟨after, hok, -, -, -, hleast, hmost⟩ := (overlapping_runs_release mockConfig_sound
    mockState_genesis (overlappingMoves.take 3) 1).2 settlements (by decide) (by decide)
  exact ⟨by decide, after, hok, hleast, hmost⟩

end SponsoredTx.Overlap
