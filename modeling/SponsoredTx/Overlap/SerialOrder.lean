import SponsoredTx.Overlap.OverlapConservation
import SponsoredTx.Overlap.SponsorIsolation

/-!
# The order in which sponsors take turns does not matter

Isolation is about one sponsor. Here the sponsors are put together again: two interleavings in which
every sponsor makes the same moves in the same order end in the same state. `Emits` is the part of
the state that has no owner. The credits and the issuance are functions of the events alone, so they
agree as soon as the events agree as a multiset, and the events do because each of them is about one
sponsor (`perm_of_forall_filter_eq`).

`interleavings_agree` is the result, for every state and all sequences of moves. With
`filter_serialMoves` every interleaving has the effect of the serial order in which the sponsors
take turns, each with all its moves.
-/

set_option autoImplicit false
set_option relaxedAutoImplicit false

namespace SponsoredTx.Overlap

open Foundation.HoldLedger Foundation.Runs Pallet Extension Chain

variable {Account Ledger RuntimeCall BaseVal BasePre : Type} {maxAllowedCallers : ℕ}
  [DecidableEq Account] {config : Config Account Ledger RuntimeCall BaseVal BasePre} {deposit : ℕ}

/-! ### The part of the state without an owner -/

/-- Between two states the given events were deposited, their credits were routed, and their fees
left the issuance. -/
structure Emits (balances : Balances Account HoldReason Ledger)
    (before : PalletState Account Ledger maxAllowedCallers) (emitted : List (Event Account))
    (after : PalletState Account Ledger maxAllowedCallers) : Prop where
  events : after.events = before.events ++ emitted
  routed : after.routed = before.routed ++ emitted.filterMap creditOf
  totalIssuance : balances.totalIssuance after.ledger =
    balances.totalIssuance before.ledger - feesPaid emitted

omit [DecidableEq Account] in
/-- Nothing happened. -/
theorem Emits.refl (balances : Balances Account HoldReason Ledger)
    (st : PalletState Account Ledger maxAllowedCallers) : Emits balances st [] st where
  events := (List.append_nil _).symm
  routed := (List.append_nil _).symm
  totalIssuance := rfl

omit [DecidableEq Account] in
/-- One after the other. -/
theorem Emits.trans {balances : Balances Account HoldReason Ledger}
    {first second third : PalletState Account Ledger maxAllowedCallers}
    {emitted emitted' : List (Event Account)} (hfirst : Emits balances first emitted second)
    (hsecond : Emits balances second emitted' third) :
    Emits balances first (emitted ++ emitted') third where
  events := by rw [hsecond.events, hfirst.events, List.append_assoc]
  routed := by rw [hsecond.routed, hfirst.routed, List.filterMap_append, List.append_assoc]
  totalIssuance := by
    rw [hsecond.totalIssuance, hfirst.totalIssuance]
    simp only [feesPaid, List.map_append, List.sum_append]
    omega

/-- Every move emits some events. Assumes: an exact ledger and burned fees. -/
theorem emits_step (hsound : config.Sound deposit)
    (traffic : Traffic Account Ledger maxAllowedCallers)
    (move : Move Account RuntimeCall maxAllowedCallers) :
    ∃ emitted, Emits config.balances traffic.state emitted (step config traffic move).2.state := by
  rcases step_footprint hsound traffic move with
    hsame | ⟨who, slot, emitted, hadvances, -, hfree⟩ |
      ⟨sponsor, signer, account, charged, tip, lines, hsettles, -⟩
  · exact ⟨[], hsame ▸ Emits.refl config.balances traffic.state⟩
  · refine ⟨emitted, hadvances.events, ?_, ?_⟩
    · have hcredits : emitted.filterMap creditOf = [] :=
        List.filterMap_eq_nil_iff.mpr fun event hevent ↦ (hfree event hevent).2
      rw [hcredits, List.append_nil]
      exact hadvances.routed
    · have hfees : feesPaid emitted = 0 := by
        rw [feesPaid, List.sum_eq_zero_iff_forall_eq_nat, List.forall_mem_map]
        exact fun event hevent ↦ (hfree event hevent).1
      rw [hfees, Nat.sub_zero]
      exact hadvances.totalIssuance
  · exact ⟨_, hsettles.events, hsettles.routed, hsettles.totalIssuance⟩

/-- Every run emits some events. Assumes: an exact ledger and burned fees. -/
theorem emits_runState (hsound : config.Sound deposit)
    (traffic : Traffic Account Ledger maxAllowedCallers)
    (moves : List (Move Account RuntimeCall maxAllowedCallers)) :
    ∃ emitted, Emits config.balances traffic.state emitted
      (runState (step config) traffic moves).state := by
  refine runState_invariant (P := fun final : Traffic Account Ledger maxAllowedCallers ↦
    ∃ emitted, Emits config.balances traffic.state emitted final.state) ?_ ⟨[], Emits.refl _ _⟩
  rintro final move - ⟨emitted, hemits⟩
  obtain ⟨emitted', hemits'⟩ := emits_step hsound final move
  exact ⟨emitted ++ emitted', hemits.trans hemits'⟩

omit [DecidableEq Account] in
/-- Events that agree up to their order leave the same issuance, and the same credits up to their
order. -/
theorem Emits.agree {balances : Balances Account HoldReason Ledger}
    {before after after' : PalletState Account Ledger maxAllowedCallers}
    {emitted emitted' : List (Event Account)} (hemits : Emits balances before emitted after)
    (hemits' : Emits balances before emitted' after') (hperm : after.events.Perm after'.events) :
    after.routed.Perm after'.routed ∧
      balances.totalIssuance after.ledger = balances.totalIssuance after'.ledger := by
  have hsame : emitted.Perm emitted' := by
    rw [hemits.events, hemits'.events] at hperm
    exact (List.perm_append_left_iff _).mp hperm
  constructor
  · rw [hemits.routed, hemits'.routed]
    exact (hsame.filterMap creditOf).append_left _
  · rw [hemits.totalIssuance, hemits'.totalIssuance, feesPaid, feesPaid,
      (hsame.map feeOf).sum_eq]

/-! ### Two interleavings -/

/-- Two states that no sponsor can tell apart, and that agree in what has no owner: the same
entries, accounts and issuance, and the same events, credits and flights up to the order between
sponsors. -/
structure Agree (balances : Balances Account HoldReason Ledger)
    (traffic traffic' : Traffic Account Ledger maxAllowedCallers) : Prop where
  sponsors : traffic.state.sponsors = traffic'.state.sponsors
  accounts : balances.account traffic.state.ledger = balances.account traffic'.state.ledger
  totalIssuance : balances.totalIssuance traffic.state.ledger =
    balances.totalIssuance traffic'.state.ledger
  eventsAbout : ∀ sponsor, Pallet.eventsAbout sponsor traffic.state.events =
    Pallet.eventsAbout sponsor traffic'.state.events
  events : traffic.state.events.Perm traffic'.state.events
  routed : traffic.state.routed.Perm traffic'.state.routed
  flightsOn : ∀ sponsor, Overlap.flightsOn sponsor traffic.inFlight =
    Overlap.flightsOn sponsor traffic'.inFlight
  inFlight : traffic.inFlight.Perm traffic'.inFlight

/-- Interleavings agree. Assumes: an exact ledger and burned fees. From any state, take two
sequences of lifecycle calls, preparations and settlements in which every sponsor makes the same
moves in the same order, interleaved in any way. Then every move of every sponsor has the same
result in both, and the final states agree: in all entries, accounts and holds, in the total
issuance, and up to the order between sponsors in the events, the routed credits and the
flights. -/
theorem interleavings_agree (hsound : config.Sound deposit)
    (traffic : Traffic Account Ledger maxAllowedCallers)
    {moves moves' : List (Move Account RuntimeCall maxAllowedCallers)}
    (hsame : ∀ sponsor, moves.filter (concerns sponsor) = moves'.filter (concerns sponsor)) :
    (∀ sponsor, outputs (step config) (concerns sponsor) traffic moves =
      outputs (step config) (concerns sponsor) traffic moves') ∧
    Agree config.balances (runState (step config) traffic moves)
      (runState (step config) traffic moves') := by
  have hagree := fun sponsor ↦ (unwinds_view hsound sponsor).agree (hsame sponsor) traffic
  have hslot := fun sponsor ↦ congrArg View.slot (hagree sponsor).2
  have habout := fun sponsor ↦ congrArg View.events (hagree sponsor).2
  have hflights := fun sponsor ↦ congrArg View.flights (hagree sponsor).2
  have hevents := perm_of_forall_filter_eq Event.sponsor habout
  obtain ⟨emitted, hemits⟩ := emits_runState hsound traffic moves
  obtain ⟨emitted', hemits'⟩ := emits_runState hsound traffic moves'
  obtain ⟨hrouted, hissuance⟩ := hemits.agree hemits' hevents
  refine ⟨fun sponsor ↦ (hagree sponsor).1, ?_⟩
  exact
    { sponsors := funext fun sponsor ↦ congrArg Slot.entry (hslot sponsor)
      accounts := funext fun sponsor ↦ congrArg Slot.account (hslot sponsor)
      totalIssuance := hissuance
      eventsAbout := habout
      events := hevents
      routed := hrouted
      flightsOn := hflights
      inFlight := perm_of_forall_filter_eq Prepared.sponsor hflights }

/-- The moves sponsor by sponsor. -/
def serialMoves (moves : List (Move Account RuntimeCall maxAllowedCallers)) :
    List (Move Account RuntimeCall maxAllowedCallers) :=
  serial Move.sponsor moves

/-- In the serial order every sponsor makes its moves in its own order. -/
theorem filter_serialMoves (moves : List (Move Account RuntimeCall maxAllowedCallers))
    (sponsor : Account) :
    (serialMoves moves).filter (concerns sponsor) = moves.filter (concerns sponsor) :=
  filter_serial Move.sponsor moves sponsor

/-- In the test runtime the flights of the sponsors 1 and 3 overlap; in the serial order sponsor 3
is done before sponsor 1 begins, and everything is the same in the end. -/
theorem interleavings_agree_mockMoves :
    (serialMoves mockMoves).map Move.sponsor =
        [some 3, some 3, some 3, some 1, some 1, some 1] ∧
      mockMoves.map Move.sponsor = [some 1, some 3, some 1, some 3, some 3, some 1] ∧
      Agree mockBalances (runState (step mockConfig) ⟨mockState, []⟩ mockMoves)
        (runState (step mockConfig) ⟨mockState, []⟩ (serialMoves mockMoves)) :=
  ⟨by decide, by decide, (interleavings_agree mockConfig_sound ⟨mockState, []⟩
    fun sponsor ↦ (filter_serialMoves mockMoves sponsor).symm).2⟩

end SponsoredTx.Overlap
