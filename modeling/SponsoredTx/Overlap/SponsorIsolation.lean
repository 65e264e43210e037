import SponsoredTx.Overlap.FlightRuns

/-!
# Sponsors do not interfere with each other

`unwinds_view` is the unwinding argument for one sponsor: moves of others are invisible in its
view, and its view determines the results of its own moves and the view after them.
`sponsor_isolation` is the consequence for runs of any length from any state: the moves of all
other sponsors can be deleted without a difference to this one. Roles may be shared freely, because
no move looks at the account of the signer: `validate` reads the slot of the sponsor and compares
the signer with its allowlist.
-/

set_option autoImplicit false
set_option relaxedAutoImplicit false

namespace SponsoredTx.Overlap

open Foundation.HoldLedger Foundation.Runs Pallet Extension

variable {Account Ledger RuntimeCall BaseVal BasePre : Type} {maxAllowedCallers : ℕ}
  [DecidableEq Account] {config : Config Account Ledger RuntimeCall BaseVal BasePre} {deposit : ℕ}

/-- The move concerns the sponsor: it is its own call, or a transaction that names it. -/
def concerns (sponsor : Account) (move : Move Account RuntimeCall maxAllowedCallers) : Bool :=
  move.sponsor = some sponsor

/-- The view of one sponsor satisfies the unwinding conditions. Assumes: an exact ledger and burned
fees. -/
theorem unwinds_view (hsound : config.Sound deposit) (sponsor : Account) :
    Unwinds (step config : Traffic Account Ledger maxAllowedCallers →
        Move Account RuntimeCall maxAllowedCallers → Outcome × _) (concerns sponsor)
      (view config.balances sponsor) where
  invisible := fun traffic move hmove ↦
    view_step_of_not_concerns hsound traffic move (by simpa [concerns] using hmove)
  determined := by
    intro traffic traffic' move hmove hview
    have hsponsor : move.sponsor = some sponsor := by simpa [concerns] using hmove
    have hfirst := view_step_of_concerns hsound traffic move hsponsor
    have hsecond := view_step_of_concerns hsound traffic' move hsponsor
    rw [hview, ← hsecond] at hfirst
    exact Prod.ext_iff.mp hfirst

/-- Sponsor isolation. Assumes: an exact ledger and burned fees. From any state and for any
sequence of lifecycle calls, preparations and settlements with overlapping flights, deleting every
move that concerns another sponsor changes neither the result of any remaining move, nor the final
entry of the sponsor, its two sponsorship holds and its free balance, nor the events about it. -/
theorem sponsor_isolation (hsound : config.Sound deposit) (sponsor : Account)
    (traffic : Traffic Account Ledger maxAllowedCallers)
    (moves : List (Move Account RuntimeCall maxAllowedCallers)) :
    let own := moves.filter (concerns sponsor)
    let final := (runState (step config) traffic moves).state
    let finalOwn := (runState (step config) traffic own).state
    outputs (step config) (concerns sponsor) traffic moves =
        outputs (step config) (fun _ ↦ true) traffic own ∧
      final.sponsors sponsor = finalOwn.sponsors sponsor ∧
      budgetOnHold config.balances final sponsor = budgetOnHold config.balances finalOwn sponsor ∧
      pendingOnHold config.balances final sponsor =
        pendingOnHold config.balances finalOwn sponsor ∧
      (config.balances.account final.ledger sponsor).free =
        (config.balances.account finalOwn.ledger sponsor).free ∧
      eventsAbout sponsor final.events = eventsAbout sponsor finalOwn.events := by
  intro own final finalOwn
  obtain ⟨houtputs, hview⟩ := (unwinds_view hsound sponsor).purge moves (rfl :
    view config.balances sponsor traffic = view config.balances sponsor traffic)
  have hslot : slotOf config.balances final sponsor = slotOf config.balances finalOwn sponsor :=
    congrArg View.slot hview
  refine ⟨houtputs, congrArg Slot.entry hslot, congrArg Slot.budget hslot,
    congrArg Slot.pending hslot, congrArg (fun slot ↦ slot.account.free) hslot,
    congrArg View.events hview⟩

/-- In the test runtime, sponsor 1 pays for account 2 while it signs a transaction that sponsor 3
pays for. -/
def mockMoves : List (Move ℕ Unit 8) :=
  [.call (.signed 1) (.registerSponsor 100 mockSponsorPolicy),
    .call (.signed 3) (.registerSponsor 200 (mockPolicy [1, 2] (by decide) 50)),
    .prepare 0 1 mockFees 3 (.signed 2) () mockInfo 0,
    .prepare 0 3 mockFees 0 (.signed 1) () mockInfo 0,
    .settle 0 3 mockFees mockPost (.ok ()),
    .settle 0 1 mockFees mockPost (.ok ())]

/-- Without the three moves of sponsor 3, sponsor 1 ends with the same budget of 95. -/
theorem sponsor_isolation_mockMoves :
    (mockMoves.filter (concerns 1)).length = 3 ∧
      budgetOnHold mockBalances (runState (step mockConfig) ⟨mockState, []⟩ mockMoves).state 1 =
        budgetOnHold mockBalances (runState (step mockConfig) ⟨mockState, []⟩
          (mockMoves.filter (concerns 1))).state 1 ∧
      budgetOnHold mockBalances (runState (step mockConfig) ⟨mockState, []⟩ mockMoves).state 1 =
        95 :=
  ⟨by decide, (sponsor_isolation mockConfig_sound 1 ⟨mockState, []⟩ mockMoves).2.2.1, by decide⟩

end SponsoredTx.Overlap
