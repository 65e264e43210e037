import SponsoredTx.Overlap.OverlapConservation
import SponsoredTx.Pallet.WireFormat

/-!
# What the pallet writes can be read back

Balances are natural numbers in this model and 128-bit numbers in the runtime, and the storage and
the events hold bytes. This module closes the gap for whole runs. `Bounded` is the invariant of the
view of one sponsor: its total balance never grows, and no event about it names an amount above the
balance it started with. `SlotFits` is the invariant of its entry: the policy came out of the
decoder, so it fits.

`written_state_decodes` is the result: if the initial issuance fits into 128 bits and the calls of a
run came out of the decoder, then after any number of overlapping flights no balance has outgrown
128 bits, and every event and every entry of `Sponsors` decodes to what was written.
-/

set_option autoImplicit false
set_option relaxedAutoImplicit false

namespace SponsoredTx.Overlap

open Foundation.ByteCodec Foundation.ExactCodec Foundation.StrictScale Foundation.HoldLedger
  Foundation.Runs Pallet Extension Chain

variable {Account Ledger RuntimeCall BaseVal BasePre : Type} {maxAllowedCallers : ℕ}
  [DecidableEq Account] {config : Config Account Ledger RuntimeCall BaseVal BasePre} {deposit : ℕ}

/-! ### Amounts in events -/

/-- The amounts an event names. -/
def amountsOf : Event Account → List ℕ
  | .sponsorRegistered _ initialBudget => [initialBudget]
  | .budgetIncreased _ amount newBudget => [amount, newBudget]
  | .budgetDecreased _ amount newBudget => [amount, newBudget]
  | .sponsorPolicyUpdated _ => []
  | .sponsorPaused _ => []
  | .sponsorResumed _ => []
  | .sponsorUnregistered _ => []
  | .sponsoredTransactionFeePaid _ _ actualFee tip => [actualFee, tip]

omit [DecidableEq Account] in
/-- An event fits if its amounts do. -/
theorem fits_of_amountsOf {event : Event Account}
    (hamounts : ∀ amount ∈ amountsOf event, amount < 2 ^ 128) : event.Fits := by
  cases event <;> simp_all [amountsOf, Event.Fits]

omit [DecidableEq Account] in
/-- The free balance and the budget hold are parts of the total balance. -/
theorem free_add_budget_le_total (slot : Slot Account maxAllowedCallers) :
    slot.account.free + slot.budget ≤ slot.account.total := by
  have hbudget : slot.budget ≤ ∑ reason, slot.account.onHold reason :=
    Finset.single_le_sum (f := slot.account.onHold) (fun _ _ ↦ Nat.zero_le _) (Finset.mem_univ _)
  simp only [AccountData.total]
  omega

/-- An accepted call announces amounts that its signer owns. -/
theorem amountsOf_announcement_le {slot : Slot Account maxAllowedCallers}
    {call : Call Account maxAllowedCallers} (haccepts : slot.Accepts deposit call)
    (sponsor : Account) :
    ∀ amount ∈ amountsOf (slot.announcement sponsor call), amount ≤ slot.account.total := by
  have howned := free_add_budget_le_total slot
  cases call with
  | registerSponsor initialBudget policy =>
    have hfree : initialBudget ≤ slot.account.free - deposit := haccepts.2.2.2.2
    rw [Slot.announcement, amountsOf, List.forall_mem_singleton]
    omega
  | increaseBudget amount =>
    have hfree : amount ≤ slot.account.free - deposit := haccepts.2.2.2
    rw [Slot.announcement, amountsOf, List.forall_mem_cons, List.forall_mem_singleton]
    omega
  | decreaseBudget amount =>
    have hbudget : amount ≤ slot.budget := haccepts.2.2.1
    rw [Slot.announcement, amountsOf, List.forall_mem_cons, List.forall_mem_singleton]
    omega
  | setPolicy policy => simp [Slot.announcement, amountsOf]
  | pause => simp [Slot.announcement, amountsOf]
  | resume => simp [Slot.announcement, amountsOf]
  | unregister => simp [Slot.announcement, amountsOf]

/-! ### The invariants of one view -/

/-- The account of a view owns at most a given amount, and no event since the start names more. -/
structure Bounded (limit : ℕ) (start view : View Account maxAllowedCallers) : Prop where
  total_le : view.slot.account.total ≤ limit
  events : ∃ emitted, view.events = start.events ++ emitted ∧
    ∀ event ∈ emitted, ∀ amount ∈ amountsOf event, amount ≤ limit

/-- A stored policy fits. -/
def SlotFits (slot : Slot Account maxAllowedCallers) : Prop :=
  ∀ state, slot.entry = some state → state.Fits

section View

variable {limit : ℕ} {start view : View Account maxAllowedCallers} {sponsor : Account}

omit [DecidableEq Account] in
/-- A change of the account that does not raise its total balance and is announced by one event
within it keeps the bound. -/
theorem Bounded.announce (hbounded : Bounded limit start view)
    {slot : Slot Account maxAllowedCallers} {event : Event Account}
    (htotal : slot.account.total ≤ view.slot.account.total)
    (hamounts : ∀ amount ∈ amountsOf event, amount ≤ view.slot.account.total)
    (flights : List (Prepared Account)) :
    Bounded limit start ⟨slot, view.events ++ [event], flights⟩ := by
  obtain ⟨emitted, hevents, hemitted⟩ := hbounded.events
  refine ⟨htotal.trans hbounded.total_le, emitted ++ [event], ?_, ?_⟩
  · rw [hevents, List.append_assoc]
  · rw [List.forall_mem_append, List.forall_mem_singleton]
    exact ⟨hemitted, fun amount hamount ↦ (hamounts amount hamount).trans hbounded.total_le⟩

/-- Every move keeps the bound of the view it concerns. -/
theorem bounded_viewStep (hbounded : Bounded limit start view)
    (move : Move Account RuntimeCall maxAllowedCallers) :
    Bounded limit start (viewStep deposit sponsor view move).2 := by
  cases move with
  | call origin call =>
    simp only [viewStep]
    cases hrefusal : view.slot.refusal deposit call with
    | some e => exact hbounded
    | none =>
      have haccepts := (Slot.refusal_eq_none_iff _ _ _).mp hrefusal
      exact hbounded.announce (Slot.total_after _ haccepts).le
        (amountsOf_announcement_le haccepts sponsor) _
  | prepare ticket named fees tip origin call info len =>
    have hreserved : ∀ amount, (reserve deposit view.slot.account amount).2.total ≤ limit := by
      intro amount
      rw [total_reserve]
      exact hbounded.total_le
    simp only [viewStep]
    split_ifs
    · exact hbounded
    · cases admission view.slot origin (fees.computeFee (UInt32.ofNat len) info tip) with
      | error e => exact hbounded
      | ok signer =>
        dsimp only
        split <;> exact ⟨hreserved _, hbounded.events⟩
  | settle ticket named fees post result =>
    simp only [viewStep]
    split
    · exact hbounded
    · next flight _ =>
      have hcharged : chargedOf (fees.computeActualFee (UInt32.ofNat flight.len) flight.info post
          flight.tip) flight.estimatedFeeWithTip view.slot.pending ≤ view.slot.pending :=
        min_le_right _ _
      have hpending := AccountData.onHold_le_total view.slot.account .sponsorshipPending
      have htotal := total_settledAccount deposit flight.sponsor hcharged
      apply hbounded.announce
      · exact Nat.le.intro htotal
      · rw [amountsOf, List.forall_mem_cons, List.forall_mem_singleton]
        exact ⟨hcharged.trans hpending, (min_le_right _ _).trans (hcharged.trans hpending)⟩

/-- A move whose call fits keeps the stored policy of the view it concerns fitting. -/
theorem slotFits_viewStep (hfits : SlotFits view.slot)
    {move : Move Account RuntimeCall maxAllowedCallers}
    (hcall : ∀ origin call, move = .call origin call → call.Fits) :
    SlotFits (viewStep deposit sponsor view move).2.slot := by
  cases move with
  | call origin call =>
    have hargument := hcall origin call rfl
    simp only [viewStep]
    cases hrefusal : view.slot.refusal deposit call with
    | some e => exact hfits
    | none =>
      intro state hstate
      cases call with
      | registerSponsor initialBudget policy =>
        obtain rfl := Option.some.inj hstate
        exact hargument.2
      | increaseBudget amount => exact hfits state hstate
      | decreaseBudget amount => exact hfits state hstate
      | setPolicy policy =>
        obtain ⟨old, -, rfl⟩ := Option.map_eq_some_iff.mp hstate
        exact hargument
      | pause =>
        obtain ⟨old, hold, rfl⟩ := Option.map_eq_some_iff.mp hstate
        exact hfits old hold
      | resume =>
        obtain ⟨old, hold, rfl⟩ := Option.map_eq_some_iff.mp hstate
        exact hfits old hold
      | unregister => exact absurd hstate (Option.some_ne_none state).symm
  | prepare ticket named fees tip origin call info len =>
    simp only [viewStep]
    split_ifs
    · exact hfits
    · cases admission view.slot origin (fees.computeFee (UInt32.ofNat len) info tip) with
      | error e => exact hfits
      | ok signer =>
        dsimp only
        split <;> exact hfits
  | settle ticket named fees post result =>
    simp only [viewStep]
    split <;> exact hfits

end View

/-! ### Whole runs -/

/-- The calls of a run came out of the decoder. -/
def CallsDecoded (scale : WideScale) (account : Codec Account)
    (moves : List (Move Account RuntimeCall maxAllowedCallers)) : Prop :=
  ∀ origin call, .call origin call ∈ moves →
    ∃ bytes rest, (callCodec scale account).decode bytes = some (call, rest)

/-- In every run from a genesis every account stays within the issuance of the start, and so does
every event about it. -/
theorem bounded_runState (hsound : config.Sound deposit)
    {start : PalletState Account Ledger maxAllowedCallers}
    (hgenesis : Genesis config.balances start)
    (moves : List (Move Account RuntimeCall maxAllowedCallers)) (who : Account) :
    Bounded (config.balances.totalIssuance start.ledger) (view config.balances who ⟨start, []⟩)
      (view config.balances who (runState (step config) ⟨start, []⟩ moves)) := by
  refine view_runState_invariant (P := Bounded _ _) hsound
    (fun _ move _ _ _ hbounded ↦ bounded_viewStep hbounded move) (funded_start hgenesis.onHold) ?_
  exact ⟨hgenesis.backed.total_le who, [], (List.append_nil _).symm, by simp⟩

/-- In every run from a genesis whose calls came out of the decoder, every stored policy fits. -/
theorem slotFits_runState (hsound : config.Sound deposit)
    {start : PalletState Account Ledger maxAllowedCallers}
    (hgenesis : Genesis config.balances start)
    {scale : WideScale} (hscale : WideScale.Strict scale) {account : Codec Account}
    (haccount : Exact account (fun _ ↦ True)) (hbound : maxAllowedCallers < 2 ^ 32)
    {moves : List (Move Account RuntimeCall maxAllowedCallers)}
    (hdecoded : CallsDecoded scale account moves) (who : Account) :
    SlotFits (slotOf config.balances (runState (step config) ⟨start, []⟩ moves).state who) := by
  refine view_runState_invariant (P := fun view ↦ SlotFits view.slot) hsound ?_
    (funded_start hgenesis.onHold) ?_
  · intro view move hmove _ _ hfits
    refine slotFits_viewStep hfits ?_
    rintro origin call rfl
    obtain ⟨bytes, rest, hcall⟩ := hdecoded origin call hmove
    exact ((exact_call hscale haccount hbound _ _ _).mp hcall).1
  · intro state hstate
    exact absurd hstate (by simp [view, slotOf, hgenesis.sponsors])

/-- What the pallet writes can be read back. Assumes: an exact ledger, burned fees, a start without
sponsors and sponsorship holds whose issuance is below `2 ^ 128`, a codec that rejects what it
should, accounts that are decoded exactly from at most the given length, and a bound of 32 bits.
After any run of overlapping flights whose calls came out of the decoder, every total balance is
still below `2 ^ 128`, every event deposited since the start decodes from its encoding, and so does
every entry of `Sponsors`, from at most its `MaxEncodedLen` bytes. -/
theorem written_state_decodes (hsound : config.Sound deposit)
    {start : PalletState Account Ledger maxAllowedCallers}
    (hgenesis : Genesis config.balances start)
    (hissuance : config.balances.totalIssuance start.ledger < 2 ^ 128)
    {scale : WideScale} (hscale : WideScale.Strict scale) {account : Codec Account}
    (haccount : Exact account (fun _ ↦ True)) {accountLen : ℕ}
    (hlength : ∀ who, (account.encode who).length ≤ accountLen)
    (hbound : maxAllowedCallers < 2 ^ 32)
    {moves : List (Move Account RuntimeCall maxAllowedCallers)}
    (hdecoded : CallsDecoded scale account moves) :
    let final := (runState (step config) ⟨start, []⟩ moves).state
    (∀ who, (config.balances.account final.ledger who).total < 2 ^ 128) ∧
    (∃ emitted, final.events = start.events ++ emitted ∧
      ∀ event ∈ emitted, Reads (eventCodec scale account).decode
        ((eventCodec scale account).encode event) event) ∧
    ∀ who state, final.sponsors who = some state →
      Reads (sponsorStateCodec scale account).decode
        ((sponsorStateCodec scale account).encode state) state ∧
      ((sponsorStateCodec scale account).encode state).length ≤
        sponsorStateMaxEncodedLen scale accountLen maxAllowedCallers := by
  intro final
  have hbounded := bounded_runState hsound hgenesis moves
  refine ⟨fun who ↦ (hbounded who).total_le.trans_lt hissuance, ?_, ?_⟩
  · obtain ⟨emitted, hevents, -⟩ := (conserved_runState hsound hgenesis moves).issued
    refine ⟨emitted, hevents, fun event hevent ↦ (exact_event hscale haccount).reads ?_⟩
    obtain ⟨own, hown, hamounts⟩ := (hbounded event.sponsor).events
    have habout : eventsAbout event.sponsor emitted = own :=
      eventsAbout_eq_of_append hevents hown
    have hmem : event ∈ own := by
      rw [← habout, eventsAbout, List.mem_filter]
      exact ⟨hevent, by simp⟩
    exact fits_of_amountsOf fun amount hamount ↦
      (hamounts event hmem amount hamount).trans_lt hissuance
  · intro who state hstate
    have hstored : state.Fits :=
      slotFits_runState hsound hgenesis hscale haccount hbound hdecoded who state hstate
    exact ⟨(exact_sponsorState hscale haccount hbound).reads hstored,
      length_sponsorState_le hscale hlength hbound hstored⟩

/-! ### A runtime with accounts of one byte -/

/-- The ledger of a runtime with accounts of one byte. -/
abbrev ByteLedger : Type := ReferenceLedger (FixedBytes 1) HoldReason

/-- The runtime: a reference ledger, no base extension that accepts anything, and burned fees. -/
def byteConfig : Config (FixedBytes 1) ByteLedger Unit Unit Unit where
  balances := referenceBalances (FixedBytes 1) HoldReason 1
  base :=
    { weight := fun _ _ ↦ .zero
      validate := fun _ _ _ _ _ ledger ↦ .error (.invalid .payment) ledger
      prepare := fun _ _ _ _ _ _ ledger ↦ .error (.invalid .payment) ledger
      postDispatchDetails := fun _ _ _ _ _ ledger ↦ .ok .zero ledger
      getPriority := fun _ _ _ _ ↦ 0 }
  dbWeight := { read := 0, write := 0 }
  feeDestination := unitDestination (referenceBalances (FixedBytes 1) HoldReason 1)

theorem byteConfig_sound : byteConfig.Sound 1 where
  exact := referenceBalances_exact 1
  burns := rfl

/-- The account with a given byte. -/
def oneByte (byte : UInt8) : FixedBytes 1 where
  bytes := [byte]
  length_eq := rfl

/-- The account 7 owns everything. -/
def byteState : PalletState (FixedBytes 1) ByteLedger 2 where
  sponsors := fun _ ↦ none
  ledger :=
    { account := fun who ↦ mockAccount (if who = oneByte 7 then 1000 else 0)
      totalIssuance := 1000 }
  events := []
  routed := []
  log := []

theorem byteState_genesis : Genesis byteConfig.balances byteState where
  sponsors := fun _ ↦ rfl
  onHold := fun _ _ ↦ rfl
  backed := by
    apply Balances.Backed.of_support {oneByte 7}
    · intro who hwho
      change (mockAccount (if who = oneByte 7 then 1000 else 0)).total = 0
      rw [if_neg (by simpa using hwho)]
      decide
    · rw [Finset.sum_singleton]
      decide

/-- The account 7 registers with the allowlist 8 and 9, and pauses while a transaction of account 9
with a tip of 3 is in flight. -/
def byteMoves : List (Move (FixedBytes 1) Unit 2) :=
  [.call (.signed (oneByte 7))
      (.registerSponsor 500 ⟨⟨[oneByte 8, oneByte 9], le_rfl⟩, 2 ^ 100⟩),
    .prepare 0 (oneByte 7) mockFees 3 (.signed (oneByte 9)) () mockInfo 0,
    .call (.signed (oneByte 7)) .pause,
    .settle 0 (oneByte 7) mockFees mockPost (.ok ())]

/-- The entry of account 7 decodes from at most 20 bytes, and the event of the fee of 5 that it was
charged decodes to itself. -/
theorem written_state_decodes_byteMoves :
    let final := (runState (step byteConfig) ⟨byteState, []⟩ byteMoves).state
    let paid := Event.sponsoredTransactionFeePaid (oneByte 7) (oneByte 9) 5 3
    (∃ state, final.sponsors (oneByte 7) = some state ∧
      (sponsorStateCodec referenceWideScale byteAccount).decode
          ((sponsorStateCodec referenceWideScale byteAccount).encode state ++ [1]) =
        some (state, [1]) ∧
      ((sponsorStateCodec referenceWideScale byteAccount).encode state).length ≤ 20) ∧
    final.events = [.sponsorRegistered (oneByte 7) 500, .sponsorPaused (oneByte 7), paid] ∧
      (eventCodec referenceWideScale byteAccount).decode
        ((eventCodec referenceWideScale byteAccount).encode paid ++ [1]) = some (paid, [1]) := by
  intro final paid
  have hdecoded : CallsDecoded referenceWideScale byteAccount byteMoves := by
    intro origin call hmem
    have hfits : call.Fits := by
      simp only [byteMoves, List.mem_cons, List.not_mem_nil, or_false, Move.call.injEq,
        reduceCtorEq, false_or] at hmem
      rcases hmem with ⟨-, rfl⟩ | ⟨-, rfl⟩
      · exact ⟨by omega, (by omega : 2 ^ 100 < 2 ^ 128)⟩
      · trivial
    exact ⟨_, [],
      (exact_call referenceWideScale_strict byteAccount_exact (by omega)).reads hfits []⟩
  have hlength : ∀ who, (byteAccount.encode who).length ≤ 1 := fun who ↦ who.length_eq.le
  obtain ⟨-, ⟨emitted, hemitted, hevents⟩, hentries⟩ := written_state_decodes byteConfig_sound
    byteState_genesis (by decide) referenceWideScale_strict byteAccount_exact hlength (by omega)
    hdecoded
  have hentry : final.sponsors (oneByte 7) =
      some ⟨false, ⟨⟨[oneByte 8, oneByte 9], le_rfl⟩, 2 ^ 100⟩⟩ := rfl
  have hdeposited : final.events =
      [.sponsorRegistered (oneByte 7) 500, .sponsorPaused (oneByte 7), paid] := by
    decide
  have hpaid : paid ∈ emitted := by
    have hall : emitted = final.events := hemitted.symm
    rw [hall, hdeposited]
    simp
  obtain ⟨hreads, hlength⟩ := hentries (oneByte 7) _ hentry
  exact ⟨⟨_, hentry, hreads [1], hlength⟩, hdeposited, hevents paid hpaid [1]⟩

end SponsoredTx.Overlap
