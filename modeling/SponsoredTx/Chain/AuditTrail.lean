import SponsoredTx.Chain.SponsoredRuns

/-!
# The event log is an audit trail

`replay who events` rebuilds what the chain knows about an account from the emitted events alone:
whether it is registered, its active flag and its budget. The fold fails if it ever has to subtract
below zero. `lineOf` is what the state says, with the reserved amount counted as budget, because no
event reports a reservation.

`apply_announcement` is the heart of the simulation: the event of an accepted call takes the
line of the slot before to the line of the slot after. `Audited` is the invariant of runs built from
it (`Effect.audited`), next to the sums that the events determine: `escrowedBy` and `chargedTo` with
the balance of one account over its whole history. `events_audit_state` is the result for the states
between transactions.
-/

set_option autoImplicit false
set_option relaxedAutoImplicit false

namespace SponsoredTx.Chain

open Foundation.HoldLedger Foundation.Runs Pallet Extension

variable {Account Ledger RuntimeCall BaseVal BasePre : Type} {maxAllowedCallers : ℕ}
  [DecidableEq Account]

/-! ### Replaying the events of one account -/

/-- What the events say about one account. -/
@[ext] structure Line where
  registered : Bool
  active : Bool
  budget : ℕ
  deriving DecidableEq, Repr

/-- The line of an account that never registered. -/
def Line.absent : Line where
  registered := false
  active := false
  budget := 0

/-- Subtract from the budget, or fail where that would go below zero. -/
def Line.subtract (line : Line) (amount : ℕ) : Option Line :=
  if amount ≤ line.budget then some { line with budget := line.budget - amount } else none

/-- A subtraction that the budget covers succeeds. -/
theorem Line.subtract_of_le {line : Line} {amount : ℕ} (hamount : amount ≤ line.budget) :
    line.subtract amount = some { line with budget := line.budget - amount } :=
  if_pos hamount

/-- What one event does to the line of its sponsor. -/
def Line.apply (line : Line) : Event Account → Option Line
  | .sponsorRegistered _ initialBudget => some ⟨true, true, initialBudget⟩
  | .budgetIncreased _ amount _ => some { line with budget := line.budget + amount }
  | .budgetDecreased _ amount _ => line.subtract amount
  | .sponsorPolicyUpdated _ => some line
  | .sponsorPaused _ => some { line with active := false }
  | .sponsorResumed _ => some { line with active := true }
  | .sponsorUnregistered _ => some Line.absent
  | .sponsoredTransactionFeePaid _ _ actualFee _ => line.subtract actualFee

/-- The fold of the events about one account. -/
def replay (who : Account) (events : List (Event Account)) : Option Line :=
  (eventsAbout who events).foldlM Line.apply Line.absent

/-- The line of a slot. A reserved amount is still part of the budget that the events describe. -/
def lineOf (slot : Slot Account maxAllowedCallers) : Line where
  registered := slot.entry.isSome
  active := slot.entry.any fun state ↦ state.active
  budget := slot.budget + slot.pending

/-- Replaying one more event about the account applies it to the line. -/
theorem replay_append_self {who : Account} {events : List (Event Account)} {event : Event Account}
    {line : Line} (hevent : event.sponsor = who) (hreplay : replay who events = some line) :
    replay who (events ++ [event]) = line.apply event := by
  have hline : (eventsAbout who events).foldlM Line.apply Line.absent = some line := hreplay
  rw [replay, eventsAbout_append, eventsAbout_self hevent, List.foldlM_append, hline]
  simp

/-- Replaying one more event about another account changes nothing. -/
theorem replay_append_of_ne {who : Account} {event : Event Account} (hevent : event.sponsor ≠ who)
    (events : List (Event Account)) : replay who (events ++ [event]) = replay who events := by
  rw [replay, eventsAbout_append, eventsAbout_of_ne hevent, List.append_nil, replay]

/-! ### One event of one slot -/

section Slot

variable {deposit reserved : ℕ} {slot : Slot Account maxAllowedCallers}

/-- The event of an accepted call takes the line of the slot before to the line of the slot after.
A registration starts from an empty budget, and an unregistration finds nothing pending. -/
theorem apply_announcement (hescrowed : Escrowed deposit reserved slot) (who : Account)
    {call : Call Account maxAllowedCallers} (haccepts : slot.Accepts deposit call) :
    (lineOf slot).apply (slot.announcement who call) = some (lineOf (slot.after call)) := by
  cases call with
  | registerSponsor initialBudget policy =>
    obtain ⟨-, hentry, -, -⟩ := haccepts
    obtain ⟨hbudget, hpending⟩ := hescrowed.holds_eq_zero_of_entry_eq_none hentry
    simp only [Slot.budget, Slot.pending] at hbudget hpending
    simp [Slot.announcement, Line.apply, lineOf, Slot.after, Slot.budget, Slot.pending, hbudget,
      hpending]
  | increaseBudget amount =>
    simp only [Slot.announcement, Line.apply, lineOf, Slot.after, Slot.budget, Slot.pending,
      AccountData.onHold_withHold, if_true, reduceCtorEq, if_false, Option.some.injEq,
      Line.mk.injEq, true_and]
    omega
  | decreaseBudget amount =>
    obtain ⟨-, -, hamount, -⟩ := haccepts
    have hcovered : amount ≤ (lineOf slot).budget := hamount.trans (Nat.le_add_right _ _)
    rw [Slot.announcement, Line.apply, Line.subtract_of_le hcovered]
    simp only [lineOf, Slot.after, Slot.budget, Slot.pending, AccountData.onHold_withRelease,
      if_true, reduceCtorEq, if_false] at hamount ⊢
    rw [Nat.sub_add_comm hamount]
  | setPolicy policy =>
    simp only [Slot.announcement, Line.apply, Slot.after, lineOf]
    cases slot.entry <;> rfl
  | pause =>
    obtain ⟨state, hentry, -⟩ := haccepts
    simp [Slot.announcement, Line.apply, lineOf, Slot.after, hentry, Slot.budget, Slot.pending]
  | resume =>
    obtain ⟨state, hentry, -⟩ := haccepts
    simp [Slot.announcement, Line.apply, lineOf, Slot.after, hentry, Slot.budget, Slot.pending]
  | unregister =>
    obtain ⟨-, hpending, -⟩ := haccepts
    simp only [Slot.pending] at hpending
    simp [Slot.announcement, Line.apply, lineOf, Slot.after, Line.absent, Slot.budget,
      Slot.pending, hpending]

omit [DecidableEq Account] in
/-- A reservation does not change the line. -/
theorem lineOf_withReserved {amount : ℕ} (hamount : amount ≤ slot.budget) :
    lineOf { slot with account := withReserved slot.account amount } = lineOf slot := by
  simp only [lineOf, Slot.budget, Slot.pending, budget_withReserved, pending_withReserved]
    at hamount ⊢
  congr 1
  omega

omit [DecidableEq Account] in
/-- The fee event takes the line of the slot before the settlement to the line after it. -/
theorem apply_feePaid (sponsor signer : Account) {charged : ℕ} (tip : ℕ)
    (hcharged : charged ≤ slot.pending) :
    (lineOf slot).apply (.sponsoredTransactionFeePaid sponsor signer charged tip) =
      some (lineOf { slot with account := withSettled slot.account charged }) := by
  have hcovered : charged ≤ (lineOf slot).budget := hcharged.trans (Nat.le_add_left _ _)
  rw [Line.apply, Line.subtract_of_le hcovered]
  simp only [lineOf, Slot.budget, Slot.pending, budget_withSettled, pending_withSettled]
    at hcharged ⊢
  rw [Nat.add_sub_assoc hcharged, Nat.add_zero]

end Slot

/-! ### The sums of the events -/

/-- The amount an event says was put on the budget hold. -/
def escrowOf : Event Account → ℕ
  | .sponsorRegistered _ initialBudget => initialBudget
  | .budgetIncreased _ amount _ => amount
  | _ => 0

/-- The fee an event says was paid. -/
def feeOf : Event Account → ℕ
  | .sponsoredTransactionFeePaid _ _ actualFee _ => actualFee
  | _ => 0

/-- The budget an event reports. -/
def newBudgetOf : Event Account → Option ℕ
  | .budgetIncreased _ _ newBudget => some newBudget
  | .budgetDecreased _ _ newBudget => some newBudget
  | _ => none

/-- The sum of an amount over the events about one account. -/
def sumAbout (amountOf : Event Account → ℕ) (who : Account) (events : List (Event Account)) : ℕ :=
  ((eventsAbout who events).map amountOf).sum

/-- What an account escrowed: its initial budgets and its increases. -/
def escrowedBy (who : Account) (events : List (Event Account)) : ℕ :=
  sumAbout escrowOf who events

/-- What an account was charged. -/
def chargedTo (who : Account) (events : List (Event Account)) : ℕ :=
  sumAbout feeOf who events

/-- The fees of all accounts. -/
def feesPaid (events : List (Event Account)) : ℕ :=
  (events.map feeOf).sum

/-- One more event about the account adds its amount. -/
theorem sumAbout_append_self (amountOf : Event Account → ℕ) {who : Account} {event : Event Account}
    (hevent : event.sponsor = who) (events : List (Event Account)) :
    sumAbout amountOf who (events ++ [event]) = sumAbout amountOf who events + amountOf event := by
  rw [sumAbout, eventsAbout_append, eventsAbout_self hevent, List.map_append, List.sum_append,
    List.map_singleton, List.sum_singleton, sumAbout]

/-- One more event about another account adds nothing. -/
theorem sumAbout_append_of_ne (amountOf : Event Account → ℕ) {who : Account} {event : Event Account}
    (hevent : event.sponsor ≠ who) (events : List (Event Account)) :
    sumAbout amountOf who (events ++ [event]) = sumAbout amountOf who events := by
  rw [sumAbout, eventsAbout_append, eventsAbout_of_ne hevent, List.append_nil, sumAbout]

omit [DecidableEq Account] in
/-- A call announces its new budget as the budget hold it leaves. -/
theorem newBudgetOf_announcement (slot : Slot Account maxAllowedCallers) (who : Account)
    (call : Call Account maxAllowedCallers) {newBudget : ℕ}
    (hnew : newBudgetOf (slot.announcement who call) = some newBudget) :
    newBudget = (slot.after call).budget := by
  cases call with
  | increaseBudget amount =>
    simpa [Slot.announcement, newBudgetOf, Slot.after, Slot.budget] using hnew.symm
  | decreaseBudget amount =>
    simpa [Slot.announcement, newBudgetOf, Slot.after, Slot.budget] using hnew.symm
  | _ => simp [Slot.announcement, newBudgetOf] at hnew

omit [DecidableEq Account] in
/-- No call announces a fee. -/
theorem feeOf_announcement (slot : Slot Account maxAllowedCallers) (who : Account)
    (call : Call Account maxAllowedCallers) : feeOf (slot.announcement who call) = 0 := by
  cases call <;> rfl

/-- The balance of an accepted call: what it escrows and what was held before is what it frees and
what is held after. -/
theorem balance_announcement {deposit : ℕ} {slot : Slot Account maxAllowedCallers} (who : Account)
    {call : Call Account maxAllowedCallers} (haccepts : slot.Accepts deposit call) :
    escrowOf (slot.announcement who call) + (slot.budget + slot.pending) =
      ((slot.after call).account.free - slot.account.free) +
        ((slot.after call).budget + (slot.after call).pending) := by
  cases call with
  | registerSponsor initialBudget policy =>
    simp only [Slot.announcement, escrowOf, Slot.after, Slot.budget, Slot.pending,
      AccountData.free_withHold, AccountData.onHold_withHold, if_true, reduceCtorEq, if_false]
    omega
  | increaseBudget amount =>
    simp only [Slot.announcement, escrowOf, Slot.after, Slot.budget, Slot.pending,
      AccountData.free_withHold, AccountData.onHold_withHold, if_true, reduceCtorEq, if_false]
    omega
  | decreaseBudget amount =>
    obtain ⟨-, -, hamount, -⟩ := haccepts
    simp only [Slot.announcement, escrowOf, Slot.after, Slot.budget, Slot.pending,
      AccountData.free_withRelease, AccountData.onHold_withRelease, if_true, reduceCtorEq, if_false]
      at hamount ⊢
    omega
  | setPolicy policy => simp [Slot.announcement, escrowOf, Slot.after]
  | pause => simp [Slot.announcement, escrowOf, Slot.after]
  | resume => simp [Slot.announcement, escrowOf, Slot.after]
  | unregister => simp [Slot.announcement, escrowOf, Slot.after, Slot.budget, Slot.pending]

/-! ### The invariant -/

omit [DecidableEq Account] in
/-- The events emitted since genesis. -/
def Stage.emitted (stage : Stage Account Ledger maxAllowedCallers) : List (Event Account) :=
  stage.audited.map Prod.fst

/-- The emitted events determine what the state says about every account, and their amounts add up:
the replay gives the line of the slot, every reported budget is the budget hold at that moment, the
burned issuance is the sum of the fees, and what an account escrowed is what it was charged, what
was released to it and what is still on hold. -/
structure Audited (balances : Balances Account HoldReason Ledger)
    (start : PalletState Account Ledger maxAllowedCallers)
    (stage : Stage Account Ledger maxAllowedCallers) : Prop where
  events : stage.state.events = start.events ++ stage.emitted
  replayed : ∀ who,
    replay who stage.emitted = some (lineOf (slotOf balances stage.state who))
  newBudget : ∀ entry ∈ stage.audited, ∀ newBudget,
    newBudgetOf entry.1 = some newBudget → newBudget = entry.2
  burned : stage.burned = feesPaid stage.emitted
  balanced : ∀ who, escrowedBy who stage.emitted = chargedTo who stage.emitted +
    stage.released who + (lineOf (slotOf balances stage.state who)).budget

section Invariant

variable {balances : Balances Account HoldReason Ledger}
  {start : PalletState Account Ledger maxAllowedCallers}
  {stage : Stage Account Ledger maxAllowedCallers}
  {after : PalletState Account Ledger maxAllowedCallers}

omit [DecidableEq Account] in
/-- Recording a step audits the events it emitted. -/
theorem audited_record {emitted : List (Event Account)}
    (hevents : after.events = stage.state.events ++ emitted) :
    (stage.record balances after).audited = stage.audited ++ audit balances after emitted := by
  simp only [Stage.record, hevents, List.drop_left]

omit [DecidableEq Account] in
/-- Recording a step appends the events it emitted. -/
theorem emitted_record {emitted : List (Event Account)}
    (hevents : after.events = stage.state.events ++ emitted) :
    (stage.record balances after).emitted = stage.emitted ++ emitted := by
  simp [Stage.emitted, audited_record hevents, audit, Function.comp_def]

omit [DecidableEq Account] in
/-- In a genesis the line of every account is empty. -/
theorem lineOf_genesis (hgenesis : Genesis balances start) (who : Account) :
    lineOf (slotOf balances start who) = Line.absent := by
  have hentry : (slotOf balances start who).entry = none := hgenesis.sponsors who
  have hbudget : (slotOf balances start who).budget = 0 := hgenesis.onHold who _
  have hpending : (slotOf balances start who).pending = 0 := hgenesis.onHold who _
  rw [lineOf, hentry, hbudget, hpending]
  rfl

/-- Nothing is audited at the start. -/
theorem audited_initialStage (hgenesis : Genesis balances start) :
    Audited balances start (initialStage start) where
  events := (List.append_nil _).symm
  replayed := by
    intro who
    change replay who [] = some (lineOf (slotOf balances start who))
    rw [lineOf_genesis hgenesis]
    rfl
  newBudget := fun entry hentry ↦ absurd hentry (by simp [initialStage])
  burned := rfl
  balanced := by
    intro who
    change 0 = 0 + 0 + (lineOf (slotOf balances start who)).budget
    rw [lineOf_genesis hgenesis]
    rfl

/-- A step that changes one slot and emits one event about it keeps the trail complete, if the event
takes the line of the slot before to the line after, reports the budget it leaves, and its amounts
account for the burned issuance and the freed balance. -/
theorem Audited.record (haudited : Audited balances start stage) {who : Account}
    {slot : Slot Account maxAllowedCallers} {event : Event Account}
    (flight : Option (Flight Account Ledger maxAllowedCallers))
    (hslots : slotOf balances after = Function.update (slotOf balances stage.state) who slot)
    (hevents : after.events = stage.state.events ++ [event]) (hsponsor : event.sponsor = who)
    (hline : (lineOf (slotOf balances stage.state who)).apply event = some (lineOf slot))
    (hnew : ∀ newBudget, newBudgetOf event = some newBudget → newBudget = slot.budget)
    (hburned : (balances.totalIssuance stage.state.ledger : ℤ) -
      balances.totalIssuance after.ledger = feeOf event)
    (hbalance : escrowOf event + (lineOf (slotOf balances stage.state who)).budget =
      feeOf event + (slot.account.free - (slotOf balances stage.state who).account.free) +
        (lineOf slot).budget) :
    Audited balances start { stage.record balances after with flight } := by
  have hemitted : (stage.record balances after).emitted = stage.emitted ++ [event] :=
    emitted_record hevents
  have hself : slotOf balances after who = slot := by rw [hslots, Function.update_self]
  have hother : ∀ other, other ≠ who →
      slotOf balances after other = slotOf balances stage.state other :=
    fun other hne ↦ by rw [hslots, Function.update_of_ne hne]
  refine ⟨?_, ?_, ?_, ?_, ?_⟩
  · change after.events = start.events ++ (stage.record balances after).emitted
    rw [hemitted, hevents, haudited.events, List.append_assoc]
  · intro other
    change replay other (stage.record balances after).emitted =
      some (lineOf (slotOf balances after other))
    rw [hemitted]
    by_cases hne : other = who
    · subst hne
      rw [hself, replay_append_self hsponsor (haudited.replayed other), hline]
    · rw [hother other hne, replay_append_of_ne (hsponsor ▸ Ne.symm hne), haudited.replayed other]
  · intro entry hentry newBudget hbudget
    change entry ∈ (stage.record balances after).audited at hentry
    rw [audited_record hevents, List.mem_append] at hentry
    rcases hentry with hold | hlast
    · exact haudited.newBudget entry hold newBudget hbudget
    · obtain rfl : entry = (event, budgetOnHold balances after event.sponsor) := by
        simpa [audit] using hlast
      rw [hnew newBudget hbudget, hsponsor]
      exact congrArg Slot.budget hself.symm
  · change stage.burned + _ = (feesPaid (stage.record balances after).emitted : ℤ)
    rw [hemitted, hburned, haudited.burned]
    simp [feesPaid]
  · intro other
    change escrowedBy other (stage.record balances after).emitted =
      chargedTo other (stage.record balances after).emitted + (stage.record balances after).released
        other + (lineOf (slotOf balances after other)).budget
    have hbalanced := haudited.balanced other
    have hreleased : (stage.record balances after).released other = stage.released other +
        ((slotOf balances after other).account.free -
          (slotOf balances stage.state other).account.free) := rfl
    rw [hemitted, hreleased]
    unfold escrowedBy chargedTo at hbalanced ⊢
    by_cases hne : other = who
    · subst hne
      rw [hself, sumAbout_append_self _ hsponsor, sumAbout_append_self _ hsponsor]
      omega
    · rw [hother other hne, sumAbout_append_of_ne _ (hsponsor ▸ Ne.symm hne),
        sumAbout_append_of_ne _ (hsponsor ▸ Ne.symm hne)]
      omega

/-- A step that emits nothing and changes no line keeps the trail complete. -/
theorem Audited.of_lineOf_eq (haudited : Audited balances start stage)
    {stage' : Stage Account Ledger maxAllowedCallers}
    (hevents : stage'.state.events = stage.state.events) (haudit : stage'.audited = stage.audited)
    (hreleased : stage'.released = stage.released) (hburned : stage'.burned = stage.burned)
    (hlines : ∀ who, lineOf (slotOf balances stage'.state who) =
      lineOf (slotOf balances stage.state who)) : Audited balances start stage' := by
  have hemitted : stage'.emitted = stage.emitted := by rw [Stage.emitted, haudit, Stage.emitted]
  refine ⟨?_, ?_, ?_, ?_, ?_⟩
  · rw [hevents, hemitted, haudited.events]
  · intro who
    rw [hlines, hemitted, haudited.replayed]
  · rw [haudit]
    exact haudited.newBudget
  · rw [hburned, hemitted, haudited.burned]
  · intro who
    rw [hlines, hemitted, hreleased, haudited.balanced]

/-- Every effect on a secured stage keeps the trail complete. -/
theorem Effect.audited {config : Config Account Ledger RuntimeCall BaseVal BasePre} {deposit : ℕ}
    {action : Action Account Ledger RuntimeCall maxAllowedCallers}
    {stage' : Stage Account Ledger maxAllowedCallers}
    (heffect : Effect config deposit stage action stage')
    (hsecured : Secured config.balances deposit stage)
    (haudited : Audited config.balances start stage) : Audited config.balances start stage' := by
  cases heffect with
  | refused origin call => exact haudited
  | accepted who call after haccepts hadvances =>
    refine haudited.record _ hadvances.slots hadvances.events (Slot.sponsor_announcement _ who call)
      (apply_announcement (hsecured.escrowed who) who haccepts)
      (fun _ hnew ↦ newBudgetOf_announcement _ who call hnew) ?_ ?_
    · simp [hadvances.totalIssuance, feeOf_announcement]
    · rw [feeOf_announcement, Nat.zero_add]
      exact balance_announcement who haccepts
  | moved ledger hmove =>
    refine haudited.of_lineOf_eq rfl rfl rfl rfl ?_
    intro who
    simp only [lineOf, slotOf, Slot.budget, Slot.pending, hmove.onHold]
  | reserved fees tip sponsor signer call info len prepared hidle hadmits hadvances =>
    have hfree : ∀ who, (slotOf config.balances prepared who).account.free =
        (slotOf config.balances stage.state who).account.free := by
      intro who
      by_cases hne : who = sponsor
      · subst hne
        rw [hadvances.slot_self, free_withReserved]
      · rw [hadvances.slot_of_ne hne]
    refine haudited.of_lineOf_eq ?_ ?_ ?_ ?_ ?_
    · exact hadvances.events.trans (List.append_nil _)
    · exact (audited_record hadvances.events).trans (List.append_nil _)
    · funext who
      change stage.released who + ((slotOf config.balances prepared who).account.free -
        (slotOf config.balances stage.state who).account.free) = stage.released who
      rw [hfree, Nat.sub_self, Nat.add_zero]
    · change stage.burned + _ = stage.burned
      rw [hadvances.totalIssuance, sub_self, add_zero]
    · intro who
      change lineOf (slotOf config.balances prepared who) = _
      by_cases hne : who = sponsor
      · subst hne
        rw [hadvances.slot_self, lineOf_withReserved hadmits.budget]
      · rw [hadvances.slot_of_ne hne]
  | settled fees post result flight after hflight hsettles =>
    have hcharged := hsecured.charge_le hflight fees post
    have hissuance := hsecured.charge_le_totalIssuance hflight fees post
    refine haudited.record none hsettles.slots hsettles.events rfl
      (apply_feePaid flight.sponsor flight.signer _ hcharged)
      (fun _ hnew ↦ by simp [newBudgetOf] at hnew) ?_ ?_
    · have hburned := hsettles.totalIssuance
      simp only [feeOf]
      omega
    · simp only [escrowOf, feeOf, lineOf, Slot.budget, Slot.pending, free_withSettled,
        budget_withSettled, pending_withSettled] at hcharged ⊢
      omega

end Invariant

/-! ### The trail of a run -/

/-- The trail of every reachable stage is complete. Assumes: an exact ledger, burned fees, and a
genesis. -/
theorem audited_of_reachable {config : Config Account Ledger RuntimeCall BaseVal BasePre}
    {deposit : ℕ} (hsound : config.Sound deposit)
    {start : PalletState Account Ledger maxAllowedCallers}
    (hgenesis : Genesis config.balances start)
    {stage : Stage Account Ledger maxAllowedCallers}
    (hreach : Reaches (Transition config deposit) (initialStage start) stage) :
    Audited config.balances start stage :=
  (reachable_invariant hsound hgenesis (audited_initialStage hgenesis)
    (fun _ _ _ hsecured heffect haudited ↦ heffect.audited hsecured haudited) hreach).2

/-- The event log is a complete audit trail. Assumes: an exact ledger, burned fees, and a run from
a state without sponsors and sponsorship holds. In every state between transactions, the events
emitted since the start fold without a subtraction below zero, for every account, to whether it has
an entry, its active flag and its budget hold; every reported budget is the budget hold of its
sponsor when the event was emitted; and the issuance destroyed by the pallet is the sum of the
reported fees. -/
theorem events_audit_state {config : Config Account Ledger RuntimeCall BaseVal BasePre}
    {deposit : ℕ} (hsound : config.Sound deposit)
    {start : PalletState Account Ledger maxAllowedCallers}
    (hgenesis : Genesis config.balances start)
    {chain : ChainState Account Ledger maxAllowedCallers}
    (hreach : Reachable config deposit start chain) (hidle : chain.now.flight = none) :
    chain.now.state.events = start.events ++ chain.now.emitted ∧
      (∀ who, replay who chain.now.emitted = some
        { registered := (chain.now.state.sponsors who).isSome
          active := (chain.now.state.sponsors who).any fun state ↦ state.active
          budget := budgetOnHold config.balances chain.now.state who }) ∧
      (∀ event budget, (event, budget) ∈ chain.now.audited → ∀ newBudget,
        newBudgetOf event = some newBudget → newBudget = budget) ∧
      chain.now.burned = feesPaid chain.now.emitted := by
  have hsecured := secured_of_reachable hsound hgenesis hreach
  have haudited := audited_of_reachable hsound hgenesis (checkpoint_reaches hreach).1
  refine ⟨haudited.events, ?_, fun event budget hmem ↦ haudited.newBudget _ hmem, haudited.burned⟩
  intro who
  have hpending : (slotOf config.balances chain.now.state who).pending = 0 := by
    rw [(hsecured.escrowed who).pending_eq, hidle, reservedOn]
  rw [haudited.replayed who, lineOf, hpending, Nat.add_zero]
  rfl

/-- After the sponsored transaction of the test runtime, the events say that sponsor 1 is registered
and active with a budget of 95, and that 5 were burned. -/
theorem events_audit_state_mockSettled :
    replay 1 mockSettled.emitted = some ⟨true, true, 95⟩ ∧
      mockSettled.burned = feesPaid mockSettled.emitted ∧ feesPaid mockSettled.emitted = 5 := by
  obtain ⟨-, hreplay, -, hburned⟩ :=
    events_audit_state mockConfig_sound mockState_genesis mockSettled_reachable rfl
  exact ⟨hreplay 1, hburned, by decide⟩

end SponsoredTx.Chain
