import SponsoredTx.Extension.EscrowedSlot
import SponsoredTx.Foundation.Runs

/-!
# Runs of the chain around the pallet

A chain executes sponsored transactions one at a time: `validate` and `prepare`, then the body of
the dispatch, then the settlement. `Transition` is one step of it. A lifecycle call with any origin
and a balance movement outside the pallet may happen at any time, in particular inside a body; a
sponsored transaction begins when none is in flight, and settles with whatever fee functions and
post-dispatch report the moment has. A failed dispatch is a rollback to the state after `prepare`,
so the chain is the checkpointed system over `Transition` (`Step`), and `Reachable` are its states
from a genesis without sponsors and sponsorship holds.

A `Stage` carries, next to the pallet state and the transaction in flight, three records that the
code does not keep and that are only read off its states: each emitted event with the budget hold of
its sponsor at that moment, the free balance the pallet handed to each account, and the issuance the
pallet destroyed.

`Secured` is the invariant: every slot is escrowed, with the estimate of the transaction in flight
reserved on its sponsor, and the issuance covers the balances. On a secured stage every transition
is one of five effects (`transition_effect`), and each keeps the stage secured (`Effect.secured`).
`reachable_invariant` is the rule derived from this: what every effect preserves holds of every
reachable stage, with rollbacks or without.
-/

set_option autoImplicit false
set_option relaxedAutoImplicit false

namespace SponsoredTx.Chain

open Foundation.StatefulResult Foundation.HoldLedger Foundation.Runs Pallet Extension

variable {Account Ledger RuntimeCall BaseVal BasePre : Type} {maxAllowedCallers : ℕ}
  [DecidableEq Account]

/-! ### Stages -/

/-- A sponsored transaction between `prepare` and its settlement: what `prepare` handed on, what the
framework keeps, and the state and the fee functions it was validated with. -/
structure Flight (Account Ledger : Type) (maxAllowedCallers : ℕ) where
  sponsor : Account
  signer : Account
  estimatedFeeWithTip : ℕ
  tip : ℕ
  origin : RawOrigin Account
  info : DispatchInfo
  len : ℕ
  fees : TransactionPayment
  validatedIn : PalletState Account Ledger maxAllowedCallers

/-- The fee that the post-dispatch report of a flight comes to. -/
def Flight.actualFee (flight : Flight Account Ledger maxAllowedCallers) (fees : TransactionPayment)
    (post : PostDispatchInfo) : ℕ :=
  fees.computeActualFee (UInt32.ofNat flight.len) flight.info post flight.tip

/-- The smaller of the actual fee and the estimate of a flight. -/
def Flight.charge (flight : Flight Account Ledger maxAllowedCallers) (fees : TransactionPayment)
    (post : PostDispatchInfo) : ℕ :=
  min (flight.actualFee fees post) flight.estimatedFeeWithTip

/-- A point of a run. `audited` pairs every event emitted since genesis with the budget hold of its
sponsor when it was emitted, `released` adds up what the pallet added to the free balance of each
account, and `burned` is the issuance that the pallet destroyed. -/
structure Stage (Account Ledger : Type) (maxAllowedCallers : ℕ) where
  state : PalletState Account Ledger maxAllowedCallers
  flight : Option (Flight Account Ledger maxAllowedCallers)
  audited : List (Event Account × ℕ)
  released : Account → ℕ
  burned : ℤ

/-- The events of a list with the budget hold of their sponsors in a given state. -/
def audit (balances : Balances Account HoldReason Ledger)
    (st : PalletState Account Ledger maxAllowedCallers) (emitted : List (Event Account)) :
    List (Event Account × ℕ) :=
  emitted.map fun event ↦ (event, budgetOnHold balances st event.sponsor)

/-- The stage after a step of the pallet that left the given state. -/
def Stage.record (balances : Balances Account HoldReason Ledger)
    (stage : Stage Account Ledger maxAllowedCallers)
    (after : PalletState Account Ledger maxAllowedCallers) :
    Stage Account Ledger maxAllowedCallers :=
  { stage with
    state := after
    audited := stage.audited ++
      audit balances after (after.events.drop stage.state.events.length)
    released := fun who ↦ stage.released who +
      ((balances.account after.ledger who).free - (balances.account stage.state.ledger who).free)
    burned := stage.burned +
      ((balances.totalIssuance stage.state.ledger : ℤ) - balances.totalIssuance after.ledger) }

/-- The stage in which a run begins. -/
def initialStage (start : PalletState Account Ledger maxAllowedCallers) :
    Stage Account Ledger maxAllowedCallers where
  state := start
  flight := none
  audited := []
  released := fun _ ↦ 0
  burned := 0

/-! ### Transitions -/

/-- A balance movement outside the pallet. It leaves the two sponsorship holds alone, neither reaps
an account nor takes its free balance below the existential deposit while one of them is nonzero,
and keeps the issuance covering the balances; otherwise it may do anything. -/
structure OutsideMove (balances : Balances Account HoldReason Ledger) (deposit : ℕ)
    (before after : Ledger) : Prop where
  onHold : ∀ who, (balances.account after who).onHold = (balances.account before who).onHold
  alive : ∀ who,
    0 < (balances.account before who).onHold .sponsorshipBudget +
      (balances.account before who).onHold .sponsorshipPending →
    (balances.account before who).alive = true → (balances.account after who).alive = true
  free : ∀ who,
    0 < (balances.account before who).onHold .sponsorshipBudget +
      (balances.account before who).onHold .sponsorshipPending →
    deposit ≤ (balances.account before who).free → deposit ≤ (balances.account after who).free
  backed : balances.Backed before → balances.Backed after

/-- The actions of a run. -/
inductive Action (Account Ledger RuntimeCall : Type) (maxAllowedCallers : ℕ)
  | call (origin : RawOrigin Account) (call : Call Account maxAllowedCallers)
  | outside (ledger : Ledger)
  | begin (fees : TransactionPayment) (self : SponsoredChargeTransactionPayment Account)
      (origin : RawOrigin Account) (call : RuntimeCall) (info : DispatchInfo) (len : ℕ)
  | settle (fees : TransactionPayment) (post : PostDispatchInfo)
      (result : Except DispatchError Unit)

/-- One step of the chain. A transaction that `validate` or `prepare` refuses is not included, so it
is not a step. -/
inductive Transition (config : Config Account Ledger RuntimeCall BaseVal BasePre) (deposit : ℕ) :
    Action Account Ledger RuntimeCall maxAllowedCallers →
      Stage Account Ledger maxAllowedCallers → Stage Account Ledger maxAllowedCallers → Prop
  | call (stage : Stage Account Ledger maxAllowedCallers) (origin : RawOrigin Account)
      (call : Call Account maxAllowedCallers) :
      Transition config deposit (.call origin call) stage
        (stage.record config.balances
          (finalState (dispatch config.balances origin call stage.state)))
  | outside (stage : Stage Account Ledger maxAllowedCallers) (ledger : Ledger)
      (hmove : OutsideMove config.balances deposit stage.state.ledger ledger) :
      Transition config deposit (.outside ledger) stage
        { stage with state := { stage.state with ledger } }
  | begin (stage : Stage Account Ledger maxAllowedCallers) (fees : TransactionPayment)
      (self : SponsoredChargeTransactionPayment Account) (origin : RawOrigin Account)
      (call : RuntimeCall) (info : DispatchInfo) (len : ℕ)
      {validity : ValidTransaction} {val : SponsoredVal Account BaseVal}
      {origin' : RawOrigin Account}
      {validated prepared : PalletState Account Ledger maxAllowedCallers}
      {sponsor signer : Account} {estimatedFeeWithTip tip : ℕ} (hidle : stage.flight = none)
      (hvalidate : self.validate config fees origin call info len stage.state =
        .ok (validity, val, origin') validated)
      (hprepare : self.prepare config val origin' call info len validated =
        .ok (.sponsored sponsor signer estimatedFeeWithTip tip) prepared) :
      Transition config deposit (.begin fees self origin call info len) stage
        { stage.record config.balances prepared with
          flight := some
            { sponsor, signer, estimatedFeeWithTip, tip, origin, info, len, fees
              validatedIn := stage.state } }
  | settle (stage : Stage Account Ledger maxAllowedCallers) (fees : TransactionPayment)
      (post : PostDispatchInfo) (result : Except DispatchError Unit)
      {flight : Flight Account Ledger maxAllowedCallers}
      {weight : Foundation.SaturatingWeight.Weight}
      {settled : PalletState Account Ledger maxAllowedCallers}
      (hflight : stage.flight = some flight)
      (hsettle : postDispatchDetails config fees
        (.sponsored flight.sponsor flight.signer flight.estimatedFeeWithTip flight.tip)
        flight.info post flight.len result stage.state = .ok weight settled) :
      Transition config deposit (.settle fees post result) stage
        { stage.record config.balances settled with flight := none }

/-- `prepare` takes the checkpoint to which a failed dispatch returns, and the settlement drops
it. -/
def checkpointMark : Action Account Ledger RuntimeCall maxAllowedCallers → Mark
  | .call _ _ => .keep
  | .outside _ => .keep
  | .begin _ _ _ _ _ _ => .set
  | .settle _ _ _ => .clear

/-- A stage with the checkpoint of the transaction in flight. -/
abbrev ChainState (Account Ledger : Type) (maxAllowedCallers : ℕ) : Type :=
  Checkpointed (Stage Account Ledger maxAllowedCallers)

/-- One step of the chain with rollback; the label `none` is the rollback of a failed dispatch. -/
abbrev Step (config : Config Account Ledger RuntimeCall BaseVal BasePre) (deposit : ℕ) :
    Option (Action Account Ledger RuntimeCall maxAllowedCallers) →
      ChainState Account Ledger maxAllowedCallers →
      ChainState Account Ledger maxAllowedCallers → Prop :=
  CheckpointStep (Transition config deposit) checkpointMark

/-- The states a run may begin in: no sponsors, no sponsorship holds, and an issuance that covers
the balances. -/
structure Genesis (balances : Balances Account HoldReason Ledger)
    (start : PalletState Account Ledger maxAllowedCallers) : Prop where
  sponsors : ∀ who, start.sponsors who = none
  onHold : ∀ who reason, (balances.account start.ledger who).onHold reason = 0
  backed : balances.Backed start.ledger

/-- The chain states of the runs from a given state. -/
def Reachable (config : Config Account Ledger RuntimeCall BaseVal BasePre) (deposit : ℕ)
    (start : PalletState Account Ledger maxAllowedCallers)
    (chain : ChainState Account Ledger maxAllowedCallers) : Prop :=
  Reaches (Step config deposit) ⟨initialStage start, none⟩ chain

/-- A transition extends a run. -/
theorem Reachable.advance {config : Config Account Ledger RuntimeCall BaseVal BasePre} {deposit : ℕ}
    {start : PalletState Account Ledger maxAllowedCallers}
    {chain : ChainState Account Ledger maxAllowedCallers}
    (hreach : Reachable config deposit start chain)
    {action : Action Account Ledger RuntimeCall maxAllowedCallers}
    {after : Stage Account Ledger maxAllowedCallers}
    (hstep : Transition config deposit action chain.now after) :
    Reachable config deposit start ⟨after, (checkpointMark action).apply chain.checkpoint after⟩ :=
  Reaches.tail hreach (CheckpointStep.advance hstep)

/-- The stage after its transaction in flight was settled. -/
def Stage.closed (config : Config Account Ledger RuntimeCall BaseVal BasePre)
    (stage : Stage Account Ledger maxAllowedCallers) (fees : TransactionPayment)
    (post : PostDispatchInfo) : Stage Account Ledger maxAllowedCallers :=
  match stage.flight with
  | none => stage
  | some flight =>
    { stage.record config.balances (settleSponsoredFee config fees flight.sponsor flight.signer
        flight.estimatedFeeWithTip flight.tip flight.info post flight.len stage.state).2 with
      flight := none }

/-- Whatever a body did, a flight can be settled, with any fee functions, report and result:
`post_dispatch_details` returns `Ok` on the sponsored path. -/
theorem settles_of_flight {config : Config Account Ledger RuntimeCall BaseVal BasePre}
    (deposit : ℕ) {stage : Stage Account Ledger maxAllowedCallers}
    {flight : Flight Account Ledger maxAllowedCallers} (hflight : stage.flight = some flight)
    (fees : TransactionPayment) (post : PostDispatchInfo) (result : Except DispatchError Unit) :
    Transition config deposit (.settle fees post result) stage (stage.closed config fees post) := by
  unfold Stage.closed
  split
  · next hnone => exact absurd (hflight.symm.trans hnone) (Option.some_ne_none flight)
  · next hsome => exact .settle stage fees post result hsome rfl

/-! ### The invariant -/

/-- What is reserved on an account: the estimate of the transaction in flight on its sponsor, and
nothing on every other account. -/
def reservedOn (flight : Option (Flight Account Ledger maxAllowedCallers)) (who : Account) : ℕ :=
  match flight with
  | none => 0
  | some flight => if flight.sponsor = who then flight.estimatedFeeWithTip else 0

/-- Every slot is escrowed with its reservation, and the issuance covers the balances. -/
structure Secured (balances : Balances Account HoldReason Ledger) (deposit : ℕ)
    (stage : Stage Account Ledger maxAllowedCallers) : Prop where
  escrowed : ∀ who,
    Escrowed deposit (reservedOn stage.flight who) (slotOf balances stage.state who)
  backed : balances.Backed stage.state.ledger

/-- The initial stage of a genesis is secured. -/
theorem secured_initialStage {balances : Balances Account HoldReason Ledger} (deposit : ℕ)
    {start : PalletState Account Ledger maxAllowedCallers} (hgenesis : Genesis balances start) :
    Secured balances deposit (initialStage start) where
  escrowed := fun who ↦ Escrowed.of_no_holds (hgenesis.onHold who _) (hgenesis.onHold who _)
  backed := hgenesis.backed

/-! ### Effects -/

/-- The stage after a transaction of the given sponsor and signer was prepared. -/
def Stage.opened (balances : Balances Account HoldReason Ledger)
    (stage : Stage Account Ledger maxAllowedCallers)
    (prepared : PalletState Account Ledger maxAllowedCallers) (fees : TransactionPayment)
    (sponsor signer : Account) (tip : ℕ) (info : DispatchInfo) (len : ℕ) :
    Stage Account Ledger maxAllowedCallers :=
  { stage.record balances prepared with
    flight := some
      { sponsor, signer, tip, info, len, fees
        estimatedFeeWithTip := fees.computeFee (UInt32.ofNat len) info tip
        origin := .signed signer
        validatedIn := stage.state } }

/-- What a transition of a secured stage does: a call is refused without a trace or advances the
slot of its signer, an outside movement changes the ledger, a transaction that is admitted moves
its estimate to the pending hold, and a settlement charges the smaller of the actual fee and the
estimate and restores the rest. -/
inductive Effect (config : Config Account Ledger RuntimeCall BaseVal BasePre) (deposit : ℕ)
    (stage : Stage Account Ledger maxAllowedCallers) :
    Action Account Ledger RuntimeCall maxAllowedCallers →
      Stage Account Ledger maxAllowedCallers → Prop
  | refused (origin : RawOrigin Account) (call : Call Account maxAllowedCallers) :
      Effect config deposit stage (.call origin call) stage
  | accepted (who : Account) (call : Call Account maxAllowedCallers)
      (after : PalletState Account Ledger maxAllowedCallers)
      (haccepts : (slotOf config.balances stage.state who).Accepts deposit call)
      (hadvances : Advances config.balances stage.state who
        ((slotOf config.balances stage.state who).after call)
        [(slotOf config.balances stage.state who).announcement who call] after) :
      Effect config deposit stage (.call (.signed who) call) (stage.record config.balances after)
  | moved (ledger : Ledger)
      (hmove : OutsideMove config.balances deposit stage.state.ledger ledger) :
      Effect config deposit stage (.outside ledger)
        { stage with state := { stage.state with ledger } }
  | reserved (fees : TransactionPayment) (tip : ℕ) (sponsor signer : Account) (call : RuntimeCall)
      (info : DispatchInfo) (len : ℕ) (prepared : PalletState Account Ledger maxAllowedCallers)
      (hidle : stage.flight = none)
      (hadmits : Admits (slotOf config.balances stage.state sponsor) (.signed signer)
        (fees.computeFee (UInt32.ofNat len) info tip) signer)
      (hadvances : Advances config.balances stage.state sponsor
        { slotOf config.balances stage.state sponsor with
          account := withReserved (slotOf config.balances stage.state sponsor).account
            (fees.computeFee (UInt32.ofNat len) info tip) } [] prepared) :
      Effect config deposit stage (.begin fees ⟨tip, some sponsor⟩ (.signed signer) call info len)
        (stage.opened config.balances prepared fees sponsor signer tip info len)
  | settled (fees : TransactionPayment) (post : PostDispatchInfo)
      (result : Except DispatchError Unit) (flight : Flight Account Ledger maxAllowedCallers)
      (after : PalletState Account Ledger maxAllowedCallers) (hflight : stage.flight = some flight)
      (hsettles : Settles config.balances stage.state flight.sponsor flight.signer
        (withSettled (slotOf config.balances stage.state flight.sponsor).account
          (flight.charge fees post))
        (flight.charge fees post) flight.tip
        (clampLines flight.estimatedFeeWithTip (flight.actualFee fees post)) after) :
      Effect config deposit stage (.settle fees post result)
        { stage.record config.balances after with flight := none }

omit [DecidableEq Account] in
/-- Recording a step that changed nothing changes nothing. -/
theorem record_self (balances : Balances Account HoldReason Ledger)
    (stage : Stage Account Ledger maxAllowedCallers) :
    stage.record balances stage.state = stage := by
  simp [Stage.record, audit]

/-- With a flight of a secured stage, the pending hold of the sponsor is the estimate. -/
theorem Secured.pending_eq {balances : Balances Account HoldReason Ledger} {deposit : ℕ}
    {stage : Stage Account Ledger maxAllowedCallers} (hsecured : Secured balances deposit stage)
    {flight : Flight Account Ledger maxAllowedCallers} (hflight : stage.flight = some flight) :
    (slotOf balances stage.state flight.sponsor).pending = flight.estimatedFeeWithTip := by
  rw [(hsecured.escrowed flight.sponsor).pending_eq, hflight, reservedOn, if_pos rfl]

/-- The pending hold of a secured flight covers its charge. -/
theorem Secured.charge_le {balances : Balances Account HoldReason Ledger} {deposit : ℕ}
    {stage : Stage Account Ledger maxAllowedCallers} (hsecured : Secured balances deposit stage)
    {flight : Flight Account Ledger maxAllowedCallers} (hflight : stage.flight = some flight)
    (fees : TransactionPayment) (post : PostDispatchInfo) :
    flight.charge fees post ≤ (slotOf balances stage.state flight.sponsor).pending := by
  rw [hsecured.pending_eq hflight]
  exact min_le_right _ _

/-- The issuance of a secured stage covers the charge of its flight. -/
theorem Secured.charge_le_totalIssuance {balances : Balances Account HoldReason Ledger}
    {deposit : ℕ} {stage : Stage Account Ledger maxAllowedCallers}
    (hsecured : Secured balances deposit stage)
    {flight : Flight Account Ledger maxAllowedCallers} (hflight : stage.flight = some flight)
    (fees : TransactionPayment) (post : PostDispatchInfo) :
    flight.charge fees post ≤ balances.totalIssuance stage.state.ledger :=
  calc
    flight.charge fees post
    _ ≤ (slotOf balances stage.state flight.sponsor).pending :=
      hsecured.charge_le hflight fees post
    _ ≤ (balances.account stage.state.ledger flight.sponsor).total :=
      AccountData.onHold_le_total _ _
    _ ≤ balances.totalIssuance stage.state.ledger := hsecured.backed.total_le flight.sponsor

/-- The settlement of a secured flight: the pending hold is its estimate, so nothing is short and
the rest is restored without a log line. -/
theorem settles_of_secured {config : Config Account Ledger RuntimeCall BaseVal BasePre}
    {deposit : ℕ} (hsound : config.Sound deposit) {stage : Stage Account Ledger maxAllowedCallers}
    (hsecured : Secured config.balances deposit stage)
    {flight : Flight Account Ledger maxAllowedCallers} (hflight : stage.flight = some flight)
    (fees : TransactionPayment) (post : PostDispatchInfo) :
    Settles config.balances stage.state flight.sponsor flight.signer
      (withSettled (slotOf config.balances stage.state flight.sponsor).account
        (flight.charge fees post))
      (flight.charge fees post) flight.tip
      (clampLines flight.estimatedFeeWithTip (flight.actualFee fees post))
      (settleSponsoredFee config fees flight.sponsor flight.signer flight.estimatedFeeWithTip
        flight.tip flight.info post flight.len stage.state).2 := by
  have hescrowed := hsecured.escrowed flight.sponsor
  rw [hflight, reservedOn, if_pos rfl] at hescrowed
  exact settles_of_escrowed hsound hescrowed fees flight.signer flight.tip flight.info post
    flight.len

/-- Every transition of a secured stage is one of the effects. Assumes: an exact ledger and burned
fees. -/
theorem transition_effect {config : Config Account Ledger RuntimeCall BaseVal BasePre} {deposit : ℕ}
    (hsound : config.Sound deposit)
    {action : Action Account Ledger RuntimeCall maxAllowedCallers}
    {stage stage' : Stage Account Ledger maxAllowedCallers}
    (hsecured : Secured config.balances deposit stage)
    (hstep : Transition config deposit action stage stage') :
    Effect config deposit stage action stage' := by
  cases hstep with
  | call _ origin call =>
    rcases dispatch_cases hsound.exact stage.state origin call with
      ⟨e, hrefused⟩ | ⟨who, after, rfl, haccepted, hok, hadvances⟩
    · rw [hrefused, finalState_error, record_self]
      exact .refused origin call
    · rw [hok, finalState_ok]
      exact .accepted who call after
        (((slotOf _ _ _).refusal_eq_none_iff deposit call).mp haccepted) hadvances
  | outside _ ledger hmove => exact .moved ledger hmove
  | @begin _ fees self origin call info len validity val origin' validated prepared sponsor signer
      estimatedFeeWithTip tip hidle hvalidate hprepare =>
    obtain ⟨selfTip, selfSponsor⟩ := self
    cases selfSponsor with
    | none =>
      -- The unsponsored path hands on an unsponsored value, which prepares an unsponsored one.
      obtain ⟨base, rfl⟩ := validate_unsponsored hvalidate
      exact absurd hprepare (prepare_unsponsored_ne _ _ _ _ _ _ _ _ _ _ _ _ _)
    | some named =>
      obtain ⟨admitted, hadmission, -, rfl, rfl, rfl⟩ := (validate_eq_ok_iff rfl).mp hvalidate
      have hadmits := (admission_eq_ok_iff _ _ _ _).mp hadmission
      obtain rfl := hadmits.signed
      obtain ⟨moved, hadvances, hmove⟩ := prepare_sponsored hsound.exact
        ⟨selfTip, some named⟩ named admitted (fees.computeFee (UInt32.ofNat len) info selfTip)
        selfTip (.signed admitted) call info len stage.state
      rw [reserve_of_escrowed (hsecured.escrowed named) hadmits.budget] at hmove hadvances
      rw [hmove] at hprepare
      split_ifs at hprepare
      simp only [EStateM.Result.ok.injEq, SponsoredPre.sponsored.injEq] at hprepare
      obtain ⟨⟨rfl, rfl, rfl, rfl⟩, rfl⟩ := hprepare
      exact .reserved fees selfTip named admitted call info len moved hidle hadmits hadvances
  | @settle _ fees post result flight weight settled hflight hsettle =>
    have hsettled : settled = (settleSponsoredFee config fees flight.sponsor flight.signer
        flight.estimatedFeeWithTip flight.tip flight.info post flight.len stage.state).2 := by
      simp only [postDispatchDetails, EStateM.Result.ok.injEq] at hsettle
      exact hsettle.2.symm
    subst hsettled
    exact .settled fees post result flight _ hflight
      (settles_of_secured hsound hsecured hflight fees post)

/-! ### The invariant over runs -/

section Invariant

variable {config : Config Account Ledger RuntimeCall BaseVal BasePre} {deposit : ℕ}

/-- A change of one slot keeps all slots escrowed if it keeps that slot escrowed and the
reservations on all other accounts. -/
theorem escrowed_of_update {balances : Balances Account HoldReason Ledger}
    {st st' : PalletState Account Ledger maxAllowedCallers} {who : Account}
    {slot : Slot Account maxAllowedCallers} {reserved : Account → ℕ} (reserved' : Account → ℕ)
    (hslots : slotOf balances st' = Function.update (slotOf balances st) who slot)
    (hescrowed : ∀ other, Escrowed deposit (reserved other) (slotOf balances st other))
    (hslot : Escrowed deposit (reserved' who) slot)
    (hreserved : ∀ other, other ≠ who → reserved' other = reserved other) (other : Account) :
    Escrowed deposit (reserved' other) (slotOf balances st' other) := by
  by_cases hother : other = who
  · subst hother
    rwa [hslots, Function.update_self]
  · rw [hslots, Function.update_of_ne hother, hreserved other hother]
    exact hescrowed other

/-- A change of one slot that keeps its total balance keeps all total balances. -/
theorem total_eq_of_advances {balances : Balances Account HoldReason Ledger}
    {st st' : PalletState Account Ledger maxAllowedCallers} {who : Account}
    {slot : Slot Account maxAllowedCallers} {emitted : List (Event Account)}
    (hadvances : Advances balances st who slot emitted st')
    (htotal : slot.account.total = (slotOf balances st who).account.total) (other : Account) :
    (balances.account st'.ledger other).total = (balances.account st.ledger other).total := by
  by_cases hother : other = who
  · subst hother
    have hslot := congrArg (fun slot ↦ slot.account.total) hadvances.slot_self
    exact hslot.trans htotal
  · exact congrArg (fun slot ↦ slot.account.total) (hadvances.slot_of_ne hother)

/-- A settlement of at most the pending hold takes the charge from the sponsor. -/
theorem total_of_settles {balances : Balances Account HoldReason Ledger}
    {st st' : PalletState Account Ledger maxAllowedCallers} {sponsor signer : Account}
    {charged tip : ℕ} {lines : List (LogLine Account)}
    (hsettles : Settles balances st sponsor signer
      (withSettled (slotOf balances st sponsor).account charged) charged tip lines st')
    (hcharged : charged ≤ (slotOf balances st sponsor).pending) :
    (balances.account st'.ledger sponsor).total + charged =
      (balances.account st.ledger sponsor).total := by
  have haccount : balances.account st'.ledger sponsor =
      withSettled (slotOf balances st sponsor).account charged :=
    congrArg Slot.account hsettles.slot_self
  rw [haccount]
  exact total_withSettled hcharged

/-- A settlement of at most the pending hold keeps the ledger backed. -/
theorem backed_of_settles {balances : Balances Account HoldReason Ledger}
    {st st' : PalletState Account Ledger maxAllowedCallers} {sponsor signer : Account}
    {charged tip : ℕ} {lines : List (LogLine Account)}
    (hsettles : Settles balances st sponsor signer
      (withSettled (slotOf balances st sponsor).account charged) charged tip lines st')
    (hcharged : charged ≤ (slotOf balances st sponsor).pending)
    (hbacked : balances.Backed st.ledger) : balances.Backed st'.ledger :=
  hbacked.of_burned (total_of_settles hsettles hcharged)
    (fun _ hother ↦ congrArg (fun slot ↦ slot.account.total) (hsettles.slot_of_ne hother))
    hsettles.totalIssuance

/-- Every effect keeps the stage secured. -/
theorem Effect.secured {stage stage' : Stage Account Ledger maxAllowedCallers}
    {action : Action Account Ledger RuntimeCall maxAllowedCallers}
    (heffect : Effect config deposit stage action stage')
    (hsecured : Secured config.balances deposit stage) :
    Secured config.balances deposit stage' := by
  cases heffect with
  | refused origin call => exact hsecured
  | accepted who call after haccepts hadvances =>
    exact ⟨escrowed_of_update (reservedOn stage.flight) hadvances.slots hsecured.escrowed
        ((hsecured.escrowed who).after_call haccepts) fun _ _ ↦ rfl,
      hsecured.backed.of_total_eq (total_eq_of_advances hadvances (Slot.total_after _ haccepts))
        hadvances.totalIssuance⟩
  | moved ledger hmove =>
    exact ⟨fun who ↦ (hsecured.escrowed who).of_outside (hmove.onHold who) (hmove.alive who)
      (hmove.free who), hmove.backed hsecured.backed⟩
  | reserved fees tip sponsor signer call info len prepared hidle hadmits hadvances =>
    have hreserved := (hsecured.escrowed sponsor).withReserved hadmits.budget
    simp only [hidle, reservedOn, Nat.zero_add] at hreserved
    refine ⟨escrowed_of_update (reservedOn (Stage.opened config.balances stage prepared fees sponsor
      signer tip info len).flight) hadvances.slots hsecured.escrowed ?_ ?_,
      hsecured.backed.of_total_eq
        (total_eq_of_advances hadvances (total_withReserved hadmits.budget))
        hadvances.totalIssuance⟩
    · simpa [Stage.opened, reservedOn] using hreserved
    · intro other hother
      simp [Stage.opened, reservedOn, hidle, Ne.symm hother]
  | settled fees post result flight after hflight hsettles =>
    refine ⟨escrowed_of_update (fun _ ↦ 0) hsettles.slots hsecured.escrowed
      ((hsecured.escrowed flight.sponsor).withSettled _) ?_,
      backed_of_settles hsettles (hsecured.charge_le hflight fees post) hsecured.backed⟩
    intro other hother
    simp [hflight, reservedOn, Ne.symm hother]

/-- The rule for invariants of runs: what holds initially and is preserved by every effect on a
secured stage holds, together with security, of every stage reached. Assumes: an exact ledger,
burned fees, and a genesis. -/
theorem reachable_invariant {P : Stage Account Ledger maxAllowedCallers → Prop}
    (hsound : config.Sound deposit) {start : PalletState Account Ledger maxAllowedCallers}
    (hgenesis : Genesis config.balances start) (hinitial : P (initialStage start))
    (heffect : ∀ action stage stage', Secured config.balances deposit stage →
      Effect config deposit stage action stage' → P stage → P stage')
    {stage : Stage Account Ledger maxAllowedCallers}
    (hreach : Reaches (Transition config deposit) (initialStage start) stage) :
    Secured config.balances deposit stage ∧ P stage := by
  refine Reaches.invariant (P := fun stage ↦ Secured config.balances deposit stage ∧ P stage) ?_
    hreach ⟨secured_initialStage deposit hgenesis, hinitial⟩
  rintro action stage stage' hstep ⟨hsecured, hp⟩
  have heff := transition_effect hsound hsecured hstep
  exact ⟨heff.secured hsecured, heffect action stage stage' hsecured heff hp⟩

/-- Every reachable stage is secured, in the middle of a body and after rollbacks too. Assumes: an
exact ledger, burned fees, and a genesis. -/
theorem secured_of_reachable (hsound : config.Sound deposit)
    {start : PalletState Account Ledger maxAllowedCallers}
    (hgenesis : Genesis config.balances start)
    {chain : ChainState Account Ledger maxAllowedCallers}
    (hreach : Reachable config deposit start chain) :
    Secured config.balances deposit chain.now :=
  (reachable_invariant (P := fun _ ↦ True) hsound hgenesis trivial (fun _ _ _ _ _ _ ↦ trivial)
    (checkpoint_reaches hreach).1).1

end Invariant

/-! ### A run of the test runtime -/

/-- A call in the test runtime. -/
def mockCall (stage : Stage ℕ MockLedger 8) (who : ℕ) (call : Call ℕ 8) : Stage ℕ MockLedger 8 :=
  stage.record mockBalances (finalState (dispatch mockBalances (.signed who) call stage.state))

theorem mockState_genesis : Genesis mockBalances mockState where
  sponsors := fun _ ↦ rfl
  onHold := fun _ _ ↦ rfl
  backed := mockState_backed

/-- A call extends a run of the test runtime. -/
theorem mockCall_reachable {stage : Stage ℕ MockLedger 8}
    {checkpoint : Option (Stage ℕ MockLedger 8)}
    (hreach : Reachable mockConfig 1 mockState ⟨stage, checkpoint⟩) (who : ℕ) (call : Call ℕ 8) :
    Reachable mockConfig 1 mockState ⟨mockCall stage who call, checkpoint⟩ :=
  hreach.advance (.call stage (.signed who) call)

/-- Account 1 has registered with a budget of 100, for account 2 and fees up to 50. -/
def mockSponsored : Stage ℕ MockLedger 8 :=
  mockCall (initialStage mockState) 1 (.registerSponsor 100 mockSponsorPolicy)

theorem mockSponsored_reachable : Reachable mockConfig 1 mockState ⟨mockSponsored, none⟩ :=
  mockCall_reachable (.refl _) 1 _

/-- Account 2 begins a transaction with a tip of 3 on the sponsor 1. -/
def mockBegin (stage : Stage ℕ MockLedger 8) : Stage ℕ MockLedger 8 :=
  stage.opened mockBalances (finalState (moveBudgetToPending mockBalances 1 5 stage.state)) mockFees
    1 2 3 mockInfo 0

/-- The transaction of account 2 is in flight, with an estimate of 5. -/
def mockInFlight : Stage ℕ MockLedger 8 :=
  mockBegin mockSponsored

theorem mockInFlight_begins : Transition mockConfig 1
    (.begin mockFees ⟨3, some 1⟩ (.signed 2) () mockInfo 0) mockSponsored mockInFlight := by
  have hvalidate : SponsoredChargeTransactionPayment.validate mockConfig mockFees ⟨3, some 1⟩
      (.signed 2) () mockInfo 0 mockSponsored.state =
        .ok (sponsoredValidity mockConfig mockInfo 0 3 5, .sponsored 1 2 5 3, .signed 2)
          mockSponsored.state := rfl
  exact .begin mockSponsored mockFees ⟨3, some 1⟩ (.signed 2) () mockInfo 0 rfl hvalidate rfl

theorem mockInFlight_reachable :
    Reachable mockConfig 1 mockState ⟨mockInFlight, some mockInFlight⟩ :=
  mockSponsored_reachable.advance mockInFlight_begins

/-- The settlement of the transaction of account 2 on the sponsor 1. -/
def mockSettle (stage : Stage ℕ MockLedger 8) : Stage ℕ MockLedger 8 :=
  stage.closed mockConfig mockFees mockPost

/-- The transaction of account 2 is settled, with an actual fee of 5. -/
def mockSettled : Stage ℕ MockLedger 8 :=
  mockSettle mockInFlight

theorem mockSettled_settles : Transition mockConfig 1
    (.settle mockFees mockPost (.ok ())) mockInFlight mockSettled :=
  settles_of_flight 1 rfl mockFees mockPost (.ok ())

theorem mockSettled_reachable : Reachable mockConfig 1 mockState ⟨mockSettled, none⟩ :=
  mockInFlight_reachable.advance mockSettled_settles

end SponsoredTx.Chain
