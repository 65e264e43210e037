import SponsoredTx.Chain.BlockExecution
import SponsoredTx.Chain.EscrowRecovery

/-!
# Unsponsored traffic cannot disturb sponsorship

Between the sponsored transactions of a block stand others that pay for themselves. They take fees
from accounts that also sponsor, move balances in their bodies, and are included or rejected by what
is free on an account; and `prepare` and the settlement pass every reservation through the free
balance of the sponsor. This module says that none of this reaches sponsorship.

`SameSponsorship` is what sponsorship consists of in a state: the entries, the two holds of every
account, the events, the routed fees and the log. `Alike` adds to it the escrow invariant of both
states, which is what makes a sponsored transaction independent of free balances. Two runs that are
`Alike` stay so when one of them makes an unsponsored transaction (`Alike.unsponsored`), and when
both make the same sponsored one, with the same outcome (`Alike.sponsored`): these are the unwinding
conditions, and `unsponsored_traffic_invisible` is their consequence for blocks.
-/

set_option autoImplicit false
set_option relaxedAutoImplicit false

namespace SponsoredTx.Chain

open Foundation.StatefulResult Foundation.HoldLedger Foundation.Pipeline Foundation.Runs
open Pallet Extension

variable {Account Ledger RuntimeCall BaseVal BasePre : Type} {maxAllowedCallers : ℕ}

/-! ### Slots with the same entry and the same holds -/

/-- Two slots that differ at most in the balance outside the two holds. -/
structure SameSlot (slot slot' : Slot Account maxAllowedCallers) : Prop where
  entry : slot.entry = slot'.entry
  onHold : slot.account.onHold = slot'.account.onHold

/-- The calls that put new money on hold. -/
def putsIn : Call Account maxAllowedCallers → Bool
  | .registerSponsor _ _ => true
  | .increaseBudget _ => true
  | .decreaseBudget _ => false
  | .setPolicy _ => false
  | .pause => false
  | .resume => false
  | .unregister => false

namespace SameSlot

variable {slot slot' : Slot Account maxAllowedCallers}

protected theorem symm (hsame : SameSlot slot slot') : SameSlot slot' slot :=
  ⟨hsame.entry.symm, hsame.onHold.symm⟩

theorem budget (hsame : SameSlot slot slot') : slot.budget = slot'.budget :=
  congrFun hsame.onHold _

theorem pending (hsame : SameSlot slot slot') : slot.pending = slot'.pending :=
  congrFun hsame.onHold _

/-- A change of the holds alone. -/
theorem withReserved (hsame : SameSlot slot slot') (amount : ℕ) :
    SameSlot { slot with account := Extension.withReserved slot.account amount }
      { slot' with account := Extension.withReserved slot'.account amount } where
  entry := hsame.entry
  onHold := by
    simp only [Extension.withReserved, AccountData.withHold, AccountData.withRelease, hsame.onHold]

/-- A settlement with the same charge. -/
theorem withSettled (hsame : SameSlot slot slot') (charged : ℕ) :
    SameSlot { slot with account := Extension.withSettled slot.account charged }
      { slot' with account := Extension.withSettled slot'.account charged } where
  entry := hsame.entry
  onHold := by
    simp only [Extension.withSettled, AccountData.withHold, AccountData.withRelease,
      AccountData.withSlash, hsame.onHold]

/-- The same call. -/
theorem after (hsame : SameSlot slot slot') (call : Call Account maxAllowedCallers) :
    SameSlot (slot.after call) (slot'.after call) := by
  have hentry := hsame.entry
  have honHold := hsame.onHold
  have hbudget := hsame.budget
  cases call <;> constructor <;>
    simp only [Slot.after, AccountData.withHold, AccountData.withRelease, hentry, honHold, hbudget]

/-- The same call is announced by the same event. -/
theorem announcement (hsame : SameSlot slot slot') (who : Account)
    (call : Call Account maxAllowedCallers) :
    slot.announcement who call = slot'.announcement who call := by
  have hbudget := hsame.budget
  cases call <;> simp only [Slot.announcement, hbudget]

variable [DecidableEq Account]

/-- The same admission. -/
theorem admission (hsame : SameSlot slot slot') (origin : RawOrigin Account) (feeWithTip : ℕ) :
    Extension.admission slot origin feeWithTip = Extension.admission slot' origin feeWithTip := by
  simp only [Extension.admission, hsame.entry, hsame.budget]

/-- On escrowed slots, a call that puts no money in is accepted by both or by none: whether a
release leaves the existential deposit is settled by the escrow. -/
theorem accepts (hsame : SameSlot slot slot') {deposit reserved : ℕ}
    (hescrowed : Escrowed deposit reserved slot') {call : Call Account maxAllowedCallers}
    (hcall : putsIn call = false) (haccepts : slot.Accepts deposit call) :
    slot'.Accepts deposit call := by
  have hentry := hsame.entry
  cases call with
  | registerSponsor initialBudget policy => cases hcall
  | increaseBudget amount => cases hcall
  | decreaseBudget amount =>
    obtain ⟨hamount, hregistered, hbudget, -⟩ := haccepts
    exact accepts_decreaseBudget hescrowed (hentry ▸ hregistered) (Nat.pos_of_ne_zero hamount)
      (hsame.budget ▸ hbudget)
  | setPolicy policy => exact ⟨haccepts.1, hentry ▸ haccepts.2⟩
  | pause =>
    obtain ⟨state, hstate, hactive⟩ := haccepts
    exact ⟨state, hentry ▸ hstate, hactive⟩
  | resume =>
    obtain ⟨state, hstate, hpaused⟩ := haccepts
    exact ⟨state, hentry ▸ hstate, hpaused⟩
  | unregister =>
    obtain ⟨hregistered, hpending, -⟩ := haccepts
    have hreserved : reserved = 0 := by
      rw [← hescrowed.pending_eq, ← hsame.pending, hpending]
    subst hreserved
    exact accepts_unregister hescrowed (hentry ▸ hregistered)

end SameSlot

/-! ### States with the same sponsorship -/

/-- What sponsorship consists of is the same: the entries, the two holds of every account, the
events, the routed fees and the log. -/
structure SameSponsorship (balances : Balances Account HoldReason Ledger)
    (first second : PalletState Account Ledger maxAllowedCallers) : Prop where
  sponsors : first.sponsors = second.sponsors
  onHold : ∀ who, (balances.account first.ledger who).onHold =
    (balances.account second.ledger who).onHold
  events : first.events = second.events
  routed : first.routed = second.routed
  log : first.log = second.log

/-- Two states with the same sponsorship in both of which every slot is escrowed. -/
structure Alike (balances : Balances Account HoldReason Ledger) (deposit : ℕ)
    (reserved : Account → ℕ) (first second : PalletState Account Ledger maxAllowedCallers) : Prop
    extends SameSponsorship balances first second where
  escrowed : ∀ who, Escrowed deposit (reserved who) (slotOf balances first who)
  escrowed' : ∀ who, Escrowed deposit (reserved who) (slotOf balances second who)

/-- The sponsorship of one state is that of another which shares it with a third. -/
theorem SameSponsorship.of_common {balances : Balances Account HoldReason Ledger}
    {first second common : PalletState Account Ledger maxAllowedCallers}
    (hfirst : SameSponsorship balances first common)
    (hsecond : SameSponsorship balances second common) :
    SameSponsorship balances first second where
  sponsors := hfirst.sponsors.trans hsecond.sponsors.symm
  onHold := fun who ↦ (hfirst.onHold who).trans (hsecond.onHold who).symm
  events := hfirst.events.trans hsecond.events.symm
  routed := hfirst.routed.trans hsecond.routed.symm
  log := hfirst.log.trans hsecond.log.symm

namespace Alike

variable {balances : Balances Account HoldReason Ledger} {deposit : ℕ} {reserved : Account → ℕ}
  {first second first' second' : PalletState Account Ledger maxAllowedCallers}

protected theorem symm (halike : Alike balances deposit reserved first second) :
    Alike balances deposit reserved second first where
  sponsors := halike.sponsors.symm
  onHold := fun who ↦ (halike.onHold who).symm
  events := halike.events.symm
  routed := halike.routed.symm
  log := halike.log.symm
  escrowed := halike.escrowed'
  escrowed' := halike.escrowed

theorem slot (halike : Alike balances deposit reserved first second) (who : Account) :
    SameSlot (slotOf balances first who) (slotOf balances second who) :=
  ⟨congrFun halike.sponsors who, halike.onHold who⟩

/-- A movement outside the pallet in one of the two states. -/
theorem outside (halike : Alike balances deposit reserved first second) {ledger : Ledger}
    (hmove : OutsideMove balances deposit first.ledger ledger) :
    Alike balances deposit reserved { first with ledger } second where
  sponsors := halike.sponsors
  onHold := fun who ↦ (hmove.onHold who).trans (halike.onHold who)
  events := halike.events
  routed := halike.routed
  log := halike.log
  escrowed := fun who ↦ (halike.escrowed who).of_outside (hmove.onHold who) (hmove.alive who)
    (hmove.free who)
  escrowed' := halike.escrowed'

variable [DecidableEq Account]

/-- A change of the slot of one account in both states. -/
theorem update (halike : Alike balances deposit reserved first second) {who : Account}
    {slot slot' : Slot Account maxAllowedCallers} (reserved' : Account → ℕ)
    (hslots : slotOf balances first' = Function.update (slotOf balances first) who slot)
    (hslots' : slotOf balances second' = Function.update (slotOf balances second) who slot')
    (hsame : SameSlot slot slot') (hescrowed : Escrowed deposit (reserved' who) slot)
    (hescrowed' : Escrowed deposit (reserved' who) slot')
    (hreserved : ∀ other, other ≠ who → reserved' other = reserved other)
    (hevents : first'.events = second'.events) (hrouted : first'.routed = second'.routed)
    (hlog : first'.log = second'.log) : Alike balances deposit reserved' first' second' := by
  have hslot : ∀ other,
      SameSlot (slotOf balances first' other) (slotOf balances second' other) := by
    intro other
    rw [hslots, hslots']
    by_cases hother : other = who
    · rw [hother, Function.update_self, Function.update_self]
      exact hsame
    · rw [Function.update_of_ne hother, Function.update_of_ne hother]
      exact halike.slot other
  exact
    { sponsors := funext fun other ↦ (hslot other).entry
      onHold := fun other ↦ (hslot other).onHold
      events := hevents
      routed := hrouted
      log := hlog
      escrowed := escrowed_of_update reserved' hslots halike.escrowed hescrowed hreserved
      escrowed' := escrowed_of_update reserved' hslots' halike.escrowed' hescrowed' hreserved }

/-- A lifecycle call that puts no money in, in both states. -/
theorem call (hexact : balances.Exact deposit)
    (halike : Alike balances deposit reserved first second) (origin : RawOrigin Account)
    {call : Call Account maxAllowedCallers} (hcall : putsIn call = false) :
    Alike balances deposit reserved (finalState (dispatch balances origin call first))
      (finalState (dispatch balances origin call second)) := by
  by_cases hsigned : ∃ who, origin = .signed who
  · obtain ⟨who, rfl⟩ := hsigned
    have haccepts : (slotOf balances first who).Accepts deposit call ↔
        (slotOf balances second who).Accepts deposit call :=
      ⟨(halike.slot who).accepts (halike.escrowed' who) hcall,
        (halike.slot who).symm.accepts (halike.escrowed who) hcall⟩
    cases hrefusal : (slotOf balances first who).refusal deposit call with
    | none =>
      have haccepted := (Slot.refusal_eq_none_iff _ deposit call).mp hrefusal
      obtain ⟨after, hok, hadvances⟩ := dispatch_signed_of_accepted hexact hrefusal
      obtain ⟨after', hok', hadvances'⟩ := dispatch_signed_of_accepted hexact
        ((Slot.refusal_eq_none_iff _ deposit call).mpr (haccepts.mp haccepted))
      rw [hok, hok', finalState_ok, finalState_ok]
      refine halike.update reserved hadvances.slots hadvances'.slots ((halike.slot who).after call)
        ((halike.escrowed who).after_call haccepted)
        ((halike.escrowed' who).after_call (haccepts.mp haccepted)) (fun _ _ ↦ rfl) ?_ ?_ ?_
      · rw [hadvances.events, hadvances'.events, halike.events,
          (halike.slot who).announcement who call]
      · rw [hadvances.routed, hadvances'.routed, halike.routed]
      · rw [hadvances.log, hadvances'.log, halike.log]
    | some e =>
      have hrefused : (slotOf balances second who).refusal deposit call ≠ none := by
        intro hnone
        have haccepted := haccepts.mpr ((Slot.refusal_eq_none_iff _ deposit call).mp hnone)
        rw [(Slot.refusal_eq_none_iff _ deposit call).mpr haccepted] at hrefusal
        cases hrefusal
      obtain ⟨e', hrefusal'⟩ := Option.ne_none_iff_exists'.mp hrefused
      rw [dispatch_signed_of_refused hexact hrefusal, dispatch_signed_of_refused hexact hrefusal',
        finalState_error, finalState_error]
      exact halike
  · have hother : ∀ who, origin ≠ .signed who := fun who heq ↦ hsigned ⟨who, heq⟩
    rw [dispatch_of_not_signed first hother, dispatch_of_not_signed second hother, finalState_error,
      finalState_error]
    exact halike

/-- The steps of a body that puts no money in, in both states, by induction on the body. -/
theorem body (hexact : balances.Exact deposit)
    {actions : List (BodyAction Account Ledger maxAllowedCallers)}
    (hmoves : ∀ move, .outside move ∈ actions → ∀ ledger,
      OutsideMove balances deposit ledger (move ledger))
    (hcalls : ∀ origin call, .call origin call ∈ actions → putsIn call = false)
    (halike : Alike balances deposit reserved first second) :
    Alike balances deposit reserved (actions.foldl (BodyAction.run balances) first)
      (actions.foldl (BodyAction.run balances) second) := by
  induction actions generalizing first second with
  | nil => exact halike
  | cons action rest ih =>
    refine ih (fun move hmove ↦ hmoves move (List.mem_cons_of_mem _ hmove))
      (fun origin call hcall ↦ hcalls origin call (List.mem_cons_of_mem _ hcall)) ?_
    cases action with
    | call origin call => exact halike.call hexact origin (hcalls origin call List.mem_cons_self)
    | outside move =>
      have hmove := hmoves move List.mem_cons_self
      exact ((halike.outside (hmove first.ledger)).symm.outside (hmove second.ledger)).symm

/-- The steps of a body without lifecycle calls, in one of the two states. -/
theorem body_outside {actions : List (BodyAction Account Ledger maxAllowedCallers)}
    (hmoves : ∀ move, .outside move ∈ actions → ∀ ledger,
      OutsideMove balances deposit ledger (move ledger))
    (hcalls : ∀ origin call, .call origin call ∉ actions)
    (halike : Alike balances deposit reserved first second) :
    Alike balances deposit reserved (actions.foldl (BodyAction.run balances) first) second := by
  induction actions generalizing first with
  | nil => exact halike
  | cons action rest ih =>
    refine ih (fun move hmove ↦ hmoves move (List.mem_cons_of_mem _ hmove))
      (fun origin call hcall ↦ hcalls origin call (List.mem_cons_of_mem _ hcall)) ?_
    cases action with
    | call origin call => exact absurd List.mem_cons_self (hcalls origin call)
    | outside move => exact halike.outside (hmoves move List.mem_cons_self first.ledger)

end Alike

/-! ### Transactions -/

section Transactions

variable [DecidableEq Account] {config : Config Account Ledger RuntimeCall BaseVal BasePre}
  {deposit : ℕ}

/-- The transaction names a sponsor. -/
def namesSponsor (tx : Transaction Account Ledger RuntimeCall maxAllowedCallers) : Bool :=
  tx.extension.sponsor.isSome

/-- The transactions of a block in which money is put on hold by nobody: an unsponsored transaction
makes no lifecycle call, a sponsored one none that puts money in, and the worst-case fee of a
sponsored transaction is not zero. The balance movements in the bodies respect holds. -/
structure KeepsApart (config : Config Account Ledger RuntimeCall BaseVal BasePre) (deposit : ℕ)
    (tx : Transaction Account Ledger RuntimeCall maxAllowedCallers) : Prop where
  moves : tx.BodyMovesOutside config.balances deposit
  unsponsored : namesSponsor tx = false → ∀ origin call, .call origin call ∉ tx.body
  sponsored : namesSponsor tx = true →
    ∀ origin call, .call origin call ∈ tx.body → putsIn call = false
  fee : namesSponsor tx = true → estimate config tx ≠ 0

section Sponsored

variable {st : PalletState Account Ledger maxAllowedCallers} {sponsor : Account}
  {tx : Transaction Account Ledger RuntimeCall maxAllowedCallers}

/-- A sponsored transaction that is not admitted is rejected. -/
theorem process_of_refused (hsponsor : tx.extension.sponsor = some sponsor)
    {e : TransactionValidityError}
    (hadmission : admission (slotOf config.balances st sponsor) tx.origin (estimate config tx) =
      .error e) :
    process (sponsoredHooks config) (dispatchBody config.balances) st tx = (.rejected e, st) :=
  process_of_invalid _ _ (validate_of_refused hsponsor hadmission)

/-- On an escrowed slot, a sponsored transaction with a fee that is admitted is included: its
estimate is reserved, its body is dispatched and it is settled. Assumes: an exact ledger. -/
theorem process_of_admitted (hexact : config.balances.Exact deposit) {reserved : ℕ}
    (hescrowed : Escrowed deposit reserved (slotOf config.balances st sponsor))
    (hsponsor : tx.extension.sponsor = some sponsor) (hfee : estimate config tx ≠ 0)
    {signer : Account}
    (hadmission : admission (slotOf config.balances st sponsor) tx.origin (estimate config tx) =
      .ok signer) :
    let slot := slotOf config.balances st sponsor
    let info := (sponsoredHooks config).weigh tx
    ∃ prepared, Advances config.balances st sponsor
        { slot with account := withReserved slot.account (estimate config tx) } [] prepared ∧
      process (sponsoredHooks config) (dispatchBody config.balances) st tx =
        (.included (sponsoredValidity config info tx.len tx.extension.tip (estimate config tx))
          (tx.post, tx.result)
          (config.dbWeight.readsWrites sponsoredPostDispatchReads sponsoredPostDispatchWrites),
        (settleSponsoredFee config tx.fees sponsor signer (estimate config tx) tx.extension.tip info
          tx.post tx.len (dispatchBody config.balances tx info tx.origin prepared).2).2) := by
  intro slot info
  have hvalidate : (sponsoredHooks config).validate tx info st =
      .ok (sponsoredValidity config info tx.len tx.extension.tip (estimate config tx),
        .sponsored sponsor signer (estimate config tx) tx.extension.tip, tx.origin) st :=
    (validate_eq_ok_iff hsponsor).mpr ⟨signer, hadmission, rfl, rfl, rfl, rfl⟩
  have hbudget := ((admission_eq_ok_iff _ _ _ _).mp hadmission).budget
  obtain ⟨prepared, hadvances, hprepare⟩ := prepare_sponsored hexact tx.extension sponsor signer
    (estimate config tx) tx.extension.tip tx.origin tx.call info tx.len st
  rw [reserve_of_escrowed hescrowed hbudget] at hadvances hprepare
  simp only [hfee, false_and, if_false] at hprepare
  refine ⟨prepared, hadvances, ?_⟩
  rw [← dispatchBody_report config.balances tx info tx.origin prepared]
  refine process_of_settled _ _ hvalidate hprepare ?_
  rw [dispatchBody_report]
  rfl

end Sponsored

namespace Alike

variable {reserved : Account → ℕ}
  {first second first' second' : PalletState Account Ledger maxAllowedCallers}
  {tx : Transaction Account Ledger RuntimeCall maxAllowedCallers}

/-- An unsponsored transaction in one of the two states, included or rejected. -/
theorem unsponsored (hbase : MovesOutside config deposit) (htx : KeepsApart config deposit tx)
    (hsponsor : namesSponsor tx = false)
    (halike : Alike config.balances deposit reserved first second) :
    Alike config.balances deposit reserved
      (process (sponsoredHooks config) (dispatchBody config.balances) first tx).2 second := by
  have hnone : tx.extension.sponsor = none :=
    Option.not_isSome_iff_eq_none.mp (Bool.eq_false_iff.mp hsponsor)
  rcases process_unsponsored config first hnone with
    ⟨e, hrejected⟩ | ⟨validity, base, origin, validated, pre, prepared, unspent, settled,
      hvalidated, hprepared, hsettled, hfinal⟩
  · rwa [hrejected]
  rw [hfinal]
  have hcharged := (halike.outside (hbase.validate _ _ _ _ _ _ _ _ hvalidated)).outside
    (hbase.prepare _ _ _ _ _ _ _ _ _ hprepared)
  refine Alike.outside ?_ (hbase.postDispatchDetails _ _ _ _ _ _ _ _ hsettled)
  unfold dispatchBody
  cases tx.result with
  | ok _ => exact hcharged.body_outside htx.moves (htx.unsponsored hsponsor)
  | error _ => exact hcharged

/-- A reservation within the budget in both states. -/
theorem reserve (halike : Alike config.balances deposit (fun _ ↦ 0) first second)
    {sponsor : Account} {amount : ℕ}
    (hbudget : amount ≤ (slotOf config.balances first sponsor).budget)
    (hbudget' : amount ≤ (slotOf config.balances second sponsor).budget)
    (hadvances : Advances config.balances first sponsor
      { slotOf config.balances first sponsor with
        account := withReserved (slotOf config.balances first sponsor).account amount } []
      first')
    (hadvances' : Advances config.balances second sponsor
      { slotOf config.balances second sponsor with
        account := withReserved (slotOf config.balances second sponsor).account amount } []
      second') :
    Alike config.balances deposit (Function.update (fun _ ↦ 0) sponsor amount) first' second' := by
  refine halike.update _ hadvances.slots hadvances'.slots
    ((halike.slot sponsor).withReserved amount) ?_ ?_
    (fun other hother ↦ Function.update_of_ne hother _ _) ?_ ?_ ?_
  · simpa using (halike.escrowed sponsor).withReserved hbudget
  · simpa using (halike.escrowed' sponsor).withReserved hbudget'
  · rw [hadvances.events, hadvances'.events, halike.events]
  · rw [hadvances.routed, hadvances'.routed, halike.routed]
  · rw [hadvances.log, hadvances'.log, halike.log]

/-- The settlement of a reserved estimate in both states. Assumes: an exact ledger and burned
fees. -/
theorem settle (hsound : config.Sound deposit) {sponsor : Account} {amount : ℕ}
    (halike : Alike config.balances deposit (Function.update (fun _ ↦ 0) sponsor amount) first
      second)
    (fees : TransactionPayment) (signer : Account) (tip : ℕ) (info : DispatchInfo)
    (post : PostDispatchInfo) (len : ℕ) :
    Alike config.balances deposit (fun _ ↦ 0)
      (settleSponsoredFee config fees sponsor signer amount tip info post len first).2
      (settleSponsoredFee config fees sponsor signer amount tip info post len second).2 := by
  have hescrowed := halike.escrowed sponsor
  have hescrowed' := halike.escrowed' sponsor
  rw [Function.update_self] at hescrowed hescrowed'
  have hsettles := settles_of_escrowed hsound hescrowed fees signer tip info post len
  have hsettles' := settles_of_escrowed hsound hescrowed' fees signer tip info post len
  refine halike.update _ hsettles.slots hsettles'.slots ((halike.slot sponsor).withSettled _)
    (hescrowed.withSettled _) (hescrowed'.withSettled _)
    (fun other hother ↦ by rw [Function.update_of_ne hother]) ?_ ?_ ?_
  · rw [hsettles.events, hsettles'.events, halike.events]
  · rw [hsettles.routed, hsettles'.routed, halike.routed]
  · rw [hsettles.log, hsettles'.log, halike.log]

/-- A sponsored transaction in both states has the same outcome. Assumes: an exact ledger and burned
fees. -/
theorem sponsored (hsound : config.Sound deposit) (htx : KeepsApart config deposit tx)
    (hsponsor : namesSponsor tx = true)
    (halike : Alike config.balances deposit (fun _ ↦ 0) first second) :
    let done := process (sponsoredHooks config) (dispatchBody config.balances) first tx
    let done' := process (sponsoredHooks config) (dispatchBody config.balances) second tx
    done.1 = done'.1 ∧ Alike config.balances deposit (fun _ ↦ 0) done.2 done'.2 := by
  intro done done'
  obtain ⟨sponsor, hnamed⟩ := Option.isSome_iff_exists.mp hsponsor
  have hsame := (halike.slot sponsor).admission tx.origin (estimate config tx)
  cases hadmission : admission (slotOf config.balances first sponsor) tx.origin
      (estimate config tx) with
  | error e =>
    rw [show done = _ from process_of_refused hnamed hadmission,
      show done' = _ from process_of_refused hnamed (hsame ▸ hadmission)]
    exact ⟨rfl, halike⟩
  | ok signer =>
    have hadmission' := hsame.symm.trans hadmission
    obtain ⟨prepared, hadvances, hdone⟩ := process_of_admitted hsound.exact
      (halike.escrowed sponsor) hnamed (htx.fee hsponsor) hadmission
    obtain ⟨prepared', hadvances', hdone'⟩ := process_of_admitted hsound.exact
      (halike.escrowed' sponsor) hnamed (htx.fee hsponsor) hadmission'
    rw [show done = _ from hdone, show done' = _ from hdone']
    have hprepared := halike.reserve ((admission_eq_ok_iff _ _ _ _).mp hadmission).budget
      ((admission_eq_ok_iff _ _ _ _).mp hadmission').budget hadvances hadvances'
    refine ⟨rfl, Alike.settle hsound ?_ tx.fees signer tx.extension.tip _ tx.post tx.len⟩
    unfold dispatchBody
    cases tx.result with
    | ok _ => exact hprepared.body hsound.exact htx.moves (htx.sponsored hsponsor)
    | error _ => exact hprepared

end Alike

/-- The transactions of a block that keeps apart unwind: an unsponsored one is invisible to
sponsorship, and a sponsored one is determined by it. -/
theorem unwindsOn_process (hsound : config.Sound deposit) (hbase : MovesOutside config deposit) :
    UnwindsOn (process (sponsoredHooks config) (dispatchBody config.balances))
      (fun tx : Transaction Account Ledger RuntimeCall maxAllowedCallers ↦ namesSponsor tx)
      (KeepsApart config deposit) (Alike config.balances deposit fun _ ↦ 0) where
  invisible := fun _ _ _ htx hsponsor halike ↦ halike.unsponsored hbase htx hsponsor
  determined := fun _ _ _ htx hsponsor halike ↦ halike.sponsored hsound htx hsponsor

/-- Unsponsored traffic cannot disturb sponsorship. Assumes: an exact ledger, burned fees, and a
base extension and bodies whose balance movements respect holds. From any state that a run of the
chain reaches between transactions, execute two blocks with the same sponsored transactions, in the
same order, and with any unsponsored ones between them, included or rejected; no unsponsored body
makes a lifecycle call, no sponsored body puts money on hold, and every sponsored transaction has a
worst-case fee. Then every sponsored transaction has the same outcome in both blocks, and after them
the entries, the holds of every account, the events, the routed fees and the log are the same,
whatever the sponsors themselves have paid and spent in between. -/
theorem unsponsored_traffic_invisible (hsound : config.Sound deposit)
    (hbase : MovesOutside config deposit)
    {genesis : PalletState Account Ledger maxAllowedCallers}
    (hgenesis : Genesis config.balances genesis)
    {chain : ChainState Account Ledger maxAllowedCallers}
    (hreach : Reachable config deposit genesis chain) (hidle : chain.now.flight = none)
    {txs txs' : List (Transaction Account Ledger RuntimeCall maxAllowedCallers)}
    (htxs : ∀ tx ∈ txs, KeepsApart config deposit tx)
    (htxs' : ∀ tx ∈ txs', KeepsApart config deposit tx)
    (hsame : txs.filter namesSponsor = txs'.filter namesSponsor) :
    let hooks := sponsoredHooks config
    let body := dispatchBody config.balances
    outputs (process hooks body) namesSponsor chain.now.state txs =
      outputs (process hooks body) namesSponsor chain.now.state txs' ∧
    SameSponsorship config.balances (processAll hooks body chain.now.state txs).2
      (processAll hooks body chain.now.state txs').2 := by
  intro hooks body
  have hescrowed : ∀ who, Escrowed deposit 0 (slotOf config.balances chain.now.state who) := by
    intro who
    have hsecured := (secured_of_reachable hsound hgenesis hreach).escrowed who
    rwa [hidle] at hsecured
  have halike : Alike config.balances deposit (fun _ ↦ 0) chain.now.state chain.now.state :=
    ⟨⟨rfl, fun _ ↦ rfl, rfl, rfl, rfl⟩, hescrowed, hescrowed⟩
  -- Both blocks are compared with the block of their sponsored transactions.
  obtain ⟨houtputs, hfinal⟩ := (unwindsOn_process hsound hbase).purge htxs halike
  obtain ⟨houtputs', hfinal'⟩ := (unwindsOn_process hsound hbase).purge htxs' halike
  rw [hsame] at houtputs hfinal
  rw [processAll_eq, processAll_eq]
  exact ⟨houtputs.trans houtputs'.symm,
    hfinal.toSameSponsorship.of_common hfinal'.toSameSponsorship⟩

end Transactions

/-- Account 1 spends all it has free down to the existential deposit. -/
def spendAll : BodyAction ℕ MockLedger 8 :=
  .outside fun ledger ↦ withdraw 1 ((ledger.account 1).free - 1) ledger

/-- A transaction of the test runtime whose body at most spends so keeps apart. -/
theorem keepsApart_mockTransaction (sponsor : Option ℕ) (signer : ℕ)
    {body : List (BodyAction ℕ MockLedger 8)} (hbody : body ⊆ [spendAll]) :
    KeepsApart payingConfig 1 (mockTransaction sponsor signer body (.ok ())) := by
  have hcalls : ∀ origin call, .call origin call ∉ body := by
    intro origin call hcall
    exact absurd (List.mem_singleton.mp (hbody hcall)) (by simp [spendAll])
  refine ⟨?_, fun _ ↦ hcalls, fun _ origin call hcall ↦ absurd hcall (hcalls origin call),
    fun _ ↦ Nat.succ_ne_zero 4⟩
  intro move hmove ledger
  have hspend := List.mem_singleton.mp (hbody hmove)
  rw [spendAll, BodyAction.outside.injEq] at hspend
  rw [hspend]
  exact outsideMove_withdraw le_rfl

/-- Account 1 sponsors a transaction of account 2. Before it, account 1 pays for a transaction of
its own in which it spends all it can; after it, account 1 cannot pay for another one, which is
rejected. -/
def spendingBlock : List (Transaction ℕ MockLedger Unit 8) :=
  [mockTransaction none 1 [spendAll] (.ok ()), mockTransaction (some 1) 2 [] (.ok ()),
    mockTransaction none 1 [] (.ok ())]

theorem unsponsored_traffic_invisible_spendingBlock :
    let hooks := sponsoredHooks payingConfig
    let body := dispatchBody mockBalances
    let alone := [mockTransaction (some 1) 2 [] (.ok ())]
    let busy := (processAll hooks body mockSponsored.state spendingBlock).2
    let quiet := (processAll hooks body mockSponsored.state alone).2
    (mockBalances.account busy.ledger 1).free = 1 ∧
      (mockBalances.account quiet.ledger 1).free = 900 ∧
      budgetOnHold mockBalances quiet 1 = 95 ∧
      outputs (process hooks body) namesSponsor mockSponsored.state spendingBlock =
        outputs (process hooks body) namesSponsor mockSponsored.state alone ∧
      SameSponsorship mockBalances busy quiet := by
  intro hooks body alone busy quiet
  have hreach : Reachable payingConfig 1 mockState ⟨mockSponsored, none⟩ :=
    Reachable.advance (.refl _) (.call (initialStage mockState) (.signed 1) _)
  have hspending : ∀ tx ∈ spendingBlock, KeepsApart payingConfig 1 tx := by
    intro tx htx
    simp only [spendingBlock, List.mem_cons, List.not_mem_nil, or_false] at htx
    rcases htx with rfl | rfl | rfl <;> exact keepsApart_mockTransaction _ _ (by simp)
  have halone : ∀ tx ∈ alone, KeepsApart payingConfig 1 tx := by
    intro tx htx
    rw [List.mem_singleton.mp htx]
    exact keepsApart_mockTransaction _ _ (by simp)
  exact ⟨by decide, by decide, by decide, unsponsored_traffic_invisible payingConfig_sound
    payingConfig_movesOutside mockState_genesis hreach rfl hspending halone rfl⟩

end SponsoredTx.Chain
