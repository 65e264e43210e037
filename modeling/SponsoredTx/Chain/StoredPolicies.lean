import SponsoredTx.Chain.SponsoredRuns
import SponsoredTx.Overlap.FlightRuns
import SponsoredTx.Pallet.PolicyCheck

/-!
# Stored policies are well formed

Only the lifecycle calls write entries, and `dispatch_preserves_policies` says that they keep the
stored policies well formed. The payment extension writes no entry at all: validation, preparation
and settlement leave the map of sponsors as it is, over any ledger and with any base extension. So
every state of a run is `PoliciesWellFormed`, in runs of one transaction at a time with rollbacks
(`policiesWellFormed_of_reachable`) as in runs of overlapping flights
(`policiesWellFormed_runState`).

`storedPolicies_wellFormed` adds what this means for `validate`: its membership test meets an
allowed signer at exactly one position of the allowlist and any other account at none, and with an
active entry it is the other accounts that are refused as `CallerNotAllowed` (`JudgesCallers`).
Nothing is assumed of the balances pallet here.
-/

set_option autoImplicit false
set_option relaxedAutoImplicit false

namespace SponsoredTx.Chain

open Foundation.StatefulResult Foundation.HoldLedger Foundation.Runs Pallet Extension Overlap

variable {Account Ledger RuntimeCall BaseVal BasePre : Type} {maxAllowedCallers : ℕ}
  [DecidableEq Account]

/-! ### The payment extension writes no entry -/

section Methods

variable (config : Config Account Ledger RuntimeCall BaseVal BasePre)
  (sponsors : Account → Option (SponsorState Account maxAllowedCallers))

/-- `validate` leaves the map of sponsors as it is. -/
theorem preserves_sponsors_validate (fees : TransactionPayment)
    (self : SponsoredChargeTransactionPayment Account) (origin : RawOrigin Account)
    (call : RuntimeCall) (info : DispatchInfo) (len : ℕ) :
    Preserves (fun st : PalletState Account Ledger maxAllowedCallers ↦ st.sponsors = sponsors)
      (self.validate config fees origin call info len) := by
  obtain ⟨tip, sponsor⟩ := self
  cases sponsor with
  | none => exact Preserves.bind (preserves_sponsors_onPart sponsors _) fun _ ↦ Preserves.pure _
  | some sponsor =>
    unfold SponsoredChargeTransactionPayment.validate
    cases asSystemOriginSigner origin with
    | none => exact Preserves.throw _
    | some signer =>
      refine Preserves.bind Preserves.get fun st ↦ ?_
      cases st.sponsors sponsor with
      | none => exact Preserves.throw _
      | some state =>
        refine Preserves.bind (Preserves.ensure _ _) fun _ ↦ ?_
        refine Preserves.bind (Preserves.ensure _ _) fun _ ↦ ?_
        refine Preserves.bind (Preserves.ensure _ _) fun _ ↦ ?_
        exact Preserves.bind (Preserves.ensure _ _) fun _ ↦ Preserves.pure _

omit [DecidableEq Account] in
/-- `prepare` leaves the map of sponsors as it is, also when the move of the reservation fails. -/
theorem preserves_sponsors_prepare (self : SponsoredChargeTransactionPayment Account)
    (val : SponsoredVal Account BaseVal) (origin : RawOrigin Account) (call : RuntimeCall)
    (info : DispatchInfo) (len : ℕ) :
    Preserves (fun st : PalletState Account Ledger maxAllowedCallers ↦ st.sponsors = sponsors)
      (self.prepare config val origin call info len) := by
  cases val with
  | unsponsored val =>
    exact Preserves.bind (preserves_sponsors_onPart sponsors _) fun _ ↦ Preserves.pure _
  | sponsored sponsor signer feeWithTip tip =>
    refine Preserves.bind ?_ fun _ ↦ Preserves.pure _
    exact Preserves.bind (preserves_sponsors_onPart sponsors _) fun _ ↦
      preserves_sponsors_onPart sponsors _

omit [DecidableEq Account] in
/-- `restore_pending_to_budget` leaves the map of sponsors as it is on each of its paths. -/
theorem sponsors_restorePendingToBudget (balances : Balances Account HoldReason Ledger)
    (who : Account) (st : PalletState Account Ledger maxAllowedCallers) :
    (restorePendingToBudget balances who st).sponsors = st.sponsors := by
  simp only [restorePendingToBudget]
  split_ifs with hpending
  · rfl
  · cases balances.release .sponsorshipPending who (pendingOnHold balances st who) .bestEffort
        st.ledger with
    | error e ledger => rfl
    | ok released ledger =>
      simp only
      split_ifs with hreleased
      · rfl
      · cases balances.hold .sponsorshipBudget who released ledger <;> rfl

omit [DecidableEq Account] in
/-- A settlement leaves the map of sponsors as it is. -/
theorem sponsors_settleSponsoredFee (fees : TransactionPayment) (sponsor signer : Account)
    (estimatedFeeWithTip tip : ℕ) (info : DispatchInfo) (post : PostDispatchInfo) (len : ℕ)
    (st : PalletState Account Ledger maxAllowedCallers) :
    (settleSponsoredFee config fees sponsor signer estimatedFeeWithTip tip info post len
      st).2.sponsors = st.sponsors := by
  have hclamp : ∀ charged : ℕ,
      (clampToEstimate estimatedFeeWithTip charged st).2.sponsors = st.sponsors := by
    intro charged
    unfold clampToEstimate
    split_ifs <;> rfl
  have hslash : ∀ (charged : ℕ) (st : PalletState Account Ledger maxAllowedCallers),
      (slashPending config.balances sponsor charged st).2.2.sponsors = st.sponsors := by
    intro charged st
    simp only [slashPending]
    split_ifs <;> rfl
  unfold settleSponsoredFee
  simp only [PalletState.depositEvent, sponsors_restorePendingToBudget, routeCredit, hslash, hclamp]

omit [DecidableEq Account] in
/-- `post_dispatch_details` leaves the map of sponsors as it is. -/
theorem preserves_sponsors_postDispatchDetails (fees : TransactionPayment)
    (pre : SponsoredPre Account BasePre) (info : DispatchInfo) (post : PostDispatchInfo) (len : ℕ)
    (result : Except DispatchError Unit) :
    Preserves (fun st : PalletState Account Ledger maxAllowedCallers ↦ st.sponsors = sponsors)
      (postDispatchDetails config fees pre info post len result) := by
  cases pre with
  | unsponsored pre => exact preserves_sponsors_onPart sponsors _
  | sponsored sponsor signer estimatedFeeWithTip tip =>
    intro st hsponsors
    exact (sponsors_settleSponsoredFee config fees sponsor signer estimatedFeeWithTip tip info post
      len st).trans hsponsors

/-- The validation and preparation of a transaction keep the stored policies well formed, wherever
they stop. -/
theorem preserves_policies_begin (fees : TransactionPayment)
    (self : SponsoredChargeTransactionPayment Account) (origin : RawOrigin Account)
    (call : RuntimeCall) (info : DispatchInfo) (len : ℕ) :
    Preserves PoliciesWellFormed
      ((self.validate config fees origin call info len :
          EStateM _ (PalletState Account Ledger maxAllowedCallers) _) >>=
        fun value ↦ self.prepare config value.2.1 value.2.2 call info len) := by
  refine preserves_policies_of_sponsors fun sponsors ↦ ?_
  refine Preserves.bind (preserves_sponsors_validate config sponsors fees self origin call info len)
    fun value ↦ ?_
  exact preserves_sponsors_prepare config sponsors self value.2.1 value.2.2 call info len

omit [DecidableEq Account] in
/-- A settlement keeps the stored policies well formed. -/
theorem preserves_policies_settle (fees : TransactionPayment) (pre : SponsoredPre Account BasePre)
    (info : DispatchInfo) (post : PostDispatchInfo) (len : ℕ)
    (result : Except DispatchError Unit) :
    Preserves PoliciesWellFormed (postDispatchDetails config fees pre info post len result :
      EStateM _ (PalletState Account Ledger maxAllowedCallers) _) :=
  preserves_policies_of_sponsors fun sponsors ↦
    preserves_sponsors_postDispatchDetails config sponsors fees pre info post len result

end Methods

/-! ### Runs -/

section Runs

variable {config : Config Account Ledger RuntimeCall BaseVal BasePre}

/-- Every transition of the chain keeps the stored policies well formed. -/
theorem policiesWellFormed_of_transition {deposit : ℕ}
    {action : Action Account Ledger RuntimeCall maxAllowedCallers}
    {stage stage' : Stage Account Ledger maxAllowedCallers}
    (hstep : Transition config deposit action stage stage')
    (hstored : PoliciesWellFormed stage.state) : PoliciesWellFormed stage'.state := by
  cases hstep with
  | call _ origin call =>
    exact dispatch_preserves_policies config.balances origin call stage.state hstored
  | outside _ ledger hmove => exact hstored
  | @begin _ fees self origin call info len validity val origin' validated prepared sponsor signer
      estimatedFeeWithTip tip hidle hvalidate hprepare =>
    have hprepared := preserves_policies_begin config fees self origin call info len stage.state
      hstored
    rw [bind_ok hvalidate, hprepare, finalState_ok] at hprepared
    exact hprepared
  | @settle _ fees post result flight weight settled hflight hsettle =>
    have hsettled := preserves_policies_settle config fees
      (.sponsored flight.sponsor flight.signer flight.estimatedFeeWithTip flight.tip) flight.info
      post flight.len result stage.state hstored
    rw [hsettle, finalState_ok] at hsettled
    exact hsettled

/-- Every move of overlapping flights keeps the stored policies well formed, whatever its
outcome. -/
theorem policiesWellFormed_step (traffic : Traffic Account Ledger maxAllowedCallers)
    (move : Move Account RuntimeCall maxAllowedCallers)
    (hstored : PoliciesWellFormed traffic.state) :
    PoliciesWellFormed (Overlap.step config traffic move).2.state := by
  cases move with
  | call origin call =>
    have hafter := dispatch_preserves_policies config.balances origin call traffic.state hstored
    simp only [Overlap.step]
    cases hrun : dispatch config.balances origin call traffic.state with
    | ok a state =>
      rw [hrun] at hafter
      exact hafter
    | error e state =>
      rw [hrun] at hafter
      exact hafter
  | prepare ticket sponsor fees tip origin call info len =>
    have hafter := preserves_policies_begin config fees ⟨tip, some sponsor⟩ origin call info len
      traffic.state hstored
    simp only [Overlap.step]
    split_ifs with htaken
    · exact hstored
    · cases hvalidate : SponsoredChargeTransactionPayment.validate config fees ⟨tip, some sponsor⟩
          origin call info len traffic.state with
      | error e state =>
        rw [bind_error hvalidate] at hafter
        exact hafter
      | ok value state =>
        obtain ⟨validity, val, origin'⟩ := value
        rw [bind_ok hvalidate] at hafter
        simp only
        cases hprepare : SponsoredChargeTransactionPayment.prepare config ⟨tip, some sponsor⟩ val
            origin' call info len state with
        | error e state =>
          rw [hprepare] at hafter
          exact hafter
        | ok pre state =>
          rw [hprepare] at hafter
          cases pre <;> exact hafter
  | settle ticket sponsor fees post result =>
    simp only [Overlap.step]
    cases traffic.inFlight.find? fun flight ↦ flight.isTicket sponsor ticket with
    | none => exact hstored
    | some flight =>
      exact preserves_policies_settle config fees
        (.sponsored flight.sponsor flight.signer flight.estimatedFeeWithTip flight.tip)
        flight.info post flight.len result traffic.state hstored

omit [DecidableEq Account] in
/-- A state without sponsors stores no policy. -/
theorem policiesWellFormed_of_no_sponsors {start : PalletState Account Ledger maxAllowedCallers}
    (hstart : ∀ who, start.sponsors who = none) : PoliciesWellFormed start := by
  intro who state hstate
  rw [hstart who] at hstate
  exact absurd hstate (by simp)

/-- The stored policies are well formed in every reachable state, in the middle of a body and after
rollbacks too. -/
theorem policiesWellFormed_of_reachable {deposit : ℕ}
    {start : PalletState Account Ledger maxAllowedCallers}
    (hstart : ∀ who, start.sponsors who = none)
    {chain : ChainState Account Ledger maxAllowedCallers}
    (hreach : Reachable config deposit start chain) : PoliciesWellFormed chain.now.state :=
  Reaches.invariant (P := fun stage ↦ PoliciesWellFormed stage.state)
    (fun _ _ _ hstep ↦ policiesWellFormed_of_transition hstep) (checkpoint_reaches hreach).1
    (policiesWellFormed_of_no_sponsors hstart)

/-- The stored policies stay well formed in every run of overlapping flights. -/
theorem policiesWellFormed_runState (moves : List (Move Account RuntimeCall maxAllowedCallers))
    {traffic : Traffic Account Ledger maxAllowedCallers}
    (hstored : PoliciesWellFormed traffic.state) :
    PoliciesWellFormed (runState (Overlap.step config) traffic moves).state :=
  runState_invariant (P := fun traffic ↦ PoliciesWellFormed traffic.state)
    (fun traffic move _ ↦ policiesWellFormed_step traffic move) hstored

end Runs

/-! ### What validation finds in the storage -/

/-- What a stored entry guarantees: an allowlist that is not empty, lists no account twice and has
at most `MaxAllowedCallers` accounts, so that the membership test of `validate` meets an allowed
signer once and any other account never. -/
structure StoredEntry (state : SponsorState Account maxAllowedCallers) : Prop where
  nonempty : state.policy.allowedCallers.toList ≠ []
  nodup : state.policy.allowedCallers.toList.Nodup
  length_le : state.policy.allowedCallers.toList.length ≤ maxAllowedCallers
  allowed : ∀ signer, signer ∈ state.policy.allowedCallers.toList →
    callerAllowed state.policy signer = true ∧
      state.policy.allowedCallers.toList.countP (isCaller signer) = 1
  notAllowed : ∀ signer, signer ∉ state.policy.allowedCallers.toList →
    callerAllowed state.policy signer = false ∧
      state.policy.allowedCallers.toList.countP (isCaller signer) = 0

/-- An entry with a well-formed policy guarantees all of it. -/
theorem storedEntry_of_wellFormed {state : SponsorState Account maxAllowedCallers}
    (hpolicy : state.policy.WellFormed) : StoredEntry state where
  nonempty := hpolicy.nonempty
  nodup := hpolicy.nodup
  length_le := state.policy.allowedCallers.length_le
  allowed := fun signer hmem ↦
    ⟨(callerAllowed_iff _ signer).mpr hmem, List.count_eq_one_of_mem hpolicy.nodup hmem⟩
  notAllowed := fun signer hmem ↦
    ⟨Bool.eq_false_iff.mpr (mt (callerAllowed_iff _ signer).mp hmem),
      List.count_eq_zero_of_not_mem hmem⟩

/-- What `validate` returns for the signers of an active entry: `CallerNotAllowed` for exactly those
that are not on the allowlist, and `Ok` for exactly those on it whose worst-case fee is within the
cap and the budget. -/
structure JudgesCallers (config : Config Account Ledger RuntimeCall BaseVal BasePre)
    (st : PalletState Account Ledger maxAllowedCallers) (sponsor : Account)
    (state : SponsorState Account maxAllowedCallers) : Prop where
  refused : ∀ fees tip signer call info len,
    SponsoredChargeTransactionPayment.validate config fees ⟨tip, some sponsor⟩ (.signed signer) call
        info len st = .error (invalid .callerNotAllowed) st ↔
      signer ∉ state.policy.allowedCallers.toList
  passed : ∀ fees tip signer call info len,
    (∃ value, SponsoredChargeTransactionPayment.validate config fees ⟨tip, some sponsor⟩
        (.signed signer) call info len st = .ok value st) ↔
      signer ∈ state.policy.allowedCallers.toList ∧
        fees.computeFee (UInt32.ofNat len) info tip ≤ state.policy.maxFeePerTx ∧
        fees.computeFee (UInt32.ofNat len) info tip ≤ budgetOnHold config.balances st sponsor

/-- `validate` judges the signers of every active entry so. -/
theorem judgesCallers_of_active (config : Config Account Ledger RuntimeCall BaseVal BasePre)
    {st : PalletState Account Ledger maxAllowedCallers} {sponsor : Account}
    {state : SponsorState Account maxAllowedCallers} (hentry : st.sponsors sponsor = some state)
    (hactive : state.active = true) : JudgesCallers config st sponsor state where
  refused := by
    intro fees tip signer call info len
    rw [validate_sponsored, ← admission_eq_callerNotAllowed_iff
      (show (slotOf config.balances st sponsor).entry = some state from hentry) hactive signer
      (fees.computeFee (UInt32.ofNat len) info tip)]
    split <;> simp_all
  passed := by
    intro fees tip signer call info len
    constructor
    · rintro ⟨⟨validity, val, origin⟩, hvalidate⟩
      obtain ⟨admitted, hadmission, -⟩ := (validate_eq_ok_iff rfl).mp hvalidate
      have hadmits := (admission_eq_ok_iff _ _ _ _).mp hadmission
      obtain rfl : signer = admitted := RawOrigin.signed.inj hadmits.signed
      obtain ⟨stored, hstored, -, hallowed, hcap⟩ := hadmits.policy
      obtain rfl : state = stored := Option.some.inj (hentry.symm.trans hstored)
      exact ⟨hallowed, hcap, hadmits.budget⟩
    · rintro ⟨hallowed, hcap, hbudget⟩
      have hadmission := (admission_eq_ok_iff (slotOf config.balances st sponsor) _ _ _).mpr
        ⟨rfl, ⟨state, hentry, hactive, hallowed, hcap⟩, hbudget⟩
      exact ⟨_, (validate_eq_ok_iff rfl).mpr ⟨signer, hadmission, rfl, rfl, rfl, rfl⟩⟩

/-- Stored policies are always well formed, and nothing well formed is refused. For an allowlist of
any length, `ensure_valid_policy` returns `Ok` exactly if the list is not empty and its accounts are
pairwise distinct, `EmptyAllowlist` exactly if it is empty, and `DuplicateAllowedCaller` exactly if
two positions hold the same account. Assumes of the start of a run only that it has no sponsors: in
every state reached from it, by runs of one transaction at a time as by overlapping flights, every
entry is a `StoredEntry`, and `validate` judges the signers by the allowlist of every active one. -/
theorem storedPolicies_wellFormed (config : Config Account Ledger RuntimeCall BaseVal BasePre)
    (deposit : ℕ) {start : PalletState Account Ledger maxAllowedCallers}
    (hstart : ∀ who, start.sponsors who = none) :
    (∀ (bound : ℕ) (policy : SponsorPolicy Account bound),
      (ensureValidPolicy policy = .ok () ↔
        policy.allowedCallers.toList ≠ [] ∧
          policy.allowedCallers.toList.Pairwise fun caller other ↦ caller ≠ other) ∧
      (ensureValidPolicy policy = .error .emptyAllowlist ↔ policy.allowedCallers.toList = []) ∧
      (ensureValidPolicy policy = .error .duplicateAllowedCaller ↔
        ∃ i j, i < j ∧ j < policy.allowedCallers.toList.length ∧
          policy.allowedCallers.toList[i]? = policy.allowedCallers.toList[j]?)) ∧
    (∀ chain, Reachable config deposit start chain →
      ∀ who state, chain.now.state.sponsors who = some state → StoredEntry state ∧
        (state.active = true → JudgesCallers config chain.now.state who state)) ∧
    ∀ (moves : List (Move Account RuntimeCall maxAllowedCallers)) who state,
      (runState (Overlap.step config) ⟨start, []⟩ moves).state.sponsors who = some state →
        StoredEntry state ∧ (state.active = true → JudgesCallers config
          (runState (Overlap.step config) ⟨start, []⟩ moves).state who state) := by
  refine ⟨?_, ?_, ?_⟩
  · intro bound policy
    refine ⟨?_, ensureValidPolicy_eq_empty_iff policy, ensureValidPolicy_eq_duplicate_iff policy⟩
    rw [ensureValidPolicy_eq_ok_iff]
    exact ⟨fun hpolicy ↦ ⟨hpolicy.nonempty, hpolicy.nodup⟩, fun hboth ↦ ⟨hboth.1, hboth.2⟩⟩
  · intro chain hreach who state hstate
    have hpolicy := policiesWellFormed_of_reachable hstart hreach who state hstate
    exact ⟨storedEntry_of_wellFormed hpolicy, judgesCallers_of_active config hstate⟩
  · intro moves who state hstate
    have hpolicy := policiesWellFormed_runState moves (policiesWellFormed_of_no_sponsors hstart) who
      state hstate
    exact ⟨storedEntry_of_wellFormed hpolicy, judgesCallers_of_active config hstate⟩

/-- A transaction of account 2 is settled, and then its sponsor sets a policy for two callers. -/
def mockPairStage : Stage ℕ MockLedger 8 :=
  mockCall mockSettled 1 (.setPolicy mockPairPolicy)

/-- The allowlist of two accounts matches each of them once and account 4 never; `validate` passes
account 3 and refuses account 4 with `CallerNotAllowed`. -/
theorem storedPolicies_mockPairStage :
    mockPairStage.state.sponsors 1 = some { active := true, policy := mockPairPolicy } ∧
      mockPairPolicy.allowedCallers.toList.countP (isCaller 2) = 1 ∧
      mockPairPolicy.allowedCallers.toList.countP (isCaller 3) = 1 ∧
      mockPairPolicy.allowedCallers.toList.countP (isCaller 4) = 0 ∧
      (∃ value, SponsoredChargeTransactionPayment.validate mockConfig mockFees ⟨3, some 1⟩
        (.signed 3) () mockInfo 0 mockPairStage.state = .ok value mockPairStage.state) ∧
      SponsoredChargeTransactionPayment.validate mockConfig mockFees ⟨3, some 1⟩ (.signed 4) ()
        mockInfo 0 mockPairStage.state =
          .error (invalid .callerNotAllowed) mockPairStage.state := by
  have hentry : mockPairStage.state.sponsors 1 =
      some { active := true, policy := mockPairPolicy } := rfl
  obtain ⟨hstored, hjudges⟩ :=
    (storedPolicies_wellFormed mockConfig 1 mockState_genesis.sponsors).2.1 _
      (mockCall_reachable mockSettled_reachable 1 (.setPolicy mockPairPolicy)) 1 _ hentry
  refine ⟨hentry, (hstored.allowed 2 (by decide)).2, (hstored.allowed 3 (by decide)).2,
    (hstored.notAllowed 4 (by decide)).2, ?_, ?_⟩
  · exact ((hjudges rfl).passed mockFees 3 3 () mockInfo 0).mpr (by decide)
  · exact ((hjudges rfl).refused mockFees 3 4 () mockInfo 0).mpr (by decide)

end SponsoredTx.Chain
