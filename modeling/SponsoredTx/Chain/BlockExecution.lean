import SponsoredTx.Chain.SponsoredRuns
import SponsoredTx.Foundation.Pipeline

/-!
# Blocks of transactions

The framework drives the extension: for every transaction of a block it takes the weight, calls
`validate` and `prepare`, dispatches the call and hands the report to `post_dispatch_details`. The
extension is a set of hooks in the sense of `Foundation.Pipeline` (`sponsoredHooks`), and a block is
executed by `processAll` with them. A transaction that fails a hook is not included.

`block_is_chain_run` connects this to the rest. It says that the chain of `SponsoredRuns` has all
the steps it needs: whatever a block of sponsored and unsponsored transactions does, a run of the
chain does too, and it ends between transactions.
-/

set_option autoImplicit false
set_option relaxedAutoImplicit false

namespace SponsoredTx.Chain

open Foundation.StatefulResult Foundation.HoldLedger Foundation.SaturatingWeight Foundation.Pipeline
open Foundation.Runs Pallet Extension

variable {Account Ledger RuntimeCall BaseVal BasePre : Type} {maxAllowedCallers : ℕ}
  [DecidableEq Account]

/-! ### Transactions and their hooks -/

/-- A step of the body of a dispatch: a lifecycle call, or a balance movement outside the pallet. -/
inductive BodyAction (Account Ledger : Type) (maxAllowedCallers : ℕ)
  | call (origin : RawOrigin Account) (call : Call Account maxAllowedCallers)
  | outside (move : Ledger → Ledger)

/-- Run one step of a body. -/
def BodyAction.run (balances : Balances Account HoldReason Ledger)
    (st : PalletState Account Ledger maxAllowedCallers) :
    BodyAction Account Ledger maxAllowedCallers → PalletState Account Ledger maxAllowedCallers
  | .call origin lifecycle => finalState (dispatch balances origin lifecycle st)
  | .outside move => { st with ledger := move st.ledger }

/-- A transaction as it stands in a block: its extension, what the framework knows about its call,
the fee functions of the block, and what the dispatch does and reports. -/
structure Transaction (Account Ledger RuntimeCall : Type) (maxAllowedCallers : ℕ) where
  extension : SponsoredChargeTransactionPayment Account
  origin : RawOrigin Account
  call : RuntimeCall
  info : DispatchInfo
  len : ℕ
  fees : TransactionPayment
  body : List (BodyAction Account Ledger maxAllowedCallers)
  post : PostDispatchInfo
  result : Except DispatchError Unit

/-- What the framework learns from a dispatch. -/
abbrev Report : Type := PostDispatchInfo × Except DispatchError Unit

/-- The dispatch of a transaction. A failed dispatch is rolled back. -/
def dispatchBody (balances : Balances Account HoldReason Ledger)
    (tx : Transaction Account Ledger RuntimeCall maxAllowedCallers) (_ : DispatchInfo)
    (_ : RawOrigin Account) (st : PalletState Account Ledger maxAllowedCallers) :
    Report × PalletState Account Ledger maxAllowedCallers :=
  match tx.result with
  | .ok _ => ((tx.post, tx.result), tx.body.foldl (BodyAction.run balances) st)
  | .error _ => ((tx.post, tx.result), st)

/-- The hooks of `SponsoredChargeTransactionPayment`. -/
def sponsoredHooks (config : Config Account Ledger RuntimeCall BaseVal BasePre) :
    Hooks (Transaction Account Ledger RuntimeCall maxAllowedCallers) DispatchInfo ValidTransaction
      (RawOrigin Account) Report Weight TransactionValidityError
      (PalletState Account Ledger maxAllowedCallers) (SponsoredVal Account BaseVal)
      (SponsoredPre Account BasePre) where
  weigh := fun tx ↦ { tx.info with extensionWeight := tx.extension.weight config tx.call }
  validate := fun tx info ↦ tx.extension.validate config tx.fees tx.origin tx.call info tx.len
  prepare := fun tx info origin val ↦ tx.extension.prepare config val origin tx.call info tx.len
  settle := fun tx info pre report ↦
    postDispatchDetails config tx.fees pre info report.1 tx.len report.2

/-- The fee that validation computes for a transaction. -/
def estimate (config : Config Account Ledger RuntimeCall BaseVal BasePre)
    (tx : Transaction Account Ledger RuntimeCall maxAllowedCallers) : ℕ :=
  tx.fees.computeFee (UInt32.ofNat tx.len)
    { tx.info with extensionWeight := tx.extension.weight config tx.call } tx.extension.tip

/-! ### Blocks are runs of the chain -/

/-- What the balances pallet documents about the base extension: a hook that returns has at most
taken or refunded a fee, which is a movement outside this pallet. -/
structure MovesOutside (config : Config Account Ledger RuntimeCall BaseVal BasePre)
    (deposit : ℕ) : Prop where
  validate : ∀ tip origin call info len ledger found ledger',
    config.base.validate tip origin call info len ledger = .ok found ledger' →
    OutsideMove config.balances deposit ledger ledger'
  prepare : ∀ tip val origin call info len ledger pre ledger',
    config.base.prepare tip val origin call info len ledger = .ok pre ledger' →
    OutsideMove config.balances deposit ledger ledger'
  postDispatchDetails : ∀ pre info post len result ledger weight ledger',
    config.base.postDispatchDetails pre info post len result ledger = .ok weight ledger' →
    OutsideMove config.balances deposit ledger ledger'

/-- The balance movements of a body are movements outside the pallet. -/
def Transaction.BodyMovesOutside (balances : Balances Account HoldReason Ledger) (deposit : ℕ)
    (tx : Transaction Account Ledger RuntimeCall maxAllowedCallers) : Prop :=
  ∀ move, .outside move ∈ tx.body → ∀ ledger, OutsideMove balances deposit ledger (move ledger)

section Runs

variable {config : Config Account Ledger RuntimeCall BaseVal BasePre} {deposit : ℕ}
  {start : PalletState Account Ledger maxAllowedCallers}

/-- Some run of the chain leads to a state with a given transaction in flight. -/
def Arrives (config : Config Account Ledger RuntimeCall BaseVal BasePre) (deposit : ℕ)
    (start st : PalletState Account Ledger maxAllowedCallers)
    (flight : Option (Flight Account Ledger maxAllowedCallers)) : Prop :=
  ∃ chain, Reachable config deposit start chain ∧ chain.now.state = st ∧ chain.now.flight = flight

/-- A movement outside the pallet extends a run. -/
theorem Arrives.outside {st : PalletState Account Ledger maxAllowedCallers}
    {flight : Option (Flight Account Ledger maxAllowedCallers)}
    (harrives : Arrives config deposit start st flight) {ledger : Ledger}
    (hmove : OutsideMove config.balances deposit st.ledger ledger) :
    Arrives config deposit start { st with ledger } flight := by
  obtain ⟨chain, hreach, rfl, hflight⟩ := harrives
  exact ⟨_, hreach.advance (.outside chain.now ledger hmove), rfl, hflight⟩

/-- A lifecycle call extends a run. -/
theorem Arrives.call {st : PalletState Account Ledger maxAllowedCallers}
    {flight : Option (Flight Account Ledger maxAllowedCallers)}
    (harrives : Arrives config deposit start st flight) (origin : RawOrigin Account)
    (call : Call Account maxAllowedCallers) :
    Arrives config deposit start (finalState (dispatch config.balances origin call st))
      flight := by
  obtain ⟨chain, hreach, rfl, hflight⟩ := harrives
  exact ⟨_, hreach.advance (.call chain.now origin call), rfl, hflight⟩

/-- The steps of a body extend a run. -/
theorem Arrives.body {body : List (BodyAction Account Ledger maxAllowedCallers)}
    (hbody : ∀ move, .outside move ∈ body → ∀ ledger,
      OutsideMove config.balances deposit ledger (move ledger))
    {st : PalletState Account Ledger maxAllowedCallers}
    {flight : Option (Flight Account Ledger maxAllowedCallers)}
    (harrives : Arrives config deposit start st flight) :
    Arrives config deposit start (body.foldl (BodyAction.run config.balances) st) flight := by
  induction body generalizing st with
  | nil => exact harrives
  | cons action rest ih =>
    refine ih (fun move hmove ↦ hbody move (List.mem_cons_of_mem _ hmove)) ?_
    cases action with
    | call origin call => exact harrives.call origin call
    | outside move => exact harrives.outside (hbody move List.mem_cons_self st.ledger)

/-- A dispatch extends a run; a failed one is rolled back, so it adds no step. -/
theorem Arrives.dispatched {tx : Transaction Account Ledger RuntimeCall maxAllowedCallers}
    (htx : tx.BodyMovesOutside config.balances deposit) (info : DispatchInfo)
    (origin : RawOrigin Account) {st : PalletState Account Ledger maxAllowedCallers}
    {flight : Option (Flight Account Ledger maxAllowedCallers)}
    (harrives : Arrives config deposit start st flight) :
    Arrives config deposit start (dispatchBody config.balances tx info origin st).2
      flight := by
  unfold dispatchBody
  cases tx.result with
  | ok _ => exact harrives.body htx
  | error _ => exact harrives

/-- The report of a dispatch is the one the transaction carries. -/
theorem dispatchBody_report (balances : Balances Account HoldReason Ledger)
    (tx : Transaction Account Ledger RuntimeCall maxAllowedCallers) (info : DispatchInfo)
    (origin : RawOrigin Account) (st : PalletState Account Ledger maxAllowedCallers) :
    (dispatchBody balances tx info origin st).1 = (tx.post, tx.result) := by
  unfold dispatchBody
  cases tx.result <;> rfl

omit [DecidableEq Account] in
/-- An unsponsored preparation comes from an unsponsored value, and it is that of the base
extension. -/
theorem prepare_eq_unsponsored {self : SponsoredChargeTransactionPayment Account}
    {val : SponsoredVal Account BaseVal} {origin : RawOrigin Account} {call : RuntimeCall}
    {info : DispatchInfo} {len : ℕ} {st st' : PalletState Account Ledger maxAllowedCallers}
    {pre : BasePre}
    (hprepare : self.prepare config val origin call info len st = .ok (.unsponsored pre) st') :
    ∃ base ledger, val = .unsponsored base ∧ st' = { st with ledger } ∧
      config.base.prepare self.tip base origin call info len st.ledger = .ok pre ledger := by
  cases val with
  | unsponsored base =>
    obtain ⟨found, middle, hbase, hreturn⟩ := bind_eq_ok_iff.mp hprepare
    obtain ⟨ledger, hledger, rfl⟩ := onPart_eq_ok_iff.mp hbase
    cases hreturn
    exact ⟨base, ledger, rfl, rfl, hledger⟩
  | sponsored sponsor signer feeWithTip tip =>
    obtain ⟨_, middle, -, hreturn⟩ := bind_eq_ok_iff.mp hprepare
    cases hreturn

/-- A validation that hands on an unsponsored value is that of the base extension. -/
theorem validate_eq_unsponsored {self : SponsoredChargeTransactionPayment Account}
    {fees : TransactionPayment} {origin origin' : RawOrigin Account} {call : RuntimeCall}
    {info : DispatchInfo} {len : ℕ} {st st' : PalletState Account Ledger maxAllowedCallers}
    {validity : ValidTransaction} {base : BaseVal}
    (hvalidate : self.validate config fees origin call info len st =
      .ok (validity, .unsponsored base, origin') st') :
    ∃ ledger, st' = { st with ledger } ∧
      config.base.validate self.tip origin call info len st.ledger =
        .ok (validity, base, origin') ledger := by
  obtain ⟨tip, sponsor⟩ := self
  cases sponsor with
  | none =>
    obtain ⟨⟨validity', base', origin''⟩, middle, hbase, hreturn⟩ := bind_eq_ok_iff.mp hvalidate
    obtain ⟨ledger, hledger, rfl⟩ := onPart_eq_ok_iff.mp hbase
    cases hreturn
    exact ⟨ledger, rfl, hledger⟩
  | some named =>
    obtain ⟨_, -, -, hval, -, -⟩ := (validate_eq_ok_iff rfl).mp hvalidate
    cases hval

omit [DecidableEq Account] in
/-- The settlement of an unsponsored preparation is that of the base extension. -/
theorem postDispatchDetails_eq_unsponsored (fees : TransactionPayment) {pre : BasePre}
    {info : DispatchInfo} {post : PostDispatchInfo} {len : ℕ} {result : Except DispatchError Unit}
    {st st' : PalletState Account Ledger maxAllowedCallers} {weight : Weight}
    (hsettle : postDispatchDetails config fees (.unsponsored pre) info post len result st =
      .ok weight st') :
    ∃ ledger, st' = { st with ledger } ∧
      config.base.postDispatchDetails pre info post len result st.ledger = .ok weight ledger := by
  unfold postDispatchDetails at hsettle
  obtain ⟨ledger, hbase, rfl⟩ := onPart_eq_ok_iff.mp hsettle
  exact ⟨ledger, rfl, hbase⟩

/-- What becomes of an unsponsored transaction: it is rejected, or the base extension makes its
three moves around the body. -/
theorem process_unsponsored (config : Config Account Ledger RuntimeCall BaseVal BasePre)
    (st : PalletState Account Ledger maxAllowedCallers)
    {tx : Transaction Account Ledger RuntimeCall maxAllowedCallers}
    (hsponsor : tx.extension.sponsor = none) :
    let info := (sponsoredHooks config).weigh tx
    let done := process (sponsoredHooks config) (dispatchBody config.balances) st tx
    (∃ e, done = (.rejected e, st)) ∨
    ∃ validity base origin validated pre prepared unspent settled,
      config.base.validate tx.extension.tip tx.origin tx.call info tx.len st.ledger =
        .ok (validity, base, origin) validated ∧
      config.base.prepare tx.extension.tip base origin tx.call info tx.len validated =
        .ok pre prepared ∧
      let executed := dispatchBody config.balances tx info origin { st with ledger := prepared }
      config.base.postDispatchDetails pre info tx.post tx.len tx.result executed.2.ledger =
        .ok unspent settled ∧
      done = (.included validity (tx.post, tx.result) unspent,
        { executed.2 with ledger := settled }) := by
  intro info done
  have hextension : tx.extension = ⟨tx.extension.tip, none⟩ := by
    rw [← hsponsor]
  rcases process_cases (sponsoredHooks config) (dispatchBody config.balances) st tx with
    ⟨e, hrejected⟩ | ⟨validity, val, origin, validated, pre, prepared, unspent, settled, hvalidate,
      hprepare, hsettle, hfinal⟩
  · exact Or.inl ⟨e, hrejected⟩
  rw [dispatchBody_report] at hsettle hfinal
  obtain ⟨base, rfl⟩ : ∃ base, val = .unsponsored base := by
    change tx.extension.validate config tx.fees tx.origin tx.call _ tx.len st = _ at hvalidate
    rw [hextension] at hvalidate
    exact validate_unsponsored hvalidate
  obtain ⟨validatedLedger, rfl, hvalidated⟩ := validate_eq_unsponsored hvalidate
  have hrun : tx.extension.prepare config (.unsponsored base) origin tx.call info tx.len
      { st with ledger := validatedLedger } = .ok pre prepared := hprepare
  cases pre with
  | sponsored sponsor signer feeWithTip tip =>
    exact absurd hrun (prepare_unsponsored_ne config _ _ _ _ _ _ _ _ _ _ _ _)
  | unsponsored pre =>
    obtain ⟨base', preparedLedger, hval, rfl, hprepared⟩ := prepare_eq_unsponsored hrun
    cases hval
    obtain ⟨settledLedger, rfl, hsettled⟩ := postDispatchDetails_eq_unsponsored tx.fees hsettle
    exact Or.inr ⟨validity, base, origin, validatedLedger, pre, preparedLedger, unspent,
      settledLedger, hvalidated, hprepared, hsettled, hfinal⟩

/-- One transaction extends a run from between transactions to between transactions. -/
theorem Arrives.transaction (hbase : MovesOutside config deposit)
    {tx : Transaction Account Ledger RuntimeCall maxAllowedCallers}
    (htx : tx.BodyMovesOutside config.balances deposit)
    {st : PalletState Account Ledger maxAllowedCallers}
    (harrives : Arrives config deposit start st none) :
    Arrives config deposit start
      (process (sponsoredHooks config) (dispatchBody config.balances) st tx).2
      none := by
  cases hsponsor : tx.extension.sponsor with
  | none =>
    rcases process_unsponsored config st hsponsor with
      ⟨e, hrejected⟩ | ⟨validity, base, origin, validated, pre, prepared, unspent, settled,
        hvalidated, hprepared, hsettled, hfinal⟩
    · rwa [hrejected]
    rw [hfinal]
    have hcharged := (harrives.outside (hbase.validate _ _ _ _ _ _ _ _ hvalidated)).outside
      (hbase.prepare _ _ _ _ _ _ _ _ _ hprepared)
    have hbody := hcharged.dispatched htx ((sponsoredHooks config).weigh tx) origin
    exact hbody.outside (hbase.postDispatchDetails _ _ _ _ _ _ _ _ hsettled)
  | some sponsor =>
    rcases process_cases (sponsoredHooks config) (dispatchBody config.balances) st tx with
      ⟨e, hrejected⟩ | ⟨validity, val, origin, validated, pre, prepared, unspent, settled,
        hvalidate, hprepare, hsettle, hfinal⟩
    · rwa [hrejected]
    rw [hfinal]
    rw [dispatchBody_report] at hsettle
    cases pre with
    | unsponsored pre =>
      -- Validation of a sponsored transaction hands on a sponsored value.
      obtain ⟨base, -, rfl, -, -⟩ := prepare_eq_unsponsored hprepare
      obtain ⟨_, -, -, hval, -, -⟩ := (validate_eq_ok_iff hsponsor).mp hvalidate
      cases hval
    | sponsored sponsor signer estimatedFeeWithTip tip =>
      obtain ⟨chain, hreach, rfl, hidle⟩ := harrives
      have hbegin := hreach.advance (.begin chain.now tx.fees tx.extension tx.origin tx.call
        ((sponsoredHooks config).weigh tx) tx.len hidle hvalidate hprepare)
      have hprepared : Arrives config deposit start prepared _ := ⟨_, hbegin, rfl, rfl⟩
      obtain ⟨chain', hreach', hstate, hflight⟩ := hprepared.dispatched htx
        ((sponsoredHooks config).weigh tx) origin
      rw [← hstate] at hsettle
      exact ⟨_, hreach'.advance (.settle chain'.now tx.fees tx.post tx.result hflight hsettle), rfl,
        rfl⟩

/-- A block is a run of the chain. Assumes: an exact ledger, burned fees, a base extension and
bodies whose balance movements respect holds, and a start without sponsors and sponsorship holds.
After any sequence of transactions, sponsored or not, included or rejected, with dispatches that
succeed or fail, the state of the pallet is that of a reachable chain state with no transaction in
flight, so every invariant of the chain holds of it and no account has anything pending. -/
theorem block_is_chain_run (hsound : config.Sound deposit) (hbase : MovesOutside config deposit)
    (hgenesis : Genesis config.balances start)
    (txs : List (Transaction Account Ledger RuntimeCall maxAllowedCallers))
    (htxs : ∀ tx ∈ txs, tx.BodyMovesOutside config.balances deposit) :
    let final := (processAll (sponsoredHooks config) (dispatchBody config.balances) start txs).2
    (∃ chain, Reachable config deposit start chain ∧ chain.now.state = final ∧
      chain.now.flight = none) ∧
    ∀ who, pendingOnHold config.balances final who = 0 := by
  intro final
  have harrives : Arrives config deposit start final none :=
    processAll_invariant (P := fun st ↦ Arrives config deposit start st none)
      (fun _ tx htx harrives ↦ harrives.transaction hbase (htxs tx htx))
      ⟨_, Reaches.refl _, rfl, rfl⟩
  refine ⟨harrives, ?_⟩
  intro who
  obtain ⟨chain, hreach, hstate, hidle⟩ := harrives
  have hescrowed := (secured_of_reachable hsound hgenesis hreach).escrowed who
  rw [hidle, hstate] at hescrowed
  exact hescrowed.pending_eq

end Runs

/-! ### A block of the test runtime -/

/-- Take an amount out of the free balance of an account and burn it. -/
def withdraw (who amount : ℕ) (ledger : MockLedger) : MockLedger where
  account := Function.update ledger.account who
    { ledger.account who with free := (ledger.account who).free - amount }
  totalIssuance := ledger.totalIssuance - amount

/-- A base extension for the test runtime: the signer pays the fee and keeps its existential
deposit, and nothing is refunded. -/
def payingBase : ChargeTransactionPayment ℕ MockLedger Unit (Option ℕ) Unit where
  weight := fun _ _ ↦ .zero
  validate := fun tip origin _ info _ ledger ↦
    match asSystemOriginSigner origin with
    | none => .ok (.default, none, origin) ledger
    | some who =>
      if mockFee info tip ≤ (ledger.account who).free - 1 then
        .ok (.default, some who, origin) ledger
      else .error (.invalid .payment) ledger
  prepare := fun tip val _ _ info _ ledger ↦
    match val with
    | none => .ok () ledger
    | some who =>
      if mockFee info tip ≤ (ledger.account who).free - 1 then
        .ok () (withdraw who (mockFee info tip) ledger)
      else .error (.invalid .payment) ledger
  postDispatchDetails := fun _ _ _ _ _ ledger ↦ .ok .zero ledger
  getPriority := fun _ _ _ _ ↦ 0

/-- The test runtime with that base extension. -/
def payingConfig : Config ℕ MockLedger Unit (Option ℕ) Unit where
  balances := mockBalances
  base := payingBase
  dbWeight := { read := 0, write := 0 }
  feeDestination := unitDestination mockBalances

theorem payingConfig_sound : payingConfig.Sound 1 where
  exact := referenceBalances_exact 1
  burns := rfl

omit [DecidableEq Account] in
/-- Nothing moved. -/
theorem outsideMove_refl (balances : Balances Account HoldReason Ledger) (deposit : ℕ)
    (ledger : Ledger) : OutsideMove balances deposit ledger ledger where
  onHold := fun _ ↦ rfl
  alive := fun _ _ halive ↦ halive
  free := fun _ _ hfree ↦ hfree
  backed := id

/-- A withdrawal that keeps the existential deposit is a movement outside the pallet. -/
theorem outsideMove_withdraw {who amount : ℕ} {ledger : MockLedger}
    (hamount : amount ≤ (ledger.account who).free - 1) :
    OutsideMove mockBalances 1 ledger (withdraw who amount ledger) := by
  have hself : (withdraw who amount ledger).account who =
      { ledger.account who with free := (ledger.account who).free - amount } :=
    Function.update_self ..
  have hother : ∀ other, other ≠ who →
      (withdraw who amount ledger).account other = ledger.account other :=
    fun other hother ↦ Function.update_of_ne hother ..
  refine ⟨?_, ?_, ?_, ?_⟩
  · intro other
    change ((withdraw who amount ledger).account other).onHold = (ledger.account other).onHold
    by_cases hwho : other = who
    · rw [hwho, hself]
    · rw [hother other hwho]
  · intro other _ halive
    change ((withdraw who amount ledger).account other).alive = true
    by_cases hwho : other = who
    · rw [hwho] at halive ⊢
      rwa [hself]
    · rwa [hother other hwho]
  · intro other _ hfree
    change 1 ≤ ((withdraw who amount ledger).account other).free
    change 1 ≤ (ledger.account other).free at hfree
    by_cases hwho : other = who
    · rw [hwho] at hfree ⊢
      rw [hself]
      change 1 ≤ (ledger.account who).free - amount
      omega
    · rwa [hother other hwho]
  · intro hbacked
    have htotal : (mockBalances.account (withdraw who amount ledger) who).total + amount =
        (mockBalances.account ledger who).total := by
      change ((withdraw who amount ledger).account who).total + amount = (ledger.account who).total
      rw [hself]
      simp only [AccountData.total]
      omega
    exact hbacked.of_burned htotal (fun other hwho ↦ congrArg AccountData.total (hother other hwho))
      rfl

theorem payingConfig_movesOutside : MovesOutside payingConfig 1 where
  validate := by
    intro tip origin call info len ledger found ledger' hvalidate
    have hsame : ledger' = ledger := by
      simp only [payingConfig, payingBase] at hvalidate
      split at hvalidate
      · cases hvalidate
        rfl
      · split_ifs at hvalidate
        cases hvalidate
        rfl
    rw [hsame]
    exact outsideMove_refl ..
  prepare := by
    intro tip val origin call info len ledger pre ledger' hprepare
    simp only [payingConfig, payingBase] at hprepare
    split at hprepare
    · cases hprepare
      exact outsideMove_refl ..
    · split_ifs at hprepare with hcovered
      cases hprepare
      exact outsideMove_withdraw hcovered
  postDispatchDetails := by
    intro pre info post len result ledger weight ledger' hsettle
    cases hsettle
    exact outsideMove_refl ..

/-- A transaction of the test runtime with a tip of 3. -/
def mockTransaction (sponsor : Option ℕ) (signer : ℕ) (body : List (BodyAction ℕ MockLedger 8))
    (result : Except DispatchError Unit) : Transaction ℕ MockLedger Unit 8 where
  extension := ⟨3, sponsor⟩
  origin := .signed signer
  call := ()
  info := mockInfo
  len := 0
  fees := mockFees
  body := body
  post := mockPost
  result := result

/-- Account 1 registers and pays for that itself, and then it pays for a transaction of account 2
whose dispatch pauses it, and for one whose dispatch fails; the transaction of account 3 is
rejected. -/
def mockBlock : List (Transaction ℕ MockLedger Unit 8) :=
  [mockTransaction none 1 [.call (.signed 1) (.registerSponsor 100 mockSponsorPolicy)] (.ok ()),
    mockTransaction (some 1) 3 [] (.ok ()),
    mockTransaction (some 1) 2 [.call (.signed 1) .unregister] (.error .badOrigin),
    mockTransaction (some 1) 2 [.call (.signed 1) .pause, .outside id] (.ok ())]

theorem block_is_chain_run_mockBlock :
    let final := (processAll (sponsoredHooks payingConfig) (dispatchBody mockBalances) mockState
      mockBlock).2
    final.events.length = 4 ∧ budgetOnHold mockBalances final 1 = 90 ∧
      (∃ chain, Reachable payingConfig 1 mockState chain ∧ chain.now.state = final ∧
        chain.now.flight = none) ∧ pendingOnHold mockBalances final 1 = 0 := by
  intro final
  have hbodies : ∀ tx ∈ mockBlock, tx.BodyMovesOutside mockBalances 1 := by
    intro tx htx move hmove ledger
    simp only [mockBlock, List.mem_cons, List.not_mem_nil, or_false] at htx
    rcases htx with rfl | rfl | rfl | rfl <;> simp [mockTransaction] at hmove
    rw [hmove]
    exact outsideMove_refl ..
  obtain ⟨hrun, hpending⟩ := block_is_chain_run payingConfig_sound payingConfig_movesOutside
    mockState_genesis mockBlock hbodies
  exact ⟨by decide, by decide, hrun, hpending 1⟩

end SponsoredTx.Chain
