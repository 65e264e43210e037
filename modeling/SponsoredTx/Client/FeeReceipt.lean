import SponsoredTx.Chain.BlockExecution
import SponsoredTx.Foundation.ValueTree
import SponsoredTx.Overlap.OverlapConservation

/-!
# The receipt that the client prints

After a sponsored transaction the client goes through the events of the extrinsic and takes the
first one that is called `SponsoredTransactionFeePaid` for the receipt (`find_sponsored_fee_paid`).
The events come as dynamic records, with those of other pallets between them.

`Quiet` says that a part of a transaction deposits no fee event and routes nothing. The hooks before
the settlement and every dispatch are quiet (`quiet_dispatchBody`), so the settlement deposits the
only fee event there is. `fee_receipts` is the result for blocks: the receipts are exactly the
credits that were routed, in their order, and a transaction has one if and only if it is included
and names a sponsor.
-/

set_option autoImplicit false
set_option relaxedAutoImplicit false

namespace SponsoredTx.Client

open Foundation Foundation.StatefulResult Foundation.HoldLedger Foundation.Pipeline
open Foundation.ValueTree Foundation.SaturatingWeight Pallet Extension Chain Overlap

variable {Account Ledger RuntimeCall BaseVal BasePre : Type} {maxAllowedCallers : ℕ}

/-! ### The client -/

/-- An event of an extrinsic, as the client library hands it out. Decoding the fields may fail. -/
structure EventDetails where
  palletName : String
  variantName : String
  fieldValues : Except String Composite

/-- `SponsoredFeePaid`: the receipt. -/
structure SponsoredFeePaid where
  actualFee : ℕ
  tip : ℕ
  deriving DecidableEq, Repr

section Client

variable (reader : ValueReader)

/-- `fields.at(name).and_then(Value::as_u128).context(missing)`. -/
def numberAt (fields : Composite) (name missing : String) : Except String ℕ :=
  match (reader.fieldAt fields name).bind reader.asU128 with
  | some n => .ok n
  | none => .error missing

/-- `find_sponsored_fee_paid`. -/
def findSponsoredFeePaid : List (Except String EventDetails) → Except String SponsoredFeePaid
  | [] => .error "SponsoredTransactionFeePaid event not found"
  | event :: rest => do
    let event ← event
    if event.palletName = "SponsoredTx" ∧ event.variantName = "SponsoredTransactionFeePaid" then
      let fields ← event.fieldValues
      let actualFee ← numberAt reader fields "actual_fee"
        "actual_fee missing from SponsoredTransactionFeePaid"
      let tip ← numberAt reader fields "tip" "tip missing from SponsoredTransactionFeePaid"
      return { actualFee, tip }
    else findSponsoredFeePaid rest

end Client

section Records

variable (accountValue : Account → Value)

/-- The variant of an event and its fields, under the names they have in the source. -/
def eventFields : Event Account → String × List (String × Value)
  | .sponsorRegistered sponsor initialBudget => ("SponsorRegistered",
      [("sponsor", accountValue sponsor), ("initial_budget", .primitive (.u128 initialBudget))])
  | .budgetIncreased sponsor amount newBudget => ("BudgetIncreased",
      [("sponsor", accountValue sponsor), ("amount", .primitive (.u128 amount)),
        ("new_budget", .primitive (.u128 newBudget))])
  | .budgetDecreased sponsor amount newBudget => ("BudgetDecreased",
      [("sponsor", accountValue sponsor), ("amount", .primitive (.u128 amount)),
        ("new_budget", .primitive (.u128 newBudget))])
  | .sponsorPolicyUpdated sponsor => ("SponsorPolicyUpdated", [("sponsor", accountValue sponsor)])
  | .sponsorPaused sponsor => ("SponsorPaused", [("sponsor", accountValue sponsor)])
  | .sponsorResumed sponsor => ("SponsorResumed", [("sponsor", accountValue sponsor)])
  | .sponsorUnregistered sponsor => ("SponsorUnregistered", [("sponsor", accountValue sponsor)])
  | .sponsoredTransactionFeePaid sponsor signer actualFee tip => ("SponsoredTransactionFeePaid",
      [("sponsor", accountValue sponsor), ("signer", accountValue signer),
        ("actual_fee", .primitive (.u128 actualFee)), ("tip", .primitive (.u128 tip))])

/-- The record of an event of the pallet. -/
def describe (event : Event Account) : EventDetails where
  palletName := "SponsoredTx"
  variantName := (eventFields accountValue event).1
  fieldValues := .ok (.named (eventFields accountValue event).2)

/-- The records of an extrinsic show the events of the pallet in their order, and events of other
pallets anywhere between them. -/
def Observes (observe : List (Event Account) → List EventDetails) : Prop :=
  ∀ emitted, (observe emitted).filter (fun record ↦ record.palletName = "SponsoredTx") =
    emitted.map (describe accountValue)

variable {accountValue} {reader : ValueReader}

/-- The first field has the number that is looked for. -/
theorem numberAt_first (hreader : reader.Documented) (name missing : String) (n : ℕ)
    (rest : List (String × Value)) :
    numberAt reader (.named ((name, .primitive (.u128 n)) :: rest)) name missing = .ok n := by
  simp only [numberAt, hreader.fieldAt_cons, if_pos, Option.bind_some, hreader.asU128_u128]

/-- A field with another name is passed over. -/
theorem numberAt_later (hreader : reader.Documented) {other name : String} (hother : other ≠ name)
    (missing : String) (value : Value) (rest : List (String × Value)) :
    numberAt reader (.named ((other, value) :: rest)) name missing =
      numberAt reader (.named rest) name missing := by
  simp only [numberAt, hreader.fieldAt_cons, if_neg hother]

/-- The records of other pallets are passed over. -/
theorem find_filter (records : List EventDetails) :
    findSponsoredFeePaid reader (records.map .ok) = findSponsoredFeePaid reader
      ((records.filter fun record ↦ record.palletName = "SponsoredTx").map .ok) := by
  induction records with
  | nil => rfl
  | cons record rest ih =>
    by_cases hpallet : record.palletName = "SponsoredTx"
    · rw [List.filter_cons_of_pos (by simpa using hpallet), List.map_cons, List.map_cons,
        findSponsoredFeePaid, findSponsoredFeePaid, ih]
    · rw [List.filter_cons_of_neg (by simpa using hpallet), ← ih, List.map_cons,
        findSponsoredFeePaid]
      exact if_neg fun hboth ↦ hpallet hboth.1

/-- An event without a credit is passed over. -/
theorem find_describe_of_no_credit {event : Event Account} (hevent : creditOf event = none)
    (rest : List (Except String EventDetails)) :
    findSponsoredFeePaid reader (.ok (describe accountValue event) :: rest) =
      findSponsoredFeePaid reader rest := by
  rw [findSponsoredFeePaid]
  refine if_neg fun hboth ↦ ?_
  have hvariant : (eventFields accountValue event).1 = "SponsoredTransactionFeePaid" := hboth.2
  cases event <;> simp_all [eventFields, creditOf]

/-- Events without a credit are passed over. -/
theorem find_map_describe {quiet : List (Event Account)}
    (hquiet : ∀ event ∈ quiet, creditOf event = none) (rest : List (Except String EventDetails)) :
    findSponsoredFeePaid reader ((quiet.map (describe accountValue)).map .ok ++ rest) =
      findSponsoredFeePaid reader rest := by
  induction quiet with
  | nil => rfl
  | cons event quiet ih =>
    rw [List.forall_mem_cons] at hquiet
    rw [List.map_cons, List.map_cons, List.cons_append, find_describe_of_no_credit hquiet.1]
    exact ih hquiet.2

/-- Without a fee event there is no receipt. -/
theorem find_of_quiet {observe : List (Event Account) → List EventDetails}
    (hobserve : Observes accountValue observe) {quiet : List (Event Account)}
    (hquiet : ∀ event ∈ quiet, creditOf event = none) :
    findSponsoredFeePaid reader ((observe quiet).map .ok) =
      .error "SponsoredTransactionFeePaid event not found" := by
  have hpassed : findSponsoredFeePaid reader ((quiet.map (describe accountValue)).map .ok) =
      findSponsoredFeePaid reader [] := by
    rw [← find_map_describe hquiet [], List.append_nil]
  rw [find_filter, hobserve quiet, hpassed, findSponsoredFeePaid]

/-- A fee event behind others is the receipt. -/
theorem find_of_feePaid (hreader : reader.Documented)
    {observe : List (Event Account) → List EventDetails}
    (hobserve : Observes accountValue observe) {quiet : List (Event Account)}
    (hquiet : ∀ event ∈ quiet, creditOf event = none) (sponsor signer : Account)
    (actualFee tip : ℕ) :
    findSponsoredFeePaid reader ((observe (quiet ++
        [.sponsoredTransactionFeePaid sponsor signer actualFee tip])).map .ok) =
      .ok ⟨actualFee, tip⟩ := by
  rw [find_filter, hobserve, List.map_append, List.map_append, find_map_describe hquiet]
  have hactual : numberAt reader (.named (eventFields accountValue
      (.sponsoredTransactionFeePaid sponsor signer actualFee tip)).2) "actual_fee"
        "actual_fee missing from SponsoredTransactionFeePaid" = .ok actualFee := by
    rw [eventFields, numberAt_later hreader (by decide), numberAt_later hreader (by decide),
      numberAt_first hreader]
  have htip : numberAt reader (.named (eventFields accountValue
      (.sponsoredTransactionFeePaid sponsor signer actualFee tip)).2) "tip"
        "tip missing from SponsoredTransactionFeePaid" = .ok tip := by
    rw [eventFields, numberAt_later hreader (by decide), numberAt_later hreader (by decide),
      numberAt_later hreader (by decide), numberAt_first hreader]
  change (do
    let actual ← numberAt reader _ "actual_fee"
      "actual_fee missing from SponsoredTransactionFeePaid"
    let tip ← numberAt reader _ "tip" "tip missing from SponsoredTransactionFeePaid"
    return (⟨actual, tip⟩ : SponsoredFeePaid)) = _
  rw [hactual, htip]
  rfl

end Records

/-! ### The parts of a transaction without a fee event -/

/-- Between two states no fee event was deposited and nothing was routed. -/
def Quiet (before after : PalletState Account Ledger maxAllowedCallers) : Prop :=
  ∃ emitted, after.events = before.events ++ emitted ∧
    (∀ event ∈ emitted, creditOf event = none) ∧ after.routed = before.routed

namespace Quiet

variable {before middle after : PalletState Account Ledger maxAllowedCallers}

protected theorem refl (st : PalletState Account Ledger maxAllowedCallers) : Quiet st st :=
  ⟨[], (List.append_nil _).symm, by simp, rfl⟩

protected theorem trans (hfirst : Quiet before middle) (hsecond : Quiet middle after) :
    Quiet before after := by
  obtain ⟨emitted, hevents, hquiet, hrouted⟩ := hfirst
  obtain ⟨emitted', hevents', hquiet', hrouted'⟩ := hsecond
  refine ⟨emitted ++ emitted', ?_, ?_, hrouted'.trans hrouted⟩
  · rw [hevents', hevents, List.append_assoc]
  · rw [List.forall_mem_append]
    exact ⟨hquiet, hquiet'⟩

/-- A change of the ledger is quiet. -/
theorem ofLedger (st : PalletState Account Ledger maxAllowedCallers) (ledger : Ledger) :
    Quiet st { st with ledger } :=
  ⟨[], (List.append_nil _).symm, by simp, rfl⟩

end Quiet

variable [DecidableEq Account] {config : Config Account Ledger RuntimeCall BaseVal BasePre}
  {deposit : ℕ}

/-- Every lifecycle call is quiet. Assumes: an exact ledger. -/
theorem quiet_dispatch (hexact : config.balances.Exact deposit) (origin : RawOrigin Account)
    (call : Call Account maxAllowedCallers)
    (st : PalletState Account Ledger maxAllowedCallers) :
    Quiet st (finalState (dispatch config.balances origin call st)) := by
  rcases dispatch_cases hexact st origin call with
    ⟨e, hrefused⟩ | ⟨who, state, rfl, -, hok, hadvances⟩
  · rw [hrefused]
    exact Quiet.refl st
  · rw [hok]
    refine ⟨_, hadvances.events, ?_, hadvances.routed⟩
    simp [creditOf_announcement]

/-- The dispatch of a transaction is quiet, by induction on its body. Assumes: an exact ledger. -/
theorem quiet_dispatchBody (hexact : config.balances.Exact deposit)
    (tx : Transaction Account Ledger RuntimeCall maxAllowedCallers) (info : DispatchInfo)
    (origin : RawOrigin Account) (st : PalletState Account Ledger maxAllowedCallers) :
    Quiet st (dispatchBody config.balances tx info origin st).2 := by
  have hbody : ∀ (body : List (BodyAction Account Ledger maxAllowedCallers)) st,
      Quiet st (body.foldl (BodyAction.run config.balances) st) := by
    intro body
    induction body with
    | nil => exact Quiet.refl
    | cons action rest ih =>
      intro st
      refine Quiet.trans ?_ (ih _)
      cases action with
      | call origin lifecycle => exact quiet_dispatch hexact origin lifecycle st
      | outside move => exact Quiet.ofLedger st _
  unfold dispatchBody
  cases tx.result with
  | ok _ => exact hbody tx.body st
  | error _ => exact Quiet.refl st

/-! ### Receipts -/

/-- The credit behind a receipt. -/
def SponsoredFeePaid.credit (paid : SponsoredFeePaid) : ℕ × ℕ :=
  (paid.actualFee - paid.tip, paid.tip)

/-- Between two states one fee event was deposited, the last one, and its credit was routed. -/
structure Charged (before after : PalletState Account Ledger maxAllowedCallers)
    (paid : SponsoredFeePaid) : Prop where
  events : ∃ quiet sponsor signer, (∀ event ∈ quiet, creditOf event = none) ∧
    after.events = before.events ++ (quiet ++
      [.sponsoredTransactionFeePaid sponsor signer paid.actualFee paid.tip])
  routed : after.routed = before.routed ++ [paid.credit]

/-- The receipt stays within what the transaction offered and what validation estimated. -/
structure SponsoredFeePaid.Within (paid : SponsoredFeePaid) (tip estimated : ℕ) : Prop where
  tip_le : paid.tip ≤ tip
  tip_le_actualFee : paid.tip ≤ paid.actualFee
  actualFee_le : paid.actualFee ≤ estimated

/-- An included sponsored transaction is charged. Assumes: an exact ledger and burned fees. -/
theorem charged_of_sponsored (hsound : config.Sound deposit)
    {st validated prepared settled : PalletState Account Ledger maxAllowedCallers}
    {tx : Transaction Account Ledger RuntimeCall maxAllowedCallers} {sponsor : Account}
    (hsponsor : tx.extension.sponsor = some sponsor) {validity : ValidTransaction}
    {val : SponsoredVal Account BaseVal} {origin : RawOrigin Account}
    {pre : SponsoredPre Account BasePre} {unspent : Weight}
    (hvalidate : (sponsoredHooks config).validate tx ((sponsoredHooks config).weigh tx) st =
      .ok (validity, val, origin) validated)
    (hprepare : (sponsoredHooks config).prepare tx ((sponsoredHooks config).weigh tx) origin val
      validated = .ok pre prepared)
    (hsettle : (sponsoredHooks config).settle tx ((sponsoredHooks config).weigh tx) pre
      (dispatchBody config.balances tx ((sponsoredHooks config).weigh tx) origin prepared).1
      (dispatchBody config.balances tx ((sponsoredHooks config).weigh tx) origin prepared).2 =
        .ok unspent settled) :
    ∃ paid : SponsoredFeePaid, Charged st settled paid ∧
      paid.Within tx.extension.tip (estimate config tx) := by
  set info := (sponsoredHooks config).weigh tx with hinfo
  obtain ⟨signer, -, -, rfl, -, rfl⟩ := (validate_eq_ok_iff hsponsor).mp hvalidate
  obtain ⟨reserved, hadvances, hreserve⟩ := prepare_sponsored hsound.exact tx.extension sponsor
    signer (estimate config tx) tx.extension.tip origin tx.call info tx.len validated
  have hrun := hreserve.symm.trans hprepare
  split at hrun
  · cases hrun
    have hquiet : Quiet validated (dispatchBody config.balances tx info origin prepared).2 :=
      Quiet.trans ⟨[], hadvances.events, by simp, hadvances.routed⟩
        (quiet_dispatchBody hsound.exact tx info origin prepared)
    obtain ⟨quiet, hevents, hcredits, hrouted⟩ := hquiet
    set executed := dispatchBody config.balances tx info origin prepared
    have hsettles := settleSponsoredFee_settles hsound tx.fees sponsor signer (estimate config tx)
      tx.extension.tip info executed.1.1 tx.len executed.2
    have hsettled : (settleSponsoredFee config tx.fees sponsor signer (estimate config tx)
        tx.extension.tip info executed.1.1 tx.len executed.2).2 = settled :=
      (EStateM.Result.ok.inj hsettle).2
    rw [hsettled] at hsettles
    set charged := chargedOf (tx.fees.computeActualFee (UInt32.ofNat tx.len) info executed.1.1
      tx.extension.tip) (estimate config tx) (slotOf config.balances executed.2 sponsor).pending
      with hcharged
    have hestimate : charged ≤ estimate config tx := (min_le_left _ _).trans (min_le_right _ _)
    refine ⟨⟨charged, min tx.extension.tip charged⟩, ⟨⟨quiet, sponsor, signer, hcredits, ?_⟩, ?_⟩,
      min_le_left _ _, min_le_right _ _, hestimate⟩
    · rw [← List.append_assoc, ← hevents]
      exact hsettles.events
    · rw [← hrouted]
      exact hsettles.routed
  · cases hrun

/-- A transaction without a sponsor is quiet. Assumes: an exact ledger. -/
theorem quiet_of_unsponsored (hexact : config.balances.Exact deposit)
    (st : PalletState Account Ledger maxAllowedCallers)
    {tx : Transaction Account Ledger RuntimeCall maxAllowedCallers}
    (hsponsor : tx.extension.sponsor = none) :
    Quiet st (process (sponsoredHooks config) (dispatchBody config.balances) st tx).2 := by
  rcases process_unsponsored config st hsponsor with
    ⟨e, hrejected⟩ | ⟨validity, base, origin, validated, pre, prepared, unspent, settled, -, -, -,
      hfinal⟩
  · rw [hrejected]
    exact Quiet.refl st
  · rw [hfinal]
    have hbody := quiet_dispatchBody hexact tx ((sponsoredHooks config).weigh tx) origin
      { st with ledger := prepared }
    exact ((Quiet.ofLedger st prepared).trans hbody).trans (Quiet.ofLedger _ settled)

/-- The receipts that a client reads in a block, transaction by transaction. -/
def receiptsOf (config : Config Account Ledger RuntimeCall BaseVal BasePre)
    (reader : ValueReader) (observe : List (Event Account) → List EventDetails) :
    PalletState Account Ledger maxAllowedCallers →
      List (Transaction Account Ledger RuntimeCall maxAllowedCallers) →
      List (Except String SponsoredFeePaid)
  | _, [] => []
  | st, tx :: rest =>
    let next := (process (sponsoredHooks config) (dispatchBody config.balances) st tx).2
    findSponsoredFeePaid reader ((observe (next.events.drop st.events.length)).map .ok) ::
      receiptsOf config reader observe next rest

/-- The receipt that a transaction with an outcome should have. -/
def ReceiptFor (config : Config Account Ledger RuntimeCall BaseVal BasePre)
    (tx : Transaction Account Ledger RuntimeCall maxAllowedCallers)
    (outcome : Pipeline.Outcome ValidTransaction Report Weight TransactionValidityError)
    (receipt : Except String SponsoredFeePaid) : Prop :=
  match tx.extension.sponsor, outcome with
  | some _, .included _ _ _ =>
    ∃ paid, receipt = .ok paid ∧ paid.Within tx.extension.tip (estimate config tx)
  | _, _ => receipt = .error "SponsoredTransactionFeePaid event not found"

/-- The credits behind some receipts. -/
def credits (receipts : List (Except String SponsoredFeePaid)) : List (ℕ × ℕ) :=
  receipts.filterMap fun receipt ↦ receipt.toOption.map SponsoredFeePaid.credit

section Receipts

variable {accountValue : Account → Value} {reader : ValueReader}
  {observe : List (Event Account) → List EventDetails}

omit [DecidableEq Account] in
/-- Between quiet states there is no receipt and no credit. -/
theorem receipt_of_quiet (hobserve : Observes accountValue observe)
    {before after : PalletState Account Ledger maxAllowedCallers} (hquiet : Quiet before after) :
    let receipt :=
      findSponsoredFeePaid reader ((observe (after.events.drop before.events.length)).map .ok)
    receipt = .error "SponsoredTransactionFeePaid event not found" ∧
      after.routed = before.routed ++ credits [receipt] := by
  intro receipt
  obtain ⟨emitted, hevents, hcredits, hrouted⟩ := hquiet
  have hreceipt : receipt = .error "SponsoredTransactionFeePaid event not found" := by
    simp only [receipt, hevents, List.drop_left]
    exact find_of_quiet hobserve hcredits
  refine ⟨hreceipt, ?_⟩
  rw [hreceipt, hrouted]
  exact (List.append_nil _).symm

omit [DecidableEq Account] in
/-- Where one transaction was charged, the receipt is its charge. -/
theorem receipt_of_charged (hreader : reader.Documented) (hobserve : Observes accountValue observe)
    {before after : PalletState Account Ledger maxAllowedCallers} {paid : SponsoredFeePaid}
    (hcharged : Charged before after paid) :
    let receipt :=
      findSponsoredFeePaid reader ((observe (after.events.drop before.events.length)).map .ok)
    receipt = .ok paid ∧ after.routed = before.routed ++ credits [receipt] := by
  intro receipt
  obtain ⟨quiet, sponsor, signer, hcredits, hevents⟩ := hcharged.events
  have hreceipt : receipt = .ok paid := by
    simp only [receipt, hevents, List.drop_left]
    exact find_of_feePaid hreader hobserve hcredits sponsor signer paid.actualFee paid.tip
  exact ⟨hreceipt, hreceipt ▸ hcharged.routed⟩

/-- One transaction has the receipt it should have, and routes its credit. Assumes: an exact ledger
and burned fees. -/
theorem receipt_of_process (hsound : config.Sound deposit) (hreader : reader.Documented)
    (hobserve : Observes accountValue observe)
    (st : PalletState Account Ledger maxAllowedCallers)
    (tx : Transaction Account Ledger RuntimeCall maxAllowedCallers) :
    let done := process (sponsoredHooks config) (dispatchBody config.balances) st tx
    let receipt :=
      findSponsoredFeePaid reader ((observe (done.2.events.drop st.events.length)).map .ok)
    ReceiptFor config tx done.1 receipt ∧ done.2.routed = st.routed ++ credits [receipt] := by
  intro done receipt
  cases hsponsor : tx.extension.sponsor with
  | none =>
    obtain ⟨hreceipt, hrouted⟩ := receipt_of_quiet hobserve
      (quiet_of_unsponsored hsound.exact st hsponsor)
    refine ⟨?_, hrouted⟩
    simpa only [ReceiptFor, hsponsor] using hreceipt
  | some sponsor =>
    rcases process_cases (sponsoredHooks config) (dispatchBody config.balances) st tx with
      ⟨e, hrejected⟩ | ⟨validity, val, origin, validated, pre, prepared, unspent, settled,
        hvalidate, hprepare, hsettle, hincluded⟩
    · have hquiet : Quiet st done.2 := by
        rw [show done = _ from hrejected]
        exact Quiet.refl st
      obtain ⟨hreceipt, hrouted⟩ := receipt_of_quiet hobserve hquiet
      refine ⟨?_, hrouted⟩
      rw [show done = _ from hrejected]
      simpa only [ReceiptFor, hsponsor] using hreceipt
    · obtain ⟨paid, hcharged, hwithin⟩ := charged_of_sponsored hsound hsponsor hvalidate hprepare
        hsettle
      have hcharged' : Charged st done.2 paid := by
        rwa [show done = _ from hincluded]
      obtain ⟨hreceipt, hrouted⟩ := receipt_of_charged hreader hobserve hcharged'
      refine ⟨?_, hrouted⟩
      rw [show done = _ from hincluded]
      simp only [ReceiptFor, hsponsor]
      exact ⟨paid, hreceipt, hwithin⟩

/-- The receipts of a block are what was charged. Assumes: an exact ledger, burned fees, a reader of
dynamic values that behaves as documented, and records that show the events of the pallet in their
order, between those of any other pallets. In every block from every state, a transaction has a
receipt if and only if it is included and names a sponsor; the fee on it is at most what validation
estimated, and the tip on it at most the fee and the tip that was offered. The credits behind the
receipts, in their order, are exactly what the block routed to `FeeDestination`. -/
theorem fee_receipts (hsound : config.Sound deposit) (hreader : reader.Documented)
    (hobserve : Observes accountValue observe)
    (st : PalletState Account Ledger maxAllowedCallers)
    (txs : List (Transaction Account Ledger RuntimeCall maxAllowedCallers)) :
    let block := processAll (sponsoredHooks config) (dispatchBody config.balances) st txs
    let receipts := receiptsOf config reader observe st txs
    List.Forall₂ (fun entry receipt ↦ ReceiptFor config entry.1 entry.2 receipt)
      (txs.zip block.1) receipts ∧
    block.2.routed = st.routed ++ credits receipts := by
  induction txs generalizing st with
  | nil => exact ⟨.nil, (List.append_nil _).symm⟩
  | cons tx rest ih =>
    obtain ⟨hreceipt, hrouted⟩ := receipt_of_process hsound hreader hobserve st tx
    obtain ⟨hreceipts, hrest⟩ :=
      ih (process (sponsoredHooks config) (dispatchBody config.balances) st tx).2
    refine ⟨.cons hreceipt hreceipts, hrest.trans ?_⟩
    rw [hrouted, List.append_assoc]
    congr 1
    simp only [credits, receiptsOf, ← List.filterMap_append]
    rfl

end Receipts

/-- The records of an extrinsic with an event of another pallet before those of this one. -/
def mockObserve (emitted : List (Event ℕ)) : List EventDetails :=
  ⟨"System", "NewAccount", .ok (.named [])⟩ ::
    emitted.map (describe fun who ↦ .primitive (.u128 who))

theorem mockObserve_observes : Observes (fun who ↦ .primitive (.u128 who)) mockObserve := by
  intro emitted
  have hall : ∀ record ∈ emitted.map (describe fun who ↦ .primitive (.u128 who)),
      decide (record.palletName = "SponsoredTx") = true := by
    intro record hrecord
    obtain ⟨event, -, rfl⟩ := List.mem_map.mp hrecord
    rfl
  rw [mockObserve, List.filter_cons_of_neg (by decide), List.filter_eq_self.mpr hall]

/-- Of the four transactions of the test block, the two that are included and name a sponsor have
receipts, over a fee of two and a tip of three each, and nothing else was routed. -/
theorem fee_receipts_mockBlock :
    let receipts :=
      receiptsOf payingConfig (referenceReader fun _ ↦ "") mockObserve mockState mockBlock
    credits receipts = [(2, 3), (2, 3)] ∧
      (processAll (sponsoredHooks payingConfig) (dispatchBody mockBalances) mockState
        mockBlock).2.routed = [(2, 3), (2, 3)] := by
  intro receipts
  have hcredits : credits receipts = [(2, 3), (2, 3)] := by decide
  refine ⟨hcredits, ?_⟩
  rw [← hcredits]
  exact (fee_receipts payingConfig_sound (referenceReader_documented _) mockObserve_observes
    mockState mockBlock).2

end SponsoredTx.Client
