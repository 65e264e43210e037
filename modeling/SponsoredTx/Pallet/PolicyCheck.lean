import SponsoredTx.Pallet.SponsorLifecycle

/-!
# What `ensure_valid_policy` checks

The loop of `ensure_valid_policy` works by position: it compares the account at `idx` with every
account after it, over the enumerated allowlist. `SponsorPolicy.WellFormed` says what it is for: the
allowlist is not empty and lists no account twice. `ensureValidPolicy_eq` computes the check, and
the three lemmas after it read off when each of its outcomes is returned.

`PoliciesWellFormed` is the consequence for the storage: every stored policy is well formed. No call
breaks it (`dispatch_preserves_policies`), whatever the balances pallet does.
-/

set_option autoImplicit false
set_option relaxedAutoImplicit false

namespace SponsoredTx.Pallet

open Foundation.StatefulResult Foundation.HoldLedger

variable {Account Ledger : Type} {maxAllowedCallers : ℕ}

/-! ### The check -/

/-- The allowlist of a policy is not empty, and its accounts are pairwise distinct. -/
structure SponsorPolicy.WellFormed (policy : SponsorPolicy Account maxAllowedCallers) : Prop where
  nonempty : policy.allowedCallers.toList ≠ []
  nodup : policy.allowedCallers.toList.Nodup

variable [DecidableEq Account]

/-- The loop from one position on: the accounts before it are not read again, so it decides whether
the accounts from there on are pairwise distinct. -/
theorem ensureNoDuplicates_zipIdx (visited remaining : List Account) :
    ensureNoDuplicates (visited ++ remaining) (remaining.zipIdx visited.length) =
      if remaining.Nodup then .ok () else .error .duplicateAllowedCaller := by
  induction remaining generalizing visited with
  | nil => rfl
  | cons caller rest ih =>
    -- `skip(idx + 1)` at the position of `caller` leaves exactly the accounts after it.
    have hskip : (visited ++ caller :: rest).drop (visited.length + 1) = rest := by
      rw [List.drop_append]
      simp
    have hany : rest.any (fun other ↦ other == caller) = true ↔ caller ∈ rest := by
      simp [List.any_eq_true]
    have hrest : ensureNoDuplicates (visited ++ caller :: rest)
        (rest.zipIdx (visited.length + 1)) =
          if rest.Nodup then .ok () else .error .duplicateAllowedCaller := by
      have hnext := ih (visited ++ [caller])
      simpa using hnext
    rw [List.zipIdx_cons, ensureNoDuplicates, hskip, hrest]
    by_cases hmem : caller ∈ rest
    · rw [if_pos (hany.mpr hmem), if_neg]
      intro hnodup
      exact (List.nodup_cons.mp hnodup).1 hmem
    · rw [if_neg (mt hany.mp hmem)]
      simp [List.nodup_cons, hmem]

/-- The check as one expression on the allowlist. -/
theorem ensureValidPolicy_eq (policy : SponsorPolicy Account maxAllowedCallers) :
    ensureValidPolicy policy =
      if policy.allowedCallers.toList = [] then .error .emptyAllowlist
      else if policy.allowedCallers.toList.Nodup then .ok ()
      else .error .duplicateAllowedCaller := by
  have hloop := ensureNoDuplicates_zipIdx [] policy.allowedCallers.toList
  simp only [List.nil_append, List.length_nil] at hloop
  simp only [ensureValidPolicy, hloop, List.isEmpty_iff]

/-- Exactly the well-formed policies are accepted. -/
theorem ensureValidPolicy_eq_ok_iff (policy : SponsorPolicy Account maxAllowedCallers) :
    ensureValidPolicy policy = .ok () ↔ policy.WellFormed := by
  rw [ensureValidPolicy_eq]
  constructor
  · intro hok
    split_ifs at hok with hempty hnodup
    exact ⟨hempty, hnodup⟩
  · rintro ⟨hempty, hnodup⟩
    rw [if_neg hempty, if_pos hnodup]

/-- `EmptyAllowlist` is returned for the empty allowlist only. -/
theorem ensureValidPolicy_eq_empty_iff (policy : SponsorPolicy Account maxAllowedCallers) :
    ensureValidPolicy policy = .error .emptyAllowlist ↔ policy.allowedCallers.toList = [] := by
  rw [ensureValidPolicy_eq]
  split_ifs with hempty hnodup <;> simp [hempty]

/-- `DuplicateAllowedCaller` is returned exactly when two positions hold the same account. -/
theorem ensureValidPolicy_eq_duplicate_iff (policy : SponsorPolicy Account maxAllowedCallers) :
    ensureValidPolicy policy = .error .duplicateAllowedCaller ↔
      ∃ i j, i < j ∧ j < policy.allowedCallers.toList.length ∧
        policy.allowedCallers.toList[i]? = policy.allowedCallers.toList[j]? := by
  have hpositions : (∃ i j, i < j ∧ j < policy.allowedCallers.toList.length ∧
      policy.allowedCallers.toList[i]? = policy.allowedCallers.toList[j]?) ↔
        ¬ policy.allowedCallers.toList.Nodup := by
    rw [List.nodup_iff_getElem?_ne_getElem?]
    push Not
    rfl
  rw [hpositions, ensureValidPolicy_eq]
  split_ifs with hempty hnodup
  · simp [hempty]
  · simp [hnodup]
  · simp [hnodup]

/-! ### Stored policies -/

omit [DecidableEq Account] in
/-- Every stored policy is well formed. -/
def PoliciesWellFormed (st : PalletState Account Ledger maxAllowedCallers) : Prop :=
  ∀ who state, st.sponsors who = some state → state.policy.WellFormed

/-- Writing an entry with a well-formed policy, or removing one, keeps the stored policies well
formed. -/
theorem PoliciesWellFormed.setSponsor {st : PalletState Account Ledger maxAllowedCallers}
    (hstored : PoliciesWellFormed st) (who : Account)
    {entry : Option (SponsorState Account maxAllowedCallers)}
    (hentry : ∀ state, entry = some state → state.policy.WellFormed) :
    PoliciesWellFormed (st.setSponsor who entry) := by
  intro other state hstate
  change Function.update st.sponsors who entry other = some state at hstate
  by_cases hother : other = who
  · subst hother
    rw [Function.update_self] at hstate
    exact hentry state hstate
  · rw [Function.update_of_ne hother] at hstate
    exact hstored other state hstate

section Calls

variable {P : PalletState Account Ledger maxAllowedCallers → Prop}

omit [DecidableEq Account] in
/-- Reading the signer of an origin keeps every property. -/
theorem preserves_ensureSigned (origin : RawOrigin Account) :
    Preserves P (ensureSigned origin) := by
  cases origin with
  | signed who => exact Preserves.pure who
  | root => exact Preserves.throw _
  | none => exact Preserves.throw _
  | authorized => exact Preserves.throw _

omit [DecidableEq Account] in
/-- Checking that an account is registered keeps every property. -/
theorem preserves_ensureRegistered (who : Account) : Preserves P (ensureRegistered who) :=
  Preserves.bind Preserves.get fun _ ↦ Preserves.ensure _ _

/-- What follows the policy check may rely on a well-formed policy. -/
theorem preserves_bind_ensureValidPolicy {policy : SponsorPolicy Account maxAllowedCallers}
    {f : PUnit → EStateM DispatchError (PalletState Account Ledger maxAllowedCallers) PUnit}
    (hnext : policy.WellFormed → Preserves P (f ⟨⟩)) :
    Preserves P (orModuleError (ensureValidPolicy policy) >>= f) := by
  cases hpolicy : ensureValidPolicy policy with
  | ok _ => exact hnext ((ensureValidPolicy_eq_ok_iff policy).mp hpolicy)
  | error e => exact Preserves.throw _

omit [DecidableEq Account] in
/-- An operation on the ledger leaves the map of sponsors as it is. -/
theorem preserves_sponsors_onPart
    (sponsors : Account → Option (SponsorState Account maxAllowedCallers)) {ε α : Type}
    (op : EStateM ε Ledger α) :
    Preserves (fun st : PalletState Account Ledger maxAllowedCallers ↦ st.sponsors = sponsors)
      (onPart PalletState.ledger (fun ledger st ↦ { st with ledger }) op) := by
  refine Preserves.onPart ?_ op
  intro ledger st hsponsors
  exact hsponsors

omit [DecidableEq Account] in
/-- A computation that leaves the map of sponsors as it is keeps the stored policies well formed. -/
theorem preserves_policies_of_sponsors {ε α : Type}
    {x : EStateM ε (PalletState Account Ledger maxAllowedCallers) α}
    (hx : ∀ sponsors, Preserves (fun st ↦ st.sponsors = sponsors) x) :
    Preserves PoliciesWellFormed x := by
  intro st hstored who state hstate
  rw [hx st.sponsors st rfl] at hstate
  exact hstored who state hstate

omit [DecidableEq Account] in
/-- The balances pallet does not write entries. -/
theorem preserves_policies_onLedger {α : Type} (op : EStateM TokenError Ledger α) :
    Preserves PoliciesWellFormed
      (onLedger op : EStateM DispatchError (PalletState Account Ledger maxAllowedCallers) α) :=
  preserves_policies_of_sponsors fun sponsors ↦ preserves_sponsors_onPart sponsors _

omit [DecidableEq Account] in
/-- Depositing an event does not write entries. -/
theorem preserves_policies_depositEvent
    (event : PalletState Account Ledger maxAllowedCallers → Event Account) :
    Preserves PoliciesWellFormed (modify fun st ↦ st.depositEvent (event st) :
      EStateM DispatchError (PalletState Account Ledger maxAllowedCallers) PUnit) :=
  Preserves.modify fun _ hstored ↦ hstored

/-- A mutation of an entry that keeps its policy well formed keeps all stored policies well
formed. -/
theorem preserves_policies_tryMutateSponsor (who : Account)
    {mutate : Option (SponsorState Account maxAllowedCallers) →
      Except Error (Option (SponsorState Account maxAllowedCallers))}
    (hmutate : ∀ entry entry', mutate entry = .ok entry' →
      (∀ state, entry = some state → state.policy.WellFormed) →
      ∀ state, entry' = some state → state.policy.WellFormed) :
    Preserves PoliciesWellFormed (tryMutateSponsor who mutate :
      EStateM DispatchError (PalletState Account Ledger maxAllowedCallers) PUnit) := by
  intro st hstored
  rw [tryMutateSponsor, bind_get]
  cases hrun : mutate (st.sponsors who) with
  | ok entry =>
    exact hstored.setSponsor who (hmutate (st.sponsors who) entry hrun (hstored who))
  | error e => exact hstored

/-- A mutation that checks an entry and keeps its policy keeps all stored policies well formed. -/
theorem preserves_policies_mutateEntry (who : Account)
    {check : SponsorState Account maxAllowedCallers → Prop} [DecidablePred check]
    {change : SponsorState Account maxAllowedCallers → SponsorState Account maxAllowedCallers}
    {e : Error} (hchange : ∀ state, (change state).policy = state.policy) :
    Preserves PoliciesWellFormed (tryMutateSponsor who (fun
        | none => .error .notRegistered
        | some state => if check state then .ok (some (change state)) else .error e) :
      EStateM DispatchError (PalletState Account Ledger maxAllowedCallers) PUnit) := by
  refine preserves_policies_tryMutateSponsor who ?_
  rintro (_ | before) entry hrun hbefore state rfl
  · simp at hrun
  · simp only at hrun
    split_ifs at hrun
    simp only [Except.ok.injEq, Option.some.injEq] at hrun
    subst hrun
    rw [hchange]
    exact hbefore before rfl

/-- No call stores a policy that is not well formed, over any ledger. -/
theorem dispatch_preserves_policies (balances : Balances Account HoldReason Ledger)
    (origin : RawOrigin Account) (call : Call Account maxAllowedCallers) :
    Preserves PoliciesWellFormed (dispatch balances origin call) := by
  cases call with
  | registerSponsor initialBudget policy =>
    refine Preserves.bind (preserves_ensureSigned origin) fun sponsor ↦ ?_
    refine Preserves.bind (Preserves.ensure _ _) fun _ ↦ ?_
    refine Preserves.bind Preserves.get fun _ ↦ Preserves.bind (Preserves.ensure _ _) fun _ ↦ ?_
    refine preserves_bind_ensureValidPolicy fun hpolicy ↦ ?_
    refine Preserves.bind (preserves_policies_onLedger _) fun _ ↦ ?_
    refine Preserves.bind (Preserves.modify ?_) fun _ ↦ preserves_policies_depositEvent _
    intro st hstored
    refine hstored.setSponsor sponsor ?_
    rintro state ⟨rfl⟩
    exact hpolicy
  | increaseBudget amount =>
    refine Preserves.bind (preserves_ensureSigned origin) fun sponsor ↦ ?_
    refine Preserves.bind (Preserves.ensure _ _) fun _ ↦ ?_
    refine Preserves.bind (preserves_ensureRegistered sponsor) fun _ ↦ ?_
    exact Preserves.bind (preserves_policies_onLedger _) fun _ ↦ preserves_policies_depositEvent _
  | decreaseBudget amount =>
    refine Preserves.bind (preserves_ensureSigned origin) fun sponsor ↦ ?_
    refine Preserves.bind (Preserves.ensure _ _) fun _ ↦ ?_
    refine Preserves.bind (preserves_ensureRegistered sponsor) fun _ ↦ ?_
    refine Preserves.bind Preserves.get fun _ ↦ Preserves.bind (Preserves.ensure _ _) fun _ ↦ ?_
    exact Preserves.bind (preserves_policies_onLedger _) fun _ ↦ preserves_policies_depositEvent _
  | setPolicy policy =>
    refine Preserves.bind (preserves_ensureSigned origin) fun sponsor ↦ ?_
    refine preserves_bind_ensureValidPolicy fun hpolicy ↦ ?_
    refine Preserves.bind (preserves_policies_tryMutateSponsor sponsor ?_) fun _ ↦
      preserves_policies_depositEvent _
    rintro (_ | before) entry hrun - state rfl
    · simp at hrun
    · simp only [Except.ok.injEq, Option.some.injEq] at hrun
      subst hrun
      exact hpolicy
  | pause =>
    refine Preserves.bind (preserves_ensureSigned origin) fun sponsor ↦ ?_
    exact Preserves.bind (preserves_policies_mutateEntry sponsor (fun _ ↦ rfl)) fun _ ↦
      preserves_policies_depositEvent _
  | resume =>
    refine Preserves.bind (preserves_ensureSigned origin) fun sponsor ↦ ?_
    exact Preserves.bind (preserves_policies_mutateEntry sponsor (fun _ ↦ rfl)) fun _ ↦
      preserves_policies_depositEvent _
  | unregister =>
    refine Preserves.bind (preserves_ensureSigned origin) fun sponsor ↦ ?_
    refine Preserves.bind (preserves_ensureRegistered sponsor) fun _ ↦ ?_
    refine Preserves.bind Preserves.get fun st ↦ Preserves.bind (Preserves.ensure _ _) fun _ ↦ ?_
    have hremoves : Preserves PoliciesWellFormed (do
        modify fun st ↦ st.setSponsor sponsor none
        modify fun st ↦ st.depositEvent (.sponsorUnregistered sponsor) :
          EStateM DispatchError (PalletState Account Ledger maxAllowedCallers) PUnit) := by
      refine Preserves.bind (Preserves.modify ?_) fun _ ↦ preserves_policies_depositEvent _
      intro st hstored
      exact hstored.setSponsor sponsor (by simp)
    by_cases hbudget : budgetOnHold balances st sponsor ≠ 0
    · simp only [if_pos hbudget]
      exact Preserves.bind (preserves_policies_onLedger _) fun _ ↦ hremoves
    · simp only [if_neg hbudget]
      exact hremoves

end Calls

end SponsoredTx.Pallet
