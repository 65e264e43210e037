import SponsoredTx.Foundation.StrictScale
import SponsoredTx.Pallet.SponsorLifecycle

/-!
# The encodings that the pallet's types derive

`SponsorPolicy` and `SponsorState` derive `Encode`, `Decode` and `MaxEncodedLen` (`types.rs`), and
the pallet macros do so for the calls, by their `call_index`, and for the events, by their position
(`lib.rs`). This module writes these codecs out over a SCALE codec and an account codec that are
parameters: amounts take sixteen bytes, an allowlist starts with its length as a compact number and
is rejected above its bound, and a call or event starts with its index.

`wireFormat_exact` says that each decoder accepts the encodings of the values that fit and nothing
else. `length_sponsorState_le` is what the derived `MaxEncodedLen` promises about an entry of
`Sponsors`.
-/

set_option autoImplicit false
set_option relaxedAutoImplicit false

namespace SponsoredTx.Pallet

open Foundation.ByteCodec Foundation.ExactCodec Foundation.StrictScale

variable {Account : Type} {maxAllowedCallers : ℕ}

/-! ### Values that fit their types -/

/-- The limit of a policy fits into a balance. -/
def SponsorPolicy.Fits (policy : SponsorPolicy Account maxAllowedCallers) : Prop :=
  policy.maxFeePerTx < 2 ^ 128

/-- The policy of an entry fits. -/
def SponsorState.Fits (state : SponsorState Account maxAllowedCallers) : Prop :=
  state.policy.Fits

/-- The arguments of a call fit. -/
def Call.Fits : Call Account maxAllowedCallers → Prop
  | .registerSponsor initialBudget policy => initialBudget < 2 ^ 128 ∧ policy.Fits
  | .increaseBudget amount => amount < 2 ^ 128
  | .decreaseBudget amount => amount < 2 ^ 128
  | .setPolicy policy => policy.Fits
  | .pause => True
  | .resume => True
  | .unregister => True

/-- The amounts of an event fit. -/
def Event.Fits : Event Account → Prop
  | .sponsorRegistered _ initialBudget => initialBudget < 2 ^ 128
  | .budgetIncreased _ amount newBudget => amount < 2 ^ 128 ∧ newBudget < 2 ^ 128
  | .budgetDecreased _ amount newBudget => amount < 2 ^ 128 ∧ newBudget < 2 ^ 128
  | .sponsorPolicyUpdated _ => True
  | .sponsorPaused _ => True
  | .sponsorResumed _ => True
  | .sponsorUnregistered _ => True
  | .sponsoredTransactionFeePaid _ _ actualFee tip => actualFee < 2 ^ 128 ∧ tip < 2 ^ 128

/-! ### The derived codecs -/

section Codecs

variable (scale : WideScale) (account : Codec Account)

/-- `BoundedVec`, as the codec has it. -/
def boundedVecCodec {α : Type} (codec : Codec α) (bound : ℕ) : Codec (BoundedVec α bound) where
  encode := fun items ↦ (scale.boundedVec codec bound).encode ⟨items.toList, items.length_le⟩
  decode := (fun items ↦ ⟨items.1, items.2⟩) <$> (scale.boundedVec codec bound).decode

/-- The fields of a policy one after the other. -/
def sponsorPolicyCodec : Codec (SponsorPolicy Account maxAllowedCallers) :=
  let fields := prodCodec (boundedVecCodec scale account maxAllowedCallers) scale.u128
  { encode := fun policy ↦ fields.encode (policy.allowedCallers, policy.maxFeePerTx)
    decode := (fun (allowedCallers, maxFeePerTx) ↦ ⟨allowedCallers, maxFeePerTx⟩) <$>
      fields.decode }

/-- The fields of an entry one after the other. -/
def sponsorStateCodec : Codec (SponsorState Account maxAllowedCallers) :=
  let fields := prodCodec scale.bool (sponsorPolicyCodec scale account)
  { encode := fun state ↦ fields.encode (state.active, state.policy)
    decode := (fun (active, policy) ↦ ⟨active, policy⟩) <$> fields.decode }

/-- `MaxEncodedLen` of a policy, for accounts of at most the given length. -/
def sponsorPolicyMaxEncodedLen (accountLen maxAllowedCallers : ℕ) : ℕ :=
  scale.boundedVecMaxEncodedLen accountLen maxAllowedCallers + scale.u128MaxEncodedLen

/-- `MaxEncodedLen` of an entry, for accounts of at most the given length. -/
def sponsorStateMaxEncodedLen (accountLen maxAllowedCallers : ℕ) : ℕ :=
  scale.boolMaxEncodedLen + sponsorPolicyMaxEncodedLen scale accountLen maxAllowedCallers

/-- `#[pallet::call_index]`. -/
def callIndex : Call Account maxAllowedCallers → UInt8
  | .registerSponsor _ _ => 0
  | .increaseBudget _ => 1
  | .decreaseBudget _ => 2
  | .setPolicy _ => 3
  | .pause => 4
  | .resume => 5
  | .unregister => 6

/-- The arguments of a call one after the other. -/
def encodeCallArguments : Call Account maxAllowedCallers → Bytes
  | .registerSponsor initialBudget policy =>
    (prodCodec scale.u128 (sponsorPolicyCodec scale account)).encode (initialBudget, policy)
  | .increaseBudget amount => scale.u128.encode amount
  | .decreaseBudget amount => scale.u128.encode amount
  | .setPolicy policy => (sponsorPolicyCodec scale account).encode policy
  | .pause => unitCodec.encode ()
  | .resume => unitCodec.encode ()
  | .unregister => unitCodec.encode ()

/-- Decode the arguments of the call with an index; an unknown index is rejected. -/
def decodeCallArguments (index : UInt8) : Decoder (Call Account maxAllowedCallers) :=
  match index with
  | 0 => (fun (initialBudget, policy) ↦ .registerSponsor initialBudget policy) <$>
      (prodCodec scale.u128 (sponsorPolicyCodec scale account)).decode
  | 1 => .increaseBudget <$> scale.u128.decode
  | 2 => .decreaseBudget <$> scale.u128.decode
  | 3 => .setPolicy <$> (sponsorPolicyCodec scale account).decode
  | 4 => (fun _ ↦ .pause) <$> unitCodec.decode
  | 5 => (fun _ ↦ .resume) <$> unitCodec.decode
  | 6 => (fun _ ↦ .unregister) <$> unitCodec.decode
  | _ => fun _ ↦ none

/-- A call: its index, then its arguments. -/
def callCodec : Codec (Call Account maxAllowedCallers) where
  encode := fun call ↦ callIndex call :: encodeCallArguments scale account call
  decode := decodeTagged (decodeCallArguments scale account)

/-- The index of an event: its position in the declaration. -/
def eventIndex : Event Account → UInt8
  | .sponsorRegistered _ _ => 0
  | .budgetIncreased _ _ _ => 1
  | .budgetDecreased _ _ _ => 2
  | .sponsorPolicyUpdated _ => 3
  | .sponsorPaused _ => 4
  | .sponsorResumed _ => 5
  | .sponsorUnregistered _ => 6
  | .sponsoredTransactionFeePaid _ _ _ _ => 7

/-- A sponsor, an amount and the budget after it. -/
def budgetChangeCodec : Codec (Account × ℕ × ℕ) :=
  prodCodec account (prodCodec scale.u128 scale.u128)

/-- The fields of a fee event. -/
def feePaidCodec : Codec (Account × Account × ℕ × ℕ) :=
  prodCodec account (budgetChangeCodec scale account)

/-- The fields of an event one after the other. -/
def encodeEventFields : Event Account → Bytes
  | .sponsorRegistered sponsor initialBudget =>
    (prodCodec account scale.u128).encode (sponsor, initialBudget)
  | .budgetIncreased sponsor amount newBudget =>
    (budgetChangeCodec scale account).encode (sponsor, amount, newBudget)
  | .budgetDecreased sponsor amount newBudget =>
    (budgetChangeCodec scale account).encode (sponsor, amount, newBudget)
  | .sponsorPolicyUpdated sponsor => account.encode sponsor
  | .sponsorPaused sponsor => account.encode sponsor
  | .sponsorResumed sponsor => account.encode sponsor
  | .sponsorUnregistered sponsor => account.encode sponsor
  | .sponsoredTransactionFeePaid sponsor signer actualFee tip =>
    (feePaidCodec scale account).encode (sponsor, signer, actualFee, tip)

/-- Decode the fields of the event with an index; an unknown index is rejected. -/
def decodeEventFields (index : UInt8) : Decoder (Event Account) :=
  match index with
  | 0 => (fun (sponsor, initialBudget) ↦ .sponsorRegistered sponsor initialBudget) <$>
      (prodCodec account scale.u128).decode
  | 1 => (fun (sponsor, amount, newBudget) ↦ .budgetIncreased sponsor amount newBudget) <$>
      (budgetChangeCodec scale account).decode
  | 2 => (fun (sponsor, amount, newBudget) ↦ .budgetDecreased sponsor amount newBudget) <$>
      (budgetChangeCodec scale account).decode
  | 3 => .sponsorPolicyUpdated <$> account.decode
  | 4 => .sponsorPaused <$> account.decode
  | 5 => .sponsorResumed <$> account.decode
  | 6 => .sponsorUnregistered <$> account.decode
  | 7 => (fun (sponsor, signer, actualFee, tip) ↦
      .sponsoredTransactionFeePaid sponsor signer actualFee tip) <$>
      (feePaidCodec scale account).decode
  | _ => fun _ ↦ none

/-- An event: its index, then its fields. -/
def eventCodec : Codec (Event Account) where
  encode := fun event ↦ eventIndex event :: encodeEventFields scale account event
  decode := decodeTagged (decodeEventFields scale account)

end Codecs

/-! ### The length of an entry -/

/-- An encoded entry is no longer than its `MaxEncodedLen`. Assumes: a documented codec, accounts of
at most the given length, and a bound of 32 bits. -/
theorem length_sponsorState_le {scale : WideScale} (hscale : WideScale.Strict scale)
    {account : Codec Account} {accountLen : ℕ}
    (haccount : ∀ who, (account.encode who).length ≤ accountLen)
    (hbound : maxAllowedCallers < 2 ^ 32)
    {state : SponsorState Account maxAllowedCallers} (hfits : state.Fits) :
    ((sponsorStateCodec scale account).encode state).length ≤
      sponsorStateMaxEncodedLen scale accountLen maxAllowedCallers := by
  obtain ⟨active, ⟨callers, hle⟩, maxFeePerTx⟩ := state
  have hcallers := hscale.length_boundedVec_le haccount hbound ⟨callers, hle⟩
  change (scale.bool.encode active ++ ((scale.boundedVec account maxAllowedCallers).encode
    ⟨callers, hle⟩ ++ scale.u128.encode maxFeePerTx)).length ≤ _
  rw [hscale.bool_encode, hscale.u128_encode _ hfits, sponsorStateMaxEncodedLen,
    sponsorPolicyMaxEncodedLen, hscale.bool_maxEncodedLen, hscale.u128_maxEncodedLen]
  simp only [List.length_append, List.length_singleton, length_leBytes]
  omega

/-! ### The decoders accept nothing else -/

section Exactness

variable {scale : WideScale} {account : Codec Account}

/-- A bounded vector over an exact codec is exact. Assumes: a codec that rejects what it should and
a bound of 32 bits. -/
theorem exact_boundedVecCodec (hscale : WideScale.Strict scale) {α : Type} {codec : Codec α}
    (hexact : Exact codec (fun _ ↦ True)) {bound : ℕ} (hbound : bound < 2 ^ 32) :
    Exact (boundedVecCodec scale codec bound) (fun _ ↦ True) := by
  have hitems := exact_map (hscale.exact_boundedVec hexact hbound)
    (fun items ↦ (⟨items.1, items.2⟩ : BoundedVec α bound))
    (fun items ↦ ⟨items.toList, items.length_le⟩) (fun _ ↦ rfl) (fun _ ↦ rfl)
  exact hitems.congr fun _ ↦ iff_of_true (fun _ _ ↦ trivial) trivial

variable (hscale : WideScale.Strict scale) (haccount : Exact account (fun _ ↦ True))
include hscale haccount

/-- Policies are exact. -/
theorem exact_sponsorPolicy (hbound : maxAllowedCallers < 2 ^ 32) :
    Exact (sponsorPolicyCodec scale account : Codec (SponsorPolicy Account maxAllowedCallers))
      SponsorPolicy.Fits := by
  have hfields := exact_prod (exact_boundedVecCodec hscale haccount hbound) hscale.exact_u128
  have hpolicy := exact_map hfields
    (fun (allowedCallers, maxFeePerTx) ↦
      (⟨allowedCallers, maxFeePerTx⟩ : SponsorPolicy Account maxAllowedCallers))
    (fun policy ↦ (policy.allowedCallers, policy.maxFeePerTx)) (fun _ ↦ rfl) (fun _ ↦ rfl)
  exact hpolicy.congr fun policy ↦ iff_of_eq (true_and _)

/-- Entries are exact. -/
theorem exact_sponsorState (hbound : maxAllowedCallers < 2 ^ 32) :
    Exact (sponsorStateCodec scale account : Codec (SponsorState Account maxAllowedCallers))
      SponsorState.Fits := by
  have hfields := exact_prod hscale.exact_bool (exact_sponsorPolicy hscale haccount hbound)
  have hstate := exact_map hfields
    (fun (active, policy) ↦ (⟨active, policy⟩ : SponsorState Account maxAllowedCallers))
    (fun state ↦ (state.active, state.policy)) (fun _ ↦ rfl) (fun _ ↦ rfl)
  exact hstate.congr fun state ↦ iff_of_eq (true_and _)

/-- Calls are exact: by the constructors one way, and by the indices the other way. -/
theorem exact_call (hbound : maxAllowedCallers < 2 ^ 32) :
    Exact (callCodec scale account : Codec (Call Account maxAllowedCallers)) Call.Fits := by
  have hamount := hscale.exact_u128
  have hpolicy : Exact (sponsorPolicyCodec scale account :
      Codec (SponsorPolicy Account maxAllowedCallers)) _ :=
    exact_sponsorPolicy hscale haccount hbound
  have hregister := exact_prod hamount hpolicy
  refine exact_tagged ?_ ?_
  · intro call hfits
    cases call with
    | registerSponsor initialBudget policy => exact hregister.reads_map _ hfits
    | increaseBudget amount => exact hamount.reads_map _ hfits
    | decreaseBudget amount => exact hamount.reads_map _ hfits
    | setPolicy policy => exact hpolicy.reads_map _ hfits
    | pause => exact exact_unit.reads_map _ trivial
    | resume => exact exact_unit.reads_map _ trivial
    | unregister => exact exact_unit.reads_map _ trivial
  · intro index bytes call rest hdecode
    unfold decodeCallArguments at hdecode
    split at hdecode
    · obtain ⟨arguments, hfits, rfl, rfl⟩ := hregister.accepts_map hdecode
      exact ⟨hfits, rfl, rfl⟩
    · obtain ⟨amount, hfits, rfl, rfl⟩ := hamount.accepts_map hdecode
      exact ⟨hfits, rfl, rfl⟩
    · obtain ⟨amount, hfits, rfl, rfl⟩ := hamount.accepts_map hdecode
      exact ⟨hfits, rfl, rfl⟩
    · obtain ⟨policy, hfits, rfl, rfl⟩ := hpolicy.accepts_map hdecode
      exact ⟨hfits, rfl, rfl⟩
    · obtain ⟨-, -, rfl, rfl⟩ := exact_unit.accepts_map hdecode
      exact ⟨trivial, rfl, rfl⟩
    · obtain ⟨-, -, rfl, rfl⟩ := exact_unit.accepts_map hdecode
      exact ⟨trivial, rfl, rfl⟩
    · obtain ⟨-, -, rfl, rfl⟩ := exact_unit.accepts_map hdecode
      exact ⟨trivial, rfl, rfl⟩
    · contradiction

/-- Events are exact. -/
theorem exact_event : Exact (eventCodec scale account) Event.Fits := by
  have hregistered := exact_prod haccount hscale.exact_u128
  have hchange : Exact (budgetChangeCodec scale account) _ :=
    exact_prod haccount (exact_prod hscale.exact_u128 hscale.exact_u128)
  have hpaid : Exact (feePaidCodec scale account) _ := exact_prod haccount hchange
  refine exact_tagged ?_ ?_
  · intro event hfits
    cases event with
    | sponsorRegistered sponsor initialBudget =>
      exact hregistered.reads_map _ ⟨trivial, hfits⟩
    | budgetIncreased sponsor amount newBudget =>
      exact hchange.reads_map _ ⟨trivial, hfits⟩
    | budgetDecreased sponsor amount newBudget =>
      exact hchange.reads_map _ ⟨trivial, hfits⟩
    | sponsorPolicyUpdated sponsor => exact haccount.reads_map _ trivial
    | sponsorPaused sponsor => exact haccount.reads_map _ trivial
    | sponsorResumed sponsor => exact haccount.reads_map _ trivial
    | sponsorUnregistered sponsor => exact haccount.reads_map _ trivial
    | sponsoredTransactionFeePaid sponsor signer actualFee tip =>
      exact hpaid.reads_map _ ⟨trivial, trivial, hfits⟩
  · intro index bytes event rest hdecode
    unfold decodeEventFields at hdecode
    split at hdecode
    · obtain ⟨fields, hfits, rfl, rfl⟩ := hregistered.accepts_map hdecode
      exact ⟨hfits.2, rfl, rfl⟩
    · obtain ⟨fields, hfits, rfl, rfl⟩ := hchange.accepts_map hdecode
      exact ⟨hfits.2, rfl, rfl⟩
    · obtain ⟨fields, hfits, rfl, rfl⟩ := hchange.accepts_map hdecode
      exact ⟨hfits.2, rfl, rfl⟩
    · obtain ⟨sponsor, -, rfl, rfl⟩ := haccount.accepts_map hdecode
      exact ⟨trivial, rfl, rfl⟩
    · obtain ⟨sponsor, -, rfl, rfl⟩ := haccount.accepts_map hdecode
      exact ⟨trivial, rfl, rfl⟩
    · obtain ⟨sponsor, -, rfl, rfl⟩ := haccount.accepts_map hdecode
      exact ⟨trivial, rfl, rfl⟩
    · obtain ⟨sponsor, -, rfl, rfl⟩ := haccount.accepts_map hdecode
      exact ⟨trivial, rfl, rfl⟩
    · obtain ⟨fields, hfits, rfl, rfl⟩ := hpaid.accepts_map hdecode
      exact ⟨hfits.2.2, rfl, rfl⟩
    · contradiction

/-- The derived codecs accept nothing but encodings. Assumes: a codec that rejects what it should,
accounts that are decoded exactly, and a bound of 32 bits. For calls, entries of `Sponsors` and
events alike, a byte string is decoded if and only if it starts with the encoding of a value whose
amounts are below `2 ^ 128`, and the decoder returns that value and leaves the rest. So an unknown
index, an allowlist above its bound and an input that ends too early are all rejected, and no two
byte strings stand for the same value. -/
theorem wireFormat_exact (hbound : maxAllowedCallers < 2 ^ 32) :
    Exact (callCodec scale account : Codec (Call Account maxAllowedCallers)) Call.Fits ∧
    Exact (sponsorStateCodec scale account : Codec (SponsorState Account maxAllowedCallers))
      SponsorState.Fits ∧
    Exact (eventCodec scale account) Event.Fits :=
  ⟨exact_call hscale haccount hbound, exact_sponsorState hscale haccount hbound,
    exact_event hscale haccount⟩

end Exactness

/-- An account of one byte. -/
def byteAccount : Codec (FixedBytes 1) :=
  referenceWideScale.fixedBytes 1

theorem byteAccount_exact : Exact byteAccount (fun _ ↦ True) :=
  referenceScale_strict.exact_fixedBytes 1

/-- With an allowlist of at most two accounts of one byte, the decoder accepts a `set_policy` with
two accounts and rejects one with three, and it rejects the index after the last call. -/
theorem wireFormat_exact_setPolicy :
    (∃ call : Call (FixedBytes 1) 2, (callCodec referenceWideScale byteAccount).decode
      (3 :: 8 :: 7 :: 9 :: leBytes 16 5) = some (call, [])) ∧
    (callCodec referenceWideScale byteAccount : Codec (Call (FixedBytes 1) 2)).decode
      (3 :: 12 :: 7 :: 9 :: 11 :: leBytes 16 5) = none ∧
    ∀ call : Call (FixedBytes 1) 2, call.Fits →
      [7] ≠ (callCodec referenceWideScale byteAccount).encode call := by
  have hexact : Exact (callCodec referenceWideScale byteAccount : Codec (Call (FixedBytes 1) 2))
      Call.Fits :=
    (wireFormat_exact referenceWideScale_strict byteAccount_exact (by omega)).1
  refine ⟨⟨.setPolicy ⟨⟨[⟨[7], rfl⟩, ⟨[9], rfl⟩], le_rfl⟩, 5⟩, (hexact _ _ _).mpr ⟨?_, ?_⟩⟩, ?_, ?_⟩
  · exact (by omega : 5 < 2 ^ 128)
  · decide
  · rfl
  · intro call hfits hencode
    have hdecode := (hexact [7] call []).mpr ⟨hfits, by rw [List.append_nil]; exact hencode⟩
    contradiction

end SponsoredTx.Pallet
