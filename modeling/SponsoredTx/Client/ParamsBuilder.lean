import SponsoredTx.Client.SignedPayload
import SponsoredTx.Foundation.StrictScale

/-!
# The client's params builder and the payloads the runtime accepts

`SponsoredParamsBuilder` of `examples/subxt-sponsor-client` wraps the default builder of the client
library, keeps a tip and a sponsor of its own, and puts its own payment parameters in the place of
the default ones. The default builder is a parameter. `SponsoredParamsBuilder.payment_run` and
`SponsoredParamsBuilder.other_run` say what a sequence of setter calls builds: the last tip and the
last choice of a sponsor, and in every other slot what the default builder would have built.

`exact_runtime` strengthens the round trip of `SignedPayload`: the runtime's derived decoder accepts
nothing but encodings. `builderPayloads_exact` joins the two. The payloads that the client can build
are exactly the payloads that the runtime accepts.
-/

set_option autoImplicit false
set_option relaxedAutoImplicit false

namespace SponsoredTx.Client

open Foundation.ByteCodec Foundation.ScaleCodec Foundation.ExactCodec Foundation.StrictScale

/-! ### The builders -/

/-- The slots of the parameter tuple besides the one of the payment extension. -/
inductive ExtensionSlot
  | verifySignature
  | checkSpecVersion
  | checkTxVersion
  | checkNonce
  | checkGenesis
  | checkMortality
  | chargeAssetTxPayment
  | checkMetadataHash
  deriving DecidableEq, Repr

/-- A tuple of extension parameters. -/
structure ExtrinsicParams (Value : ExtensionSlot → Type) (Payment : Type) where
  other : (slot : ExtensionSlot) → Value slot
  payment : Payment

/-- The operations of a `DefaultExtrinsicParamsBuilder`, whose code is not known. -/
structure DefaultExtrinsicParamsBuilder (Inner : Type) (Value : ExtensionSlot → Type)
    (Payment : Type) where
  new : Inner
  tip : Inner → ℕ → Inner
  nonce : Inner → ℕ → Inner
  mortal : Inner → ℕ → Inner
  immortal : Inner → Inner
  build : Inner → ExtrinsicParams Value Payment

/-- `SponsoredParamsBuilder`: the default builder with the fields of the sponsored extension. -/
structure SponsoredParamsBuilder (Inner : Type) where
  inner : Inner
  tip : ℕ
  sponsor : Option AccountId32

/-- The setters of the builder, as calls. -/
inductive BuilderCall
  | sponsor (sponsor : AccountId32)
  | unsponsored
  | tip (tip : ℕ)
  | nonce (nonce : ℕ)
  | mortal (forNBlocks : ℕ)
  | immortal
  deriving DecidableEq

section Builder

variable {Inner Payment : Type} {Value : ExtensionSlot → Type}
  (defaultBuilder : DefaultExtrinsicParamsBuilder Inner Value Payment)

namespace SponsoredParamsBuilder

/-- `new`: every field at its default. -/
def new : SponsoredParamsBuilder Inner where
  inner := defaultBuilder.new
  tip := 0
  sponsor := none

/-- The setters. Only `tip` writes to both builders. -/
def apply (self : SponsoredParamsBuilder Inner) : BuilderCall → SponsoredParamsBuilder Inner
  | .sponsor sponsor => { self with sponsor := some sponsor }
  | .unsponsored => { self with sponsor := none }
  | .tip tip => { self with tip, inner := defaultBuilder.tip self.inner tip }
  | .nonce nonce => { self with inner := defaultBuilder.nonce self.inner nonce }
  | .mortal forNBlocks => { self with inner := defaultBuilder.mortal self.inner forNBlocks }
  | .immortal => { self with inner := defaultBuilder.immortal self.inner }

/-- `build`: the tuple of the default builder, with the payment slot replaced. -/
def build (self : SponsoredParamsBuilder Inner) :
    ExtrinsicParams Value SponsoredChargeTransactionPaymentParams where
  other := (defaultBuilder.build self.inner).other
  payment := ⟨self.tip, self.sponsor⟩

/-- The builder after a sequence of setter calls. -/
def run (calls : List BuilderCall) : SponsoredParamsBuilder Inner :=
  calls.foldl (apply defaultBuilder) (new defaultBuilder)

/-- The bytes that the client appends for the payment extension of what it has built. -/
def payload (scale : Scale) (calls : List BuilderCall) : Bytes :=
  (SponsoredChargeTransactionPayment.new (build defaultBuilder (run defaultBuilder calls)).payment
    ).encodeValueTo scale []

end SponsoredParamsBuilder

/-! ### What a sequence of setter calls asks for -/

/-- The tip a call sets. -/
def BuilderCall.tipSet : BuilderCall → Option ℕ
  | .tip planck => some planck
  | _ => none

/-- The choice of a sponsor, or of none, that a call makes. -/
def BuilderCall.sponsorSet : BuilderCall → Option (Option AccountId32)
  | .sponsor account => some (some account)
  | .unsponsored => some none
  | _ => none

/-- What a call does to the default builder. -/
def BuilderCall.applyInner (inner : Inner) : BuilderCall → Inner
  | .tip planck => defaultBuilder.tip inner planck
  | .nonce index => defaultBuilder.nonce inner index
  | .mortal forNBlocks => defaultBuilder.mortal inner forNBlocks
  | .immortal => defaultBuilder.immortal inner
  | .sponsor _ => inner
  | .unsponsored => inner

/-- The last tip that was set, or zero. -/
def lastTip (calls : List BuilderCall) : ℕ :=
  (calls.filterMap BuilderCall.tipSet).getLast?.getD 0

/-- The last choice of a sponsor, or none. -/
def lastSponsor (calls : List BuilderCall) : Option AccountId32 :=
  (calls.filterMap BuilderCall.sponsorSet).getLast?.getD none

/-- The tips fit into 128 bits, as their type says. -/
def TipsFit (calls : List BuilderCall) : Prop :=
  ∀ tip, .tip tip ∈ calls → tip < 2 ^ 128

namespace SponsoredParamsBuilder

/-- A sequence of calls runs its last call last. -/
theorem run_append_singleton (calls : List BuilderCall) (call : BuilderCall) :
    run defaultBuilder (calls ++ [call]) =
      apply defaultBuilder (run defaultBuilder calls) call := by
  rw [run, List.foldl_append]
  rfl

/-- The builder ends with the last tip and the last choice of a sponsor, by induction on the
calls from the last one back. -/
theorem payment_run (calls : List BuilderCall) :
    (build defaultBuilder (run defaultBuilder calls)).payment =
      ⟨lastTip calls, lastSponsor calls⟩ := by
  change (⟨(run defaultBuilder calls).tip, (run defaultBuilder calls).sponsor⟩ :
    SponsoredChargeTransactionPaymentParams) = _
  induction calls using List.reverseRecOn with
  | nil => rfl
  | append_singleton calls call ih =>
    rw [SponsoredChargeTransactionPaymentParams.mk.injEq] at ih
    rw [run_append_singleton]
    cases call <;> simp [apply, lastTip, lastSponsor, List.filterMap_append, BuilderCall.tipSet,
      BuilderCall.sponsorSet, ih.1, ih.2]

/-- Every other slot is what the default builder builds after the same calls. -/
theorem other_run (calls : List BuilderCall) :
    (build defaultBuilder (run defaultBuilder calls)).other =
      (defaultBuilder.build
        (calls.foldl (BuilderCall.applyInner defaultBuilder) defaultBuilder.new)).other := by
  have hinner : (run defaultBuilder calls).inner =
      calls.foldl (BuilderCall.applyInner defaultBuilder) defaultBuilder.new := by
    induction calls using List.reverseRecOn with
    | nil => rfl
    | append_singleton calls call ih =>
      rw [run_append_singleton, List.foldl_append, ← ih]
      cases call <;> rfl
  rw [← hinner]
  rfl

end SponsoredParamsBuilder

end Builder

/-! ### What the runtime accepts -/

/-- The derived codec of the pallet's extension. -/
def runtimeCodec (scale : Scale) :
    Codec (Extension.SponsoredChargeTransactionPayment AccountId32) where
  encode := runtimeEncode scale
  decode := runtimeDecode scale

section Accepted

variable {scale : Scale}

/-- The derived decoder accepts the encodings of the extensions with a tip below `2 ^ 128` and
nothing else. Assumes: a codec that rejects what it should. -/
theorem exact_runtime (hscale : Scale.Strict scale) :
    Exact (runtimeCodec scale) (fun value ↦ value.tip < 2 ^ 128) := by
  refine Exact.of_reads (fun value htip ↦ reads_runtimeDecode hscale.toDocumented value htip) ?_
  intro bytes value rest hdecode
  have hsponsor := hscale.exact_option (hscale.exact_fixedBytes 32)
  simp only [runtimeCodec, runtimeDecode, bind_eq_some_iff, pure_eq_some_iff] at hdecode
  obtain ⟨tip, left, htip, sponsor, left', hoption, _, _, hphantom, rfl, rfl⟩ := hdecode
  obtain ⟨hfits, rfl⟩ := (hscale.exact_compact _ _ _).mp htip
  obtain ⟨-, rfl⟩ := (hsponsor _ _ _).mp hoption
  rw [hscale.phantom_decode, Option.some.injEq, Prod.mk.injEq] at hphantom
  obtain ⟨-, rfl⟩ := hphantom
  refine ⟨hfits, ?_⟩
  simp only [runtimeCodec, runtimeEncode, hscale.phantom_encode, List.append_nil,
    List.append_assoc]

variable {Inner Payment : Type} {Value : ExtensionSlot → Type}

/-- A builder's payload is the runtime's encoding of the last tip and the last choice of a
sponsor. -/
theorem payload_eq (hscale : Scale.Strict scale)
    (defaultBuilder : DefaultExtrinsicParamsBuilder Inner Value Payment)
    (calls : List BuilderCall) :
    SponsoredParamsBuilder.payload defaultBuilder scale calls =
      runtimeEncode scale ⟨lastTip calls, lastSponsor calls⟩ := by
  rw [SponsoredParamsBuilder.payload, SponsoredParamsBuilder.payment_run,
    encodeValueTo_eq_append hscale.toDocumented, List.nil_append]
  rfl

/-- The last tip fits if every tip does. -/
theorem lastTip_lt {calls : List BuilderCall} (hfit : TipsFit calls) : lastTip calls < 2 ^ 128 := by
  unfold lastTip
  cases hlast : (calls.filterMap BuilderCall.tipSet).getLast? with
  | none => exact Nat.two_pow_pos 128
  | some tip =>
    obtain ⟨call, hcall, htip⟩ := List.mem_filterMap.mp (List.mem_of_getLast? hlast)
    cases call with
    | tip tip' =>
      obtain rfl : tip' = tip := Option.some.inj htip
      exact hfit tip' hcall
    | sponsor _ => exact absurd htip (Option.some_ne_none tip).symm
    | unsponsored => exact absurd htip (Option.some_ne_none tip).symm
    | nonce _ => exact absurd htip (Option.some_ne_none tip).symm
    | mortal _ => exact absurd htip (Option.some_ne_none tip).symm
    | immortal => exact absurd htip (Option.some_ne_none tip).symm

/-- The calls that ask for a given tip and sponsor. -/
def callsFor (tip : ℕ) : Option AccountId32 → List BuilderCall
  | none => [.tip tip, .unsponsored]
  | some sponsor => [.tip tip, .sponsor sponsor]

theorem lastTip_callsFor (tip : ℕ) (sponsor : Option AccountId32) :
    lastTip (callsFor tip sponsor) = tip := by
  cases sponsor <;> rfl

theorem lastSponsor_callsFor (tip : ℕ) (sponsor : Option AccountId32) :
    lastSponsor (callsFor tip sponsor) = sponsor := by
  cases sponsor <;> rfl

theorem tipsFit_callsFor {tip : ℕ} (htip : tip < 2 ^ 128) (sponsor : Option AccountId32) :
    TipsFit (callsFor tip sponsor) := by
  intro tip' hmem
  cases sponsor <;> simp_all [callsFor]

/-- The client can build exactly the payloads that the runtime accepts. Assumes: a codec that
rejects what it should. The runtime finds a tip and a sponsor at the front of its input if and only
if the input starts with the payload of some sequence of setter calls whose last tip and last choice
of a sponsor they are. In every other slot such a sequence builds what the default builder
builds. -/
theorem builderPayloads_exact (hscale : Scale.Strict scale)
    (defaultBuilder : DefaultExtrinsicParamsBuilder Inner Value Payment) :
    (∀ bytes value rest, runtimeDecode scale bytes = some (value, rest) ↔
      ∃ calls, TipsFit calls ∧ lastTip calls = value.tip ∧ lastSponsor calls = value.sponsor ∧
        bytes = SponsoredParamsBuilder.payload defaultBuilder scale calls ++ rest) ∧
    ∀ calls, ((SponsoredParamsBuilder.run defaultBuilder calls).build defaultBuilder).other =
      (defaultBuilder.build
        (calls.foldl (BuilderCall.applyInner defaultBuilder) defaultBuilder.new)).other := by
  refine ⟨?_, SponsoredParamsBuilder.other_run defaultBuilder⟩
  rintro bytes ⟨tip, sponsor⟩ rest
  rw [show runtimeDecode scale bytes = (runtimeCodec scale).decode bytes from rfl,
    exact_runtime hscale]
  constructor
  · rintro ⟨htip, rfl⟩
    refine ⟨callsFor tip sponsor, tipsFit_callsFor htip sponsor, lastTip_callsFor tip sponsor,
      lastSponsor_callsFor tip sponsor, ?_⟩
    rw [payload_eq hscale, lastTip_callsFor, lastSponsor_callsFor]
    rfl
  · rintro ⟨calls, hfit, rfl, rfl, rfl⟩
    rw [payload_eq hscale]
    exact ⟨lastTip_lt hfit, rfl⟩

/-- A default builder that records the calls it gets. -/
def recordingBuilder : DefaultExtrinsicParamsBuilder (List ℕ) (fun _ ↦ List ℕ) Unit where
  new := []
  tip := fun inner tip ↦ inner ++ [tip]
  nonce := fun inner nonce ↦ inner ++ [nonce]
  mortal := fun inner forNBlocks ↦ inner ++ [forNBlocks]
  immortal := fun inner ↦ inner
  build := fun inner ↦ ⟨fun _ ↦ inner, ()⟩

/-- Setters in any order, with a tip that is set twice. -/
def mockBuilderCalls : List BuilderCall :=
  [.tip 5, .sponsor sevenAccount, .mortal 32, .tip (2 ^ 100)]

/-- The runtime finds the last tip and the sponsor in what these calls build. The bytes `[1, 0, 0]`,
which would be a tip of zero in the mode of two bytes, are built by no calls. -/
theorem builderPayloads_exact_mockBuilderCalls :
    runtimeDecode referenceScale
        (SponsoredParamsBuilder.payload recordingBuilder referenceScale mockBuilderCalls ++ [9]) =
      some (⟨2 ^ 100, some sevenAccount⟩, [9]) ∧
    ¬ ∃ calls, TipsFit calls ∧ lastTip calls = 0 ∧ lastSponsor calls = none ∧
      [1, 0, 0] = SponsoredParamsBuilder.payload recordingBuilder referenceScale calls ++ [] := by
  have hexact := (builderPayloads_exact referenceScale_strict recordingBuilder).1
  constructor
  · refine (hexact _ _ _).mpr ⟨mockBuilderCalls, ?_, rfl, rfl, rfl⟩
    intro tip hmem
    simp only [mockBuilderCalls, List.mem_cons, List.not_mem_nil, or_false,
      BuilderCall.tip.injEq, reduceCtorEq, false_or] at hmem
    omega
  · intro hcalls
    have hdecode := (hexact [1, 0, 0] ⟨0, none⟩ []).mpr hcalls
    exact absurd hdecode (by decide)

end Accepted

end SponsoredTx.Client
