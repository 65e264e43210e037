import SponsoredTx.Extension.SponsoredPayment
import SponsoredTx.Foundation.ScaleCodec

/-!
# The client's signed payload and the runtime's decoder

The extension is written twice. The pallet derives `Encode` and `Decode` for its
`SponsoredChargeTransactionPayment` (`extension.rs`): a compact tip, an optional account and a
marker. The client crate (`examples/subxt-sponsor-client`) declares its own type of that name, with
the two fields only, and writes them by hand in `encode_value_to`. This module embeds both sides
over a SCALE codec that is a parameter: `SponsoredChargeTransactionPayment.encodeValueTo` for the
client, and `runtimeEncode` and `runtimeDecode` for what the derive produces.

`encodeValueTo_eq_append` says that the two encoders agree byte for byte, and
`reads_runtimeDecode` that the derived decoder reads them. `clientPayload_decodes` puts them
together: the runtime decodes what the client appends, in the middle of any longer string, and no
payload continues another.
-/

set_option autoImplicit false
set_option relaxedAutoImplicit false

namespace SponsoredTx.Client

open Foundation.ByteCodec Foundation.ScaleCodec

/-- `AccountId32`: 32 raw bytes. -/
abbrev AccountId32 : Type := FixedBytes 32

/-! ### The client -/

/-- `SponsoredChargeTransactionPaymentParams`: what the developer passes in. -/
structure SponsoredChargeTransactionPaymentParams where
  tip : ℕ
  sponsor : Option AccountId32
  deriving DecidableEq

/-- The client's `SponsoredChargeTransactionPayment`; its tip is a `Compact<u128>`. -/
structure SponsoredChargeTransactionPayment where
  tip : ℕ
  sponsor : Option AccountId32
  deriving DecidableEq

namespace SponsoredChargeTransactionPayment

/-- `ExtrinsicParams::new`; the source returns this value in an `Ok`, and no error. -/
def new (params : SponsoredChargeTransactionPaymentParams) : SponsoredChargeTransactionPayment where
  tip := params.tip
  sponsor := params.sponsor

/-- `encode_value_to`: the tip, then the sponsor. -/
def encodeValueTo (scale : Scale) (self : SponsoredChargeTransactionPayment) (v : Bytes) : Bytes :=
  let v := scale.compact.encodeTo self.tip v
  (scale.option (scale.fixedBytes 32)).encodeTo self.sponsor v

end SponsoredChargeTransactionPayment

/-! ### The runtime -/

/-- The derived `Encode` of the pallet's extension: its fields in their order, the tip compact. -/
def runtimeEncode (scale : Scale)
    (self : Extension.SponsoredChargeTransactionPayment AccountId32) : Bytes :=
  scale.compact.encode self.tip ++ ((scale.option (scale.fixedBytes 32)).encode self.sponsor ++
    scale.phantom.encode ())

/-- The derived `Decode` of the pallet's extension. -/
def runtimeDecode (scale : Scale) :
    Decoder (Extension.SponsoredChargeTransactionPayment AccountId32) := do
  let tip ← scale.compact.decode
  let sponsor ← (scale.option (scale.fixedBytes 32)).decode
  let _ ← scale.phantom.decode
  return { tip, sponsor }

/-! ### Both sides agree -/

section Agreement

variable {scale : Scale}

/-- The client appends the bytes that the runtime's own encoder produces for the same fields.
Assumes: the documented codec. -/
theorem encodeValueTo_eq_append (hscale : scale.Documented)
    (self : SponsoredChargeTransactionPayment) (v : Bytes) :
    self.encodeValueTo scale v = v ++ runtimeEncode scale ⟨self.tip, self.sponsor⟩ := by
  simp only [SponsoredChargeTransactionPayment.encodeValueTo, Codec.encodeTo, runtimeEncode,
    hscale.phantom_encode, List.append_nil, List.append_assoc]

/-- The derived decoder reads the derived encoding of a tip below `2 ^ 128`. Assumes: the documented
codec. -/
theorem reads_runtimeDecode (hscale : scale.Documented)
    (value : Extension.SponsoredChargeTransactionPayment AccountId32) (htip : value.tip < 2 ^ 128) :
    Reads (runtimeDecode scale) (runtimeEncode scale value) value := by
  have hsponsor : Reads (scale.option (scale.fixedBytes 32)).decode
      ((scale.option (scale.fixedBytes 32)).encode value.sponsor) value.sponsor :=
    hscale.reads_option fun account _ ↦ hscale.reads_fixedBytes account
  refine (hscale.reads_compact htip).bind (hsponsor.bind ?_)
  rw [← List.append_nil (scale.phantom.encode ())]
  exact hscale.reads_phantom.bind (Reads.pure value)

/-- The client and the runtime agree on the signed payload. Assumes: the documented codec. For every
tip below `2 ^ 128`, every sponsor or none and every continuation, the runtime decodes the bytes
that the client appends to its buffer, finds the tip and the sponsor in them and leaves the
continuation. So a payload that continues another has the same tip and sponsor. -/
theorem clientPayload_decodes (hscale : scale.Documented) :
    (∀ params : SponsoredChargeTransactionPaymentParams, params.tip < 2 ^ 128 → ∀ v rest,
      let self := SponsoredChargeTransactionPayment.new params
      self.encodeValueTo scale v = v ++ self.encodeValueTo scale [] ∧
        runtimeDecode scale (self.encodeValueTo scale [] ++ rest) =
          some (⟨params.tip, params.sponsor⟩, rest)) ∧
    ∀ params params' : SponsoredChargeTransactionPaymentParams, params.tip < 2 ^ 128 →
      params'.tip < 2 ^ 128 →
      (SponsoredChargeTransactionPayment.new params).encodeValueTo scale [] <+:
        (SponsoredChargeTransactionPayment.new params').encodeValueTo scale [] →
      params = params' := by
  have hreads : ∀ params : SponsoredChargeTransactionPaymentParams, params.tip < 2 ^ 128 →
      Reads (runtimeDecode scale)
        ((SponsoredChargeTransactionPayment.new params).encodeValueTo scale [])
        ⟨params.tip, params.sponsor⟩ := by
    intro params htip
    rw [encodeValueTo_eq_append hscale, List.nil_append]
    exact reads_runtimeDecode hscale ⟨params.tip, params.sponsor⟩ htip
  constructor
  · intro params htip v rest
    refine ⟨?_, hreads params htip rest⟩
    rw [encodeValueTo_eq_append hscale, encodeValueTo_eq_append hscale, List.nil_append]
  · intro params params' htip htip' hle
    have hvalue := (hreads params htip).eq_of_isPrefix (hreads params' htip') hle
    simp only [Extension.SponsoredChargeTransactionPayment.mk.injEq] at hvalue
    obtain ⟨tip, sponsor⟩ := params
    obtain ⟨tip', sponsor'⟩ := params'
    obtain ⟨rfl, rfl⟩ := hvalue
    rfl

/-- An account whose 32 bytes are all 7. -/
def sevenAccount : AccountId32 where
  bytes := List.replicate 32 7
  length_eq := List.length_replicate

/-- With the reference codec the runtime decodes a tip of `2 ^ 100`, which takes thirteen bytes, and
leaves the two bytes that follow the payload. -/
theorem clientPayload_decodes_big :
    runtimeDecode referenceScale
        ((SponsoredChargeTransactionPayment.new ⟨2 ^ 100, some sevenAccount⟩).encodeValueTo
          referenceScale [] ++ [1, 2]) =
      some (⟨2 ^ 100, some sevenAccount⟩, [1, 2]) :=
  ((clientPayload_decodes referenceScale_documented).1 ⟨2 ^ 100, some sevenAccount⟩ (by norm_num) []
    [1, 2]).2

/-- The payload of an unsponsored transaction without a tip is two zero bytes. -/
example : (SponsoredChargeTransactionPayment.new ⟨0, none⟩).encodeValueTo referenceScale [] =
    [0, 0] := by
  decide

end Agreement

end SponsoredTx.Client
