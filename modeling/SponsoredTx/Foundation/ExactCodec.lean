import Mathlib.Data.Nat.Digits.Lemmas
import SponsoredTx.Foundation.ByteCodec

/-!
# Codecs whose decoder accepts nothing but encodings

`Exact codec valid` says that the decoder of a codec accepts a byte string exactly if it starts with
the encoding of a valid value, and then returns that value and leaves the rest. It is `Reads` for
every valid value together with the converse, that nothing else is accepted. So each value has one
encoding, and no encoding continues another (`Exact.eq_of_isPrefix`).

Exactness composes the way formats do: through the fields of a record (`exact_prod`), the variants
of an enumeration behind a tag (`exact_tagged`) and a given count of values one after the other
(`decodeItems_eq_some_iff`). `bind_eq_some_iff`, `pure_eq_some_iff` and `map_eq_some_iff` take a
decoder written as a `do` block apart.
-/

set_option autoImplicit false
set_option relaxedAutoImplicit false

namespace SponsoredTx.Foundation.ExactCodec

open ByteCodec

/-! ### Exact codecs -/

/-- The decoder accepts exactly the byte strings that start with the encoding of a valid value. -/
def Exact {α : Type} (codec : Codec α) (valid : α → Prop) : Prop :=
  ∀ bytes a rest,
    codec.decode bytes = some (a, rest) ↔ valid a ∧ bytes = codec.encode a ++ rest

section Fields

variable {α β : Type}

/-- A decoder followed by another one accepts if both do, the second one on what the first left. -/
theorem bind_eq_some_iff {decoder : Decoder α} {next : α → Decoder β} {bytes rest : Bytes} {b : β} :
    (decoder >>= next) bytes = some (b, rest) ↔
      ∃ a left, decoder bytes = some (a, left) ∧ next a left = some (b, rest) := by
  change (decoder bytes).bind (fun found ↦ next found.1 found.2) = some (b, rest) ↔ _
  rw [Option.bind_eq_some_iff]
  exact Prod.exists

/-- Returning a value leaves the input as it is. -/
theorem pure_eq_some_iff {a b : α} {bytes rest : Bytes} :
    (pure a : Decoder α) bytes = some (b, rest) ↔ a = b ∧ bytes = rest := by
  change some (a, bytes) = some (b, rest) ↔ _
  rw [Option.some.injEq, Prod.mk.injEq]

/-- A decoder with a function applied to its value accepts if the decoder does. -/
theorem map_eq_some_iff {decoder : Decoder α} {make : α → β} {bytes rest : Bytes} {b : β} :
    (make <$> decoder) bytes = some (b, rest) ↔
      ∃ a, decoder bytes = some (a, rest) ∧ make a = b := by
  rw [← bind_pure_comp]
  simp only [bind_eq_some_iff, pure_eq_some_iff]
  constructor
  · rintro ⟨a, left, hdecode, hmake, rfl⟩
    exact ⟨a, hdecode, hmake⟩
  · rintro ⟨a, hdecode, hmake⟩
    exact ⟨a, rest, hdecode, hmake, rfl⟩

end Fields

namespace Exact

variable {α : Type} {codec : Codec α} {valid : α → Prop}

/-- An exact decoder reads every valid value. -/
theorem reads (hexact : Exact codec valid) {a : α} (ha : valid a) :
    Reads codec.decode (codec.encode a) a :=
  fun rest ↦ (hexact _ a rest).mpr ⟨ha, rfl⟩

/-- A codec is exact if it reads every valid value and what it accepts is the encoding of a valid
value. -/
theorem of_reads (hreads : ∀ a, valid a → Reads codec.decode (codec.encode a) a)
    (haccepts : ∀ bytes a rest, codec.decode bytes = some (a, rest) →
      valid a ∧ bytes = codec.encode a ++ rest) : Exact codec valid := by
  intro bytes a rest
  constructor
  · exact haccepts bytes a rest
  · rintro ⟨ha, rfl⟩
    exact hreads a ha rest

/-- Exactness depends on which values are valid only. -/
theorem congr (hexact : Exact codec valid) {valid' : α → Prop} (hiff : ∀ a, valid a ↔ valid' a) :
    Exact codec valid' :=
  fun bytes a rest ↦ (hexact bytes a rest).trans (and_congr_left' (hiff a))

/-- Valid values of which the encoding of one continues the encoding of the other are equal. -/
theorem eq_of_isPrefix (hexact : Exact codec valid) {a a' : α} (ha : valid a) (ha' : valid a')
    (hle : codec.encode a <+: codec.encode a') : a = a' :=
  (hexact.reads ha).eq_of_isPrefix (hexact.reads ha') hle

end Exact

/-! ### Records and enumerations -/

/-- The value without bytes. -/
def unitCodec : Codec Unit where
  encode := fun _ ↦ []
  decode := pure ()

/-- Two values one after the other. -/
def prodCodec {α β : Type} (first : Codec α) (second : Codec β) : Codec (α × β) where
  encode := fun value ↦ first.encode value.1 ++ second.encode value.2
  decode := do
    let a ← first.decode
    let b ← second.decode
    return (a, b)

/-- Read a tag and decode what it announces. -/
def decodeTagged {α : Type} (arguments : UInt8 → Decoder α) : Decoder α
  | [] => none
  | tag :: rest => arguments tag rest

/-- The value without bytes is exact. -/
theorem exact_unit : Exact unitCodec (fun _ ↦ True) := by
  intro bytes a rest
  change (pure () : Decoder Unit) bytes = some (a, rest) ↔ _
  rw [pure_eq_some_iff]
  exact and_congr (by simp) Iff.rfl

/-- Two values of exact codecs one after the other are exact. -/
theorem exact_prod {α β : Type} {first : Codec α} {second : Codec β} {valid : α → Prop}
    {valid' : β → Prop} (hfirst : Exact first valid) (hsecond : Exact second valid') :
    Exact (prodCodec first second) (fun value ↦ valid value.1 ∧ valid' value.2) := by
  rintro bytes ⟨a, b⟩ rest
  simp only [prodCodec, bind_eq_some_iff, pure_eq_some_iff, hfirst _ _ _, hsecond _ _ _]
  constructor
  · rintro ⟨a, left, ⟨ha, rfl⟩, b, left', ⟨hb, rfl⟩, hvalue, rfl⟩
    obtain ⟨rfl, rfl⟩ := Prod.mk.inj hvalue
    exact ⟨⟨ha, hb⟩, (List.append_assoc _ _ _).symm⟩
  · rintro ⟨⟨ha, hb⟩, rfl⟩
    exact ⟨a, second.encode b ++ rest, ⟨ha, List.append_assoc _ _ _⟩, b, rest, ⟨hb, rfl⟩, rfl, rfl⟩

/-- A record made from the values of an exact codec, and taken apart into them again, is exact. -/
theorem exact_map {α β : Type} {codec : Codec α} {valid : α → Prop} (hexact : Exact codec valid)
    (make : α → β) (parts : β → α) (hmake : ∀ b, make (parts b) = b)
    (hparts : ∀ a, parts (make a) = a) :
    Exact ⟨fun b ↦ codec.encode (parts b), make <$> codec.decode⟩ (fun b ↦ valid (parts b)) := by
  intro bytes b rest
  simp only [map_eq_some_iff, hexact _ _ _]
  constructor
  · rintro ⟨a, ⟨ha, rfl⟩, rfl⟩
    rw [hparts]
    exact ⟨ha, rfl⟩
  · rintro ⟨hb, rfl⟩
    exact ⟨parts b, ⟨hb, rfl⟩, hmake b⟩

/-- An enumeration behind a tag is exact if each tag announces exactly the values that carry it. -/
theorem exact_tagged {α : Type} {tagOf : α → UInt8} {encode : α → Bytes}
    {arguments : UInt8 → Decoder α} {valid : α → Prop}
    (hreads : ∀ a, valid a → Reads (arguments (tagOf a)) (encode a) a)
    (haccepts : ∀ tag bytes a rest, arguments tag bytes = some (a, rest) →
      valid a ∧ tag = tagOf a ∧ bytes = encode a ++ rest) :
    Exact ⟨fun a ↦ tagOf a :: encode a, decodeTagged arguments⟩ valid := by
  refine Exact.of_reads (fun a ha rest ↦ hreads a ha rest) ?_
  intro bytes a rest hdecode
  cases bytes with
  | nil => exact absurd hdecode (Option.some_ne_none _).symm
  | cons tag tail =>
    obtain ⟨ha, rfl, rfl⟩ := haccepts tag tail a rest hdecode
    exact ⟨ha, rfl⟩

/-- A variant that is made from the value of an exact codec reads it. -/
theorem Exact.reads_map {α β : Type} {codec : Codec α} {valid : α → Prop}
    (hexact : Exact codec valid) (make : α → β) {a : α} (ha : valid a) :
    Reads (make <$> codec.decode) (codec.encode a) (make a) :=
  fun rest ↦ map_eq_some_iff.mpr ⟨a, hexact.reads ha rest, rfl⟩

/-- What a variant that is made from the value of an exact codec accepts. -/
theorem Exact.accepts_map {α β : Type} {codec : Codec α} {valid : α → Prop}
    (hexact : Exact codec valid) {make : α → β} {bytes rest : Bytes} {b : β}
    (hdecode : (make <$> codec.decode) bytes = some (b, rest)) :
    ∃ a, valid a ∧ make a = b ∧ bytes = codec.encode a ++ rest := by
  obtain ⟨a, hvalue, hmake⟩ := map_eq_some_iff.mp hdecode
  obtain ⟨ha, hbytes⟩ := (hexact _ _ _).mp hvalue
  exact ⟨a, ha, hmake, hbytes⟩

/-! ### Several values one after the other -/

section Items

variable {α : Type} {codec : Codec α} {valid : α → Prop}

/-- Decode a given count of values one after the other. -/
def decodeItems (codec : Codec α) : ℕ → Decoder (List α)
  | 0 => pure []
  | count + 1 => do
    let a ← codec.decode
    let items ← decodeItems codec count
    return a :: items

/-- The values of an exact codec one after the other are decoded exactly, by induction on their
count. -/
theorem decodeItems_eq_some_iff (hexact : Exact codec valid) (count : ℕ) (bytes : Bytes)
    (items : List α) (rest : Bytes) :
    decodeItems codec count bytes = some (items, rest) ↔
      items.length = count ∧ (∀ a ∈ items, valid a) ∧
        bytes = items.flatMap codec.encode ++ rest := by
  induction count generalizing bytes items rest with
  | zero =>
    rw [decodeItems, pure_eq_some_iff, List.length_eq_zero_iff]
    constructor
    · rintro ⟨rfl, rfl⟩
      simp
    · rintro ⟨rfl, -, rfl⟩
      simp
  | succ count ih =>
    rw [decodeItems, bind_eq_some_iff]
    simp only [bind_eq_some_iff, pure_eq_some_iff, hexact _ _ _, ih]
    constructor
    · rintro ⟨a, left, ⟨ha, rfl⟩, tail, left', ⟨rfl, htail, rfl⟩, rfl, rfl⟩
      refine ⟨rfl, ?_, ?_⟩
      · simpa [ha] using htail
      · rw [List.flatMap_cons, List.append_assoc]
    · rintro ⟨hlength, hvalid, rfl⟩
      obtain ⟨a, tail, rfl⟩ := List.exists_cons_of_length_eq_add_one hlength
      refine ⟨a, tail.flatMap codec.encode ++ rest, ⟨hvalid a List.mem_cons_self, ?_⟩, tail, rest,
        ⟨Nat.succ_injective hlength, fun b hb ↦ hvalid b (List.mem_cons_of_mem a hb), rfl⟩, rfl,
        rfl⟩
      rw [List.flatMap_cons, List.append_assoc]

end Items

/-! ### Bytes and numbers -/

/-- A number written in bytes is below the power of their count. -/
theorem leValue_lt (bytes : Bytes) : leValue bytes < 256 ^ bytes.length := by
  have hdigits : ∀ digit ∈ bytes.map UInt8.toNat, digit < 256 := by
    intro digit hdigit
    obtain ⟨byte, -, rfl⟩ := List.mem_map.mp hdigit
    exact byte.toNat_lt
  have hlt := Nat.ofDigits_lt_base_pow_length (by omega) hdigits
  rwa [List.length_map] at hlt

/-- Writing the number of some bytes to as many bytes gives them back. -/
theorem leBytes_leValue (bytes : Bytes) : leBytes bytes.length (leValue bytes) = bytes := by
  induction bytes with
  | nil => rfl
  | cons byte bytes ih =>
    have hbyte : byte.toNat < 256 := byte.toNat_lt
    have hhead : UInt8.ofNat (byte.toNat + 256 * leValue bytes) = byte := by
      apply UInt8.toNat_inj.mp
      rw [UInt8.toNat_ofNat']
      omega
    have htail : (byte.toNat + 256 * leValue bytes) / 256 = leValue bytes := by omega
    rw [leValue_cons, List.length_cons, leBytes, hhead, htail, ih]

end SponsoredTx.Foundation.ExactCodec
