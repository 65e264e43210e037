import Mathlib.Data.Nat.Log
import SponsoredTx.Foundation.ByteCodec

/-!
# The parts of the SCALE codec

`Scale` is the interface of an implementation of the SCALE codec whose code is not known: compact
numbers of up to 128 bits, options, byte strings of a fixed length, and the marker type that has no
bytes. `Scale.Documented` states its documented behaviour, encoder and decoder apart. A compact
number has four modes, told apart by the two lowest bits of its first byte: one, two and four bytes
for numbers below `2 ^ 6`, `2 ^ 14` and `2 ^ 30`, and a length byte with up to sixteen bytes for the
others. The decoder rejects a number that a shorter mode could have carried.

That the decoder reads what the encoder writes is not among the laws; it is proved from them, mode
by mode (`Documented.reads_compact`), and for options and byte strings (`Documented.reads_option`,
`Documented.reads_fixedBytes`, `Documented.reads_phantom`). `referenceScale` is an implementation
that satisfies the laws (`referenceScale_documented`).
-/

set_option autoImplicit false
set_option relaxedAutoImplicit false

namespace SponsoredTx.Foundation.ScaleCodec

open ByteCodec

/-! ### The interface and its laws -/

/-- An implementation of the SCALE codec. -/
structure Scale where
  compact : Codec ℕ
  option : {α : Type} → Codec α → Codec (Option α)
  fixedBytes : (count : ℕ) → Codec (FixedBytes count)
  phantom : Codec Unit

/-- The documented behaviour of the codec. In the big-integer mode `count` is the number of bytes
that the value needs. -/
structure Scale.Documented (scale : Scale) : Prop where
  encode_one : ∀ n, n < 2 ^ 6 → scale.compact.encode n = leBytes 1 (4 * n)
  encode_two : ∀ n, 2 ^ 6 ≤ n → n < 2 ^ 14 → scale.compact.encode n = leBytes 2 (4 * n + 1)
  encode_four : ∀ n, 2 ^ 14 ≤ n → n < 2 ^ 30 → scale.compact.encode n = leBytes 4 (4 * n + 2)
  encode_big : ∀ n count, 2 ^ 30 ≤ n → 256 ^ (count - 1) ≤ n → n < 256 ^ count → count ≤ 16 →
    scale.compact.encode n = UInt8.ofNat (4 * (count - 4) + 3) :: leBytes count n
  decode_one : ∀ tag rest, tag.toNat % 4 = 0 →
    scale.compact.decode (tag :: rest) = some (tag.toNat / 4, rest)
  decode_two : ∀ tag body rest, tag.toNat % 4 = 1 → body.length = 1 →
    scale.compact.decode (tag :: body ++ rest) =
      if 2 ^ 6 ≤ leValue (tag :: body) / 4 then some (leValue (tag :: body) / 4, rest) else none
  decode_four : ∀ tag body rest, tag.toNat % 4 = 2 → body.length = 3 →
    scale.compact.decode (tag :: body ++ rest) =
      if 2 ^ 14 ≤ leValue (tag :: body) / 4 then some (leValue (tag :: body) / 4, rest) else none
  decode_big : ∀ tag body rest, tag.toNat % 4 = 3 → body.length = tag.toNat / 4 + 4 →
    body.length ≤ 16 →
    scale.compact.decode (tag :: body ++ rest) =
      if 2 ^ 30 ≤ leValue body ∧ 256 ^ (body.length - 1) ≤ leValue body then
        some (leValue body, rest)
      else none
  decode_oversized : ∀ tag rest, tag.toNat % 4 = 3 → 16 < tag.toNat / 4 + 4 →
    scale.compact.decode (tag :: rest) = none
  option_encode_none : ∀ {α : Type} (codec : Codec α), (scale.option codec).encode none = [0]
  option_encode_some : ∀ {α : Type} (codec : Codec α) a,
    (scale.option codec).encode (some a) = 1 :: codec.encode a
  option_decode_none : ∀ {α : Type} (codec : Codec α) rest,
    (scale.option codec).decode (0 :: rest) = some (none, rest)
  option_decode_some : ∀ {α : Type} (codec : Codec α) rest,
    (scale.option codec).decode (1 :: rest) =
      (codec.decode rest).map fun found ↦ (some found.1, found.2)
  fixedBytes_encode : ∀ count (a : FixedBytes count), (scale.fixedBytes count).encode a = a.bytes
  fixedBytes_decode : ∀ count (a : FixedBytes count) rest,
    (scale.fixedBytes count).decode (a.bytes ++ rest) = some (a, rest)
  phantom_encode : scale.phantom.encode () = []
  phantom_decode : ∀ rest, scale.phantom.decode rest = some ((), rest)

namespace Scale.Documented

variable {scale : Scale}

/-! ### The decoder reads what the encoder writes -/

/-- The first byte of a number carries its two lowest bits. -/
theorem toNat_ofNat_mod_four (n : ℕ) : (UInt8.ofNat n).toNat % 4 = n % 4 := by
  have hbyte : (UInt8.ofNat n).toNat = n % 256 := UInt8.toNat_ofNat'
  omega

/-- The mode of one byte. -/
theorem reads_one (hscale : scale.Documented) {n : ℕ} (hn : n < 2 ^ 6) :
    Reads scale.compact.decode (scale.compact.encode n) n := by
  intro rest
  have htag : (UInt8.ofNat (4 * n)).toNat = 4 * n :=
    UInt8.toNat_ofNat_of_lt' (show _ < 256 by omega)
  rw [hscale.encode_one n hn]
  change scale.compact.decode (UInt8.ofNat (4 * n) :: rest) = some (n, rest)
  rw [hscale.decode_one _ _ (by omega), htag, Nat.mul_div_cancel_left n (by omega)]

/-- A mode that carries its number in the tag and a body of a given length. -/
theorem reads_mode {mode count least n : ℕ} (hmode : mode < 4)
    (hdecode : ∀ tag body rest, tag.toNat % 4 = mode → body.length = count →
      scale.compact.decode (tag :: body ++ rest) = if least ≤ leValue (tag :: body) / 4 then
        some (leValue (tag :: body) / 4, rest) else none)
    (hencode : scale.compact.encode n = leBytes (count + 1) (4 * n + mode)) (hleast : least ≤ n)
    (hfits : 4 * n + mode < 256 ^ (count + 1)) :
    Reads scale.compact.decode (scale.compact.encode n) n := by
  intro rest
  have htag : (UInt8.ofNat (4 * n + mode)).toNat % 4 = mode := by
    rw [toNat_ofNat_mod_four]
    omega
  have hvalue : leValue (leBytes (count + 1) (4 * n + mode)) / 4 = n := by
    rw [leValue_leBytes hfits]
    omega
  rw [leBytes] at hvalue
  rw [hencode, leBytes, hdecode _ _ _ htag (length_leBytes _ _), hvalue, if_pos hleast]

/-- The big-integer mode with a given number of bytes. -/
theorem reads_big (hscale : scale.Documented) {n count : ℕ} (hlow : 2 ^ 30 ≤ n)
    (hneeds : 256 ^ (count - 1) ≤ n) (hfits : n < 256 ^ count) (hfour : 4 ≤ count)
    (hsixteen : count ≤ 16) : Reads scale.compact.decode (scale.compact.encode n) n := by
  intro rest
  have htag : (UInt8.ofNat (4 * (count - 4) + 3)).toNat = 4 * (count - 4) + 3 :=
    UInt8.toNat_ofNat_of_lt' (show _ < 256 by omega)
  have hlength : (leBytes count n).length =
      (UInt8.ofNat (4 * (count - 4) + 3)).toNat / 4 + 4 := by
    rw [length_leBytes, htag]
    omega
  rw [hscale.encode_big n count hlow hneeds hfits hsixteen,
    hscale.decode_big _ _ _ (by omega) hlength (by rwa [length_leBytes]), leValue_leBytes hfits,
    length_leBytes, if_pos ⟨hlow, hneeds⟩]

/-- A compact number below `2 ^ 128` is read back in whichever mode it was written. -/
theorem reads_compact (hscale : scale.Documented) {n : ℕ} (hn : n < 2 ^ 128) :
    Reads scale.compact.decode (scale.compact.encode n) n := by
  rcases lt_or_ge n (2 ^ 6) with hone | hone
  · exact hscale.reads_one hone
  rcases lt_or_ge n (2 ^ 14) with htwo | htwo
  · exact reads_mode (by omega) hscale.decode_two (hscale.encode_two n hone htwo) hone (by omega)
  rcases lt_or_ge n (2 ^ 30) with hfour | hfour
  · exact reads_mode (by omega) hscale.decode_four (hscale.encode_four n htwo hfour) htwo (by omega)
  have hmin : 3 ≤ Nat.log 256 n := Nat.le_log_of_pow_le (by omega) (by omega)
  have hmax : Nat.log 256 n < 16 := Nat.log_lt_of_lt_pow (by omega) (by omega)
  exact hscale.reads_big hfour (Nat.pow_log_le_self 256 (by omega))
    (Nat.lt_pow_succ_log_self (by omega) n) (by omega) (by omega)

/-- An option is read back if its value is. -/
theorem reads_option (hscale : scale.Documented) {α : Type} {codec : Codec α} {entry : Option α}
    (hvalue : ∀ a, entry = some a → Reads codec.decode (codec.encode a) a) :
    Reads (scale.option codec).decode ((scale.option codec).encode entry) entry := by
  intro rest
  cases entry with
  | none =>
    rw [hscale.option_encode_none]
    exact hscale.option_decode_none codec rest
  | some a =>
    rw [hscale.option_encode_some, List.cons_append, hscale.option_decode_some, hvalue a rfl rest]
    rfl

/-- A byte string of a fixed length is read back. -/
theorem reads_fixedBytes (hscale : scale.Documented) {count : ℕ} (a : FixedBytes count) :
    Reads (scale.fixedBytes count).decode ((scale.fixedBytes count).encode a) a := by
  intro rest
  rw [hscale.fixedBytes_encode]
  exact hscale.fixedBytes_decode count a rest

/-- The marker is read back from nothing. -/
theorem reads_phantom (hscale : scale.Documented) :
    Reads scale.phantom.decode (scale.phantom.encode ()) () := by
  intro rest
  rw [hscale.phantom_encode]
  exact hscale.phantom_decode rest

end Scale.Documented

/-! ### An implementation that satisfies the laws -/

/-- The number of bytes that a number needs. -/
def byteCount (n : ℕ) : ℕ :=
  Nat.log 256 n + 1

/-- The compact encoding of a number. -/
def compactEncode (n : ℕ) : Bytes :=
  if n < 2 ^ 6 then leBytes 1 (4 * n)
  else if n < 2 ^ 14 then leBytes 2 (4 * n + 1)
  else if n < 2 ^ 30 then leBytes 4 (4 * n + 2)
  else UInt8.ofNat (4 * (byteCount n - 4) + 3) :: leBytes (byteCount n) n

/-- Take a body of the given length and accept the number in it if it is large enough. -/
def readBody (count least : ℕ) (value : Bytes → ℕ) (bytes : Bytes) : Option (ℕ × Bytes) :=
  if count ≤ bytes.length ∧ least ≤ value (bytes.take count) then
    some (value (bytes.take count), bytes.drop count)
  else none

/-- The compact decoding of a number. -/
def compactDecode : Decoder ℕ
  | [] => none
  | tag :: rest =>
    match tag.toNat % 4 with
    | 0 => some (tag.toNat / 4, rest)
    | 1 => readBody 1 (2 ^ 6) (fun body ↦ leValue (tag :: body) / 4) rest
    | 2 => readBody 3 (2 ^ 14) (fun body ↦ leValue (tag :: body) / 4) rest
    | _ =>
      let count := tag.toNat / 4 + 4
      if 16 < count then none else readBody count (max (2 ^ 30) (256 ^ (count - 1))) leValue rest

/-- The decoding of an option. -/
def optionDecode {α : Type} (codec : Codec α) : Decoder (Option α)
  | [] => none
  | tag :: rest =>
    if tag = 0 then some (none, rest)
    else if tag = 1 then (codec.decode rest).map fun found ↦ (some found.1, found.2)
    else none

/-- The decoding of a byte string of a fixed length. -/
def fixedBytesDecode (count : ℕ) : Decoder (FixedBytes count) := fun bytes ↦
  if hcount : count ≤ bytes.length then
    some (⟨bytes.take count, List.length_take_of_le hcount⟩, bytes.drop count)
  else none

/-- The implementation that does what is documented. -/
def referenceScale : Scale where
  compact := ⟨compactEncode, compactDecode⟩
  option := fun codec ↦
    { encode := fun entry ↦ match entry with
        | none => [0]
        | some a => 1 :: codec.encode a
      decode := optionDecode codec }
  fixedBytes := fun count ↦ ⟨FixedBytes.bytes, fixedBytesDecode count⟩
  phantom := ⟨fun _ ↦ [], fun bytes ↦ some ((), bytes)⟩

/-- A body of the right length is taken off the front. -/
theorem readBody_append {count : ℕ} {body : Bytes} (hlength : body.length = count) (least : ℕ)
    (value : Bytes → ℕ) (rest : Bytes) :
    readBody count least value (body ++ rest) =
      if least ≤ value body then some (value body, rest) else none := by
  subst hlength
  simp [readBody]

/-- The number of bytes is the one between whose powers the number lies. -/
theorem byteCount_eq {n count : ℕ} (hneeds : 256 ^ (count - 1) ≤ n) (hfits : n < 256 ^ count) :
    byteCount n = count := by
  have hpos : count ≠ 0 := by
    rintro rfl
    omega
  have hlog : Nat.log 256 n = count - 1 := by
    refine Nat.log_eq_of_pow_le_of_lt_pow hneeds ?_
    rwa [Nat.sub_add_cancel (Nat.one_le_iff_ne_zero.mpr hpos)]
  rw [byteCount, hlog]
  omega

theorem referenceScale_documented : referenceScale.Documented where
  encode_one := fun n hn ↦ if_pos hn
  encode_two := by
    intro n hlow hhigh
    change compactEncode n = _
    rw [compactEncode, if_neg (not_lt.mpr hlow), if_pos hhigh]
  encode_four := by
    intro n hlow hhigh
    change compactEncode n = _
    rw [compactEncode, if_neg (by omega), if_neg (not_lt.mpr hlow), if_pos hhigh]
  encode_big := by
    intro n count hlow hneeds hfits _
    change compactEncode n = _
    rw [compactEncode, if_neg (by omega), if_neg (by omega), if_neg (not_lt.mpr hlow),
      byteCount_eq hneeds hfits]
  decode_one := by
    intro tag rest htag
    change compactDecode (tag :: rest) = _
    simp only [compactDecode, htag]
  decode_two := by
    intro tag body rest htag hlength
    change compactDecode (tag :: (body ++ rest)) = _
    simp only [compactDecode, htag]
    exact readBody_append hlength _ _ rest
  decode_four := by
    intro tag body rest htag hlength
    change compactDecode (tag :: (body ++ rest)) = _
    simp only [compactDecode, htag]
    exact readBody_append hlength _ _ rest
  decode_big := by
    intro tag body rest htag hlength hsixteen
    change compactDecode (tag :: (body ++ rest)) = _
    simp only [compactDecode, htag]
    rw [if_neg (by omega), readBody_append hlength, ← hlength]
    simp only [max_le_iff]
  decode_oversized := by
    intro tag rest htag hsixteen
    change compactDecode (tag :: rest) = none
    simp only [compactDecode, htag]
    rw [if_pos hsixteen]
  option_encode_none := fun _ ↦ rfl
  option_encode_some := fun _ _ ↦ rfl
  option_decode_none := fun _ _ ↦ rfl
  option_decode_some := fun _ _ ↦ rfl
  fixedBytes_encode := fun _ _ ↦ rfl
  fixedBytes_decode := by
    intro count a rest
    obtain ⟨bytes, rfl⟩ := a
    change fixedBytesDecode bytes.length (bytes ++ rest) = _
    simp [fixedBytesDecode]
  phantom_encode := rfl
  phantom_decode := fun _ ↦ rfl

end SponsoredTx.Foundation.ScaleCodec
