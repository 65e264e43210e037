import Mathlib.Algebra.Order.BigOperators.Group.List
import SponsoredTx.Foundation.ExactCodec
import SponsoredTx.Foundation.ScaleCodec

/-!
# What a SCALE decoder rejects

`Scale.Strict` adds to the documented behaviour of a SCALE codec what its decoder rejects: an input
that ends too early and an unknown tag. The compact numbers, the options and the byte strings of
such a codec are exact (`Strict.exact_compact`, `Strict.exact_option`, `Strict.exact_fixedBytes`),
and `length_compact` is the length of a compact number.

`WideScale` is the interface with booleans, numbers of 128 bits and vectors, which start with their
length as a compact number and may have a bound, and with the longest encodings of these.
`referenceWideScale` implements it (`referenceWideScale_strict`).
-/

set_option autoImplicit false
set_option relaxedAutoImplicit false

namespace SponsoredTx.Foundation.StrictScale

open ByteCodec ScaleCodec ExactCodec

/-! ### Rejected inputs -/

/-- The documented behaviour of a SCALE codec with what its decoder rejects. -/
structure Scale.Strict (scale : Scale) : Prop extends scale.Documented where
  decode_nil : scale.compact.decode [] = none
  decode_two_short : ∀ tag rest, tag.toNat % 4 = 1 → rest.length < 1 →
    scale.compact.decode (tag :: rest) = none
  decode_four_short : ∀ tag rest, tag.toNat % 4 = 2 → rest.length < 3 →
    scale.compact.decode (tag :: rest) = none
  decode_big_short : ∀ tag rest, tag.toNat % 4 = 3 → rest.length < tag.toNat / 4 + 4 →
    scale.compact.decode (tag :: rest) = none
  option_decode_nil : ∀ {α : Type} (codec : Codec α), (scale.option codec).decode [] = none
  option_decode_other : ∀ {α : Type} (codec : Codec α) tag rest, tag ≠ 0 → tag ≠ 1 →
    (scale.option codec).decode (tag :: rest) = none
  fixedBytes_decode_short : ∀ count bytes, bytes.length < count →
    (scale.fixedBytes count).decode bytes = none

namespace Scale.Strict

variable {scale : Scale}

/-- What the mode of one byte accepts. -/
theorem accepts_one (hscale : Scale.Strict scale) {tag : UInt8} {tail rest : Bytes} {n : ℕ}
    (htag : tag.toNat % 4 = 0) (hdecode : scale.compact.decode (tag :: tail) = some (n, rest)) :
    n < 2 ^ 128 ∧ tag :: tail = scale.compact.encode n ++ rest := by
  have hbyte : tag.toNat < 256 := tag.toNat_lt
  rw [hscale.decode_one tag tail htag, Option.some.injEq, Prod.mk.injEq] at hdecode
  obtain ⟨rfl, rfl⟩ := hdecode
  have hvalue : 4 * (tag.toNat / 4) = tag.toNat := by omega
  refine ⟨by omega, ?_⟩
  rw [hscale.encode_one _ (by omega), hvalue, leBytes, leBytes, UInt8.ofNat_toNat]
  rfl

/-- The modes of two and four bytes carry the mode in the two lowest bits of the number. -/
theorem leValue_mode (tag : UInt8) (body : Bytes) :
    4 * (leValue (tag :: body) / 4) + tag.toNat % 4 = leValue (tag :: body) := by
  rw [leValue_cons]
  omega

/-- A mode with a body takes the body off the input and accepts it by a condition of its own. -/
theorem accepts_body {decode : Decoder ℕ} {tag : UInt8} {tail rest : Bytes} {n count : ℕ}
    {accept : Bytes → Prop} [DecidablePred accept] {value : Bytes → ℕ}
    (hshort : tail.length < count → decode (tag :: tail) = none)
    (hlong : ∀ body left, body.length = count →
      decode (tag :: body ++ left) = if accept body then some (value body, left) else none)
    (hdecode : decode (tag :: tail) = some (n, rest)) :
    ∃ body, body.length = count ∧ accept body ∧ value body = n ∧ tail = body ++ rest := by
  rcases lt_or_ge tail.length count with hlt | hge
  · rw [hshort hlt] at hdecode
    contradiction
  have hbody : (tail.take count).length = count := List.length_take_of_le hge
  have hread := hlong _ (tail.drop count) hbody
  rw [List.cons_append, List.take_append_drop, hdecode] at hread
  split_ifs at hread with haccept
  rw [Option.some.injEq, Prod.mk.injEq] at hread
  refine ⟨tail.take count, hbody, haccept, hread.1.symm, ?_⟩
  rw [hread.2, List.take_append_drop]

/-- What a mode accepts that carries its number in the tag and a body of a given length. -/
theorem accepts_mode {tag : UInt8} {tail rest : Bytes} {n count least : ℕ}
    (hshort : tail.length < count → scale.compact.decode (tag :: tail) = none)
    (hlong : ∀ body left, body.length = count →
      scale.compact.decode (tag :: body ++ left) = if least ≤ leValue (tag :: body) / 4 then
        some (leValue (tag :: body) / 4, left) else none)
    (hencode : ∀ n, least ≤ n → 4 * n + tag.toNat % 4 < 256 ^ (count + 1) →
      scale.compact.encode n = leBytes (count + 1) (4 * n + tag.toNat % 4))
    (hcount : 256 ^ (count + 1) ≤ 2 ^ 128)
    (hdecode : scale.compact.decode (tag :: tail) = some (n, rest)) :
    n < 2 ^ 128 ∧ tag :: tail = scale.compact.encode n ++ rest := by
  obtain ⟨body, hbody, hleast, rfl, rfl⟩ := accepts_body hshort hlong hdecode
  have hlt := leValue_lt (tag :: body)
  have hmode := leValue_mode tag body
  have hback := leBytes_leValue (tag :: body)
  rw [List.length_cons, hbody] at hlt hback
  refine ⟨by omega, ?_⟩
  rw [hencode _ hleast (by omega), hmode, hback, List.cons_append]

/-- What the big-integer mode accepts. -/
theorem accepts_big (hscale : Scale.Strict scale) {tag : UInt8} {tail rest : Bytes} {n : ℕ}
    (htag : tag.toNat % 4 = 3) (hdecode : scale.compact.decode (tag :: tail) = some (n, rest)) :
    n < 2 ^ 128 ∧ tag :: tail = scale.compact.encode n ++ rest := by
  rcases lt_or_ge 16 (tag.toNat / 4 + 4) with hover | hsixteen
  · rw [hscale.decode_oversized tag tail htag hover] at hdecode
    contradiction
  obtain ⟨body, hbody, hleast, rfl, rfl⟩ := accepts_body (hscale.decode_big_short tag tail htag)
    (fun body left hbody ↦ hscale.decode_big tag body left htag hbody (by omega)) hdecode
  have hlt : leValue body < 256 ^ body.length := leValue_lt body
  have hfits : leValue body < 2 ^ 128 := by
    calc leValue body < 256 ^ body.length := hlt
      _ ≤ 256 ^ 16 := Nat.pow_le_pow_right (by omega) (by omega)
      _ = 2 ^ 128 := by norm_num
  have hcode : 4 * (body.length - 4) + 3 = tag.toNat := by omega
  refine ⟨hfits, ?_⟩
  rw [hscale.encode_big _ body.length hleast.1 hleast.2 hlt (by omega), hcode, UInt8.ofNat_toNat,
    leBytes_leValue, List.cons_append]

/-- Compact numbers are exact: the decoder accepts the encodings of the numbers below `2 ^ 128` and
nothing else. -/
theorem exact_compact (hscale : Scale.Strict scale) : Exact scale.compact (· < 2 ^ 128) := by
  refine Exact.of_reads (fun n hn ↦ hscale.reads_compact hn) ?_
  intro bytes n rest hdecode
  cases bytes with
  | nil =>
    rw [hscale.decode_nil] at hdecode
    contradiction
  | cons tag tail =>
    have hmode : tag.toNat % 4 = 0 ∨ tag.toNat % 4 = 1 ∨ tag.toNat % 4 = 2 ∨ tag.toNat % 4 = 3 := by
      omega
    rcases hmode with hone | htwo | hfour | hbig
    · exact hscale.accepts_one hone hdecode
    · refine accepts_mode (hscale.decode_two_short tag tail htwo)
        (fun body left ↦ hscale.decode_two tag body left htwo) ?_ (by norm_num) hdecode
      intro n hleast hfits
      rw [htwo] at hfits ⊢
      exact hscale.encode_two n hleast (by omega)
    · refine accepts_mode (hscale.decode_four_short tag tail hfour)
        (fun body left ↦ hscale.decode_four tag body left hfour) ?_ (by norm_num) hdecode
      intro n hleast hfits
      rw [hfour] at hfits ⊢
      exact hscale.encode_four n hleast (by omega)
    · exact hscale.accepts_big hbig hdecode

/-- An option over an exact codec is exact. -/
theorem exact_option (hscale : Scale.Strict scale) {α : Type} {codec : Codec α} {valid : α → Prop}
    (hexact : Exact codec valid) :
    Exact (scale.option codec) (fun entry ↦ ∀ a, entry = some a → valid a) := by
  refine Exact.of_reads (fun entry hentry ↦ hscale.reads_option fun a ha ↦
    hexact.reads (hentry a ha)) ?_
  intro bytes entry rest hdecode
  cases bytes with
  | nil =>
    rw [hscale.option_decode_nil] at hdecode
    contradiction
  | cons tag tail =>
    by_cases hnone : tag = 0
    · subst hnone
      rw [hscale.option_decode_none, Option.some.injEq, Prod.mk.injEq] at hdecode
      obtain ⟨rfl, rfl⟩ := hdecode
      rw [hscale.option_encode_none]
      exact ⟨by simp, rfl⟩
    by_cases hsome : tag = 1
    · subst hsome
      rw [hscale.option_decode_some, Option.map_eq_some_iff] at hdecode
      obtain ⟨⟨a, left⟩, hvalue, heq⟩ := hdecode
      obtain ⟨rfl, rfl⟩ := Prod.mk.inj heq
      obtain ⟨ha, rfl⟩ := (hexact _ _ _).mp hvalue
      rw [hscale.option_encode_some]
      exact ⟨by simpa using ha, rfl⟩
    · rw [hscale.option_decode_other codec tag tail hnone hsome] at hdecode
      contradiction

/-- Byte strings of a fixed length are exact. -/
theorem exact_fixedBytes (hscale : Scale.Strict scale) (count : ℕ) :
    Exact (scale.fixedBytes count) (fun _ ↦ True) := by
  refine Exact.of_reads (fun a _ ↦ hscale.reads_fixedBytes a) ?_
  intro bytes a rest hdecode
  rcases lt_or_ge bytes.length count with hshort | hlong
  · rw [hscale.fixedBytes_decode_short count bytes hshort] at hdecode
    contradiction
  have hread := hscale.fixedBytes_decode count ⟨bytes.take count, List.length_take_of_le hlong⟩
    (bytes.drop count)
  change (scale.fixedBytes count).decode (bytes.take count ++ bytes.drop count) = _ at hread
  rw [List.take_append_drop, hdecode, Option.some.injEq, Prod.mk.injEq] at hread
  obtain ⟨rfl, rfl⟩ := hread
  rw [hscale.fixedBytes_encode]
  exact ⟨trivial, (List.take_append_drop count bytes).symm⟩

end Scale.Strict

/-! ### The length of a compact number -/

/-- The number of bytes of a compact number. -/
def compactLength (n : ℕ) : ℕ :=
  if n < 2 ^ 6 then 1
  else if n < 2 ^ 14 then 2
  else if n < 2 ^ 30 then 4
  else Nat.log 256 n + 2

/-- The documented encoder writes that many bytes. -/
theorem length_compact {scale : Scale} (hscale : scale.Documented) {n : ℕ} (hn : n < 2 ^ 128) :
    (scale.compact.encode n).length = compactLength n := by
  unfold compactLength
  split_ifs with hone htwo hfour
  · rw [hscale.encode_one n hone, length_leBytes]
  · rw [hscale.encode_two n (not_lt.mp hone) htwo, length_leBytes]
  · rw [hscale.encode_four n (not_lt.mp htwo) hfour, length_leBytes]
  · have hlog : Nat.log 256 n < 16 := Nat.log_lt_of_lt_pow (by omega) (by omega)
    rw [hscale.encode_big n (Nat.log 256 n + 1) (not_lt.mp hfour)
      (Nat.pow_log_le_self 256 (by omega)) (Nat.lt_pow_succ_log_self (by omega) n) hlog,
      List.length_cons, length_leBytes]

/-- A larger number takes at least as many bytes. -/
theorem compactLength_mono : Monotone compactLength := by
  intro m n hle
  have hlog : Nat.log 256 m ≤ Nat.log 256 n := Nat.log_mono_right hle
  have hmin : 2 ^ 30 ≤ n → 3 ≤ Nat.log 256 n := fun hn ↦ Nat.le_log_of_pow_le (by omega) (by omega)
  unfold compactLength
  split_ifs <;> omega

/-! ### Booleans, numbers and vectors -/

/-- An implementation of the SCALE codec with booleans, numbers of 128 bits, vectors and vectors
with a bound, and with the longest encodings of these: of a bounded vector by the longest encoding
of its values and its bound. -/
structure WideScale extends Scale where
  bool : Codec Bool
  u128 : Codec ℕ
  vec : {α : Type} → Codec α → Codec (List α)
  boundedVec : {α : Type} → Codec α → (bound : ℕ) →
    Codec { items : List α // items.length ≤ bound }
  boolMaxEncodedLen : ℕ
  u128MaxEncodedLen : ℕ
  boundedVecMaxEncodedLen : ℕ → ℕ → ℕ

/-- The documented behaviour of the codec with what its decoder rejects. The length of a vector is a
compact number of 32 bits. A bounded vector is encoded like the vector, and rejected above its
bound. -/
structure WideScale.Strict (scale : WideScale) : Prop extends Scale.Strict scale.toScale where
  bool_encode : ∀ b, scale.bool.encode b = [if b then 1 else 0]
  bool_decode_nil : scale.bool.decode [] = none
  bool_decode_false : ∀ rest, scale.bool.decode (0 :: rest) = some (false, rest)
  bool_decode_true : ∀ rest, scale.bool.decode (1 :: rest) = some (true, rest)
  bool_decode_other : ∀ tag rest, tag ≠ 0 → tag ≠ 1 → scale.bool.decode (tag :: rest) = none
  u128_encode : ∀ n, n < 2 ^ 128 → scale.u128.encode n = leBytes 16 n
  u128_decode : ∀ body rest, body.length = 16 →
    scale.u128.decode (body ++ rest) = some (leValue body, rest)
  u128_decode_short : ∀ bytes, bytes.length < 16 → scale.u128.decode bytes = none
  vec_encode : ∀ {α : Type} (codec : Codec α) items, items.length < 2 ^ 32 →
    (scale.vec codec).encode items =
      scale.compact.encode items.length ++ items.flatMap codec.encode
  vec_decode : ∀ {α : Type} (codec : Codec α) bytes count left,
    scale.compact.decode bytes = some (count, left) →
    (scale.vec codec).decode bytes = if count < 2 ^ 32 then decodeItems codec count left else none
  vec_decode_none : ∀ {α : Type} (codec : Codec α) bytes, scale.compact.decode bytes = none →
    (scale.vec codec).decode bytes = none
  boundedVec_encode : ∀ {α : Type} (codec : Codec α) bound items,
    (scale.boundedVec codec bound).encode items = (scale.vec codec).encode items.1
  boundedVec_decode : ∀ {α : Type} (codec : Codec α) bound bytes items rest
    (hle : items.length ≤ bound), (scale.vec codec).decode bytes = some (items, rest) →
    (scale.boundedVec codec bound).decode bytes = some (⟨items, hle⟩, rest)
  boundedVec_decode_long : ∀ {α : Type} (codec : Codec α) bound bytes items rest,
    bound < items.length → (scale.vec codec).decode bytes = some (items, rest) →
    (scale.boundedVec codec bound).decode bytes = none
  boundedVec_decode_none : ∀ {α : Type} (codec : Codec α) bound bytes,
    (scale.vec codec).decode bytes = none → (scale.boundedVec codec bound).decode bytes = none
  bool_maxEncodedLen : scale.boolMaxEncodedLen = 1
  u128_maxEncodedLen : scale.u128MaxEncodedLen = 16
  boundedVec_maxEncodedLen : ∀ itemLen bound, scale.boundedVecMaxEncodedLen itemLen bound =
    (scale.compact.encode bound).length + bound * itemLen

namespace WideScale.Strict

variable {scale : WideScale}

/-- Booleans are exact. -/
theorem exact_bool (hscale : WideScale.Strict scale) : Exact scale.bool (fun _ ↦ True) := by
  refine Exact.of_reads ?_ ?_
  · intro b _ rest
    rw [hscale.bool_encode]
    cases b with
    | false => exact hscale.bool_decode_false rest
    | true => exact hscale.bool_decode_true rest
  · intro bytes b rest hdecode
    cases bytes with
    | nil =>
      rw [hscale.bool_decode_nil] at hdecode
      contradiction
    | cons tag tail =>
      by_cases hfalse : tag = 0
      · subst hfalse
        rw [hscale.bool_decode_false, Option.some.injEq, Prod.mk.injEq] at hdecode
        obtain ⟨rfl, rfl⟩ := hdecode
        rw [hscale.bool_encode]
        exact ⟨trivial, rfl⟩
      by_cases htrue : tag = 1
      · subst htrue
        rw [hscale.bool_decode_true, Option.some.injEq, Prod.mk.injEq] at hdecode
        obtain ⟨rfl, rfl⟩ := hdecode
        rw [hscale.bool_encode]
        exact ⟨trivial, rfl⟩
      · rw [hscale.bool_decode_other tag tail hfalse htrue] at hdecode
        contradiction

/-- Numbers of 128 bits are exact. -/
theorem exact_u128 (hscale : WideScale.Strict scale) : Exact scale.u128 (· < 2 ^ 128) := by
  refine Exact.of_reads ?_ ?_
  · intro n hn rest
    rw [hscale.u128_encode n hn, hscale.u128_decode _ _ (length_leBytes 16 n),
      leValue_leBytes (by omega)]
  · intro bytes n rest hdecode
    rcases lt_or_ge bytes.length 16 with hshort | hlong
    · rw [hscale.u128_decode_short bytes hshort] at hdecode
      contradiction
    have hbody : (bytes.take 16).length = 16 := List.length_take_of_le hlong
    have hread := hscale.u128_decode (bytes.take 16) (bytes.drop 16) hbody
    have hlt := leValue_lt (bytes.take 16)
    have hback := leBytes_leValue (bytes.take 16)
    rw [List.take_append_drop, hdecode, Option.some.injEq, Prod.mk.injEq] at hread
    obtain ⟨rfl, rfl⟩ := hread
    rw [hbody] at hlt hback
    have hfits : leValue (bytes.take 16) < 2 ^ 128 := by omega
    refine ⟨hfits, ?_⟩
    rw [hscale.u128_encode _ hfits, hback, List.take_append_drop]

/-- A vector over an exact codec is exact, up to lengths of 32 bits. -/
theorem exact_vec (hscale : WideScale.Strict scale) {α : Type} {codec : Codec α} {valid : α → Prop}
    (hexact : Exact codec valid) :
    Exact (scale.vec codec) (fun items ↦ items.length < 2 ^ 32 ∧ ∀ a ∈ items, valid a) := by
  refine Exact.of_reads ?_ ?_
  · rintro items ⟨hlength, hvalid⟩ rest
    have hcount := hscale.reads_compact (n := items.length) (by omega)
      (items.flatMap codec.encode ++ rest)
    rw [hscale.vec_encode codec items hlength, List.append_assoc,
      hscale.vec_decode codec _ _ _ hcount, if_pos hlength]
    exact (decodeItems_eq_some_iff hexact _ _ _ _).mpr ⟨rfl, hvalid, rfl⟩
  · intro bytes items rest hdecode
    cases hcount : scale.compact.decode bytes with
    | none =>
      rw [hscale.vec_decode_none codec bytes hcount] at hdecode
      contradiction
    | some found =>
      obtain ⟨count, left⟩ := found
      rw [hscale.vec_decode codec bytes count left hcount] at hdecode
      split_ifs at hdecode with hlength
      obtain ⟨rfl, hvalid, rfl⟩ := (decodeItems_eq_some_iff hexact _ _ _ _).mp hdecode
      obtain ⟨-, rfl⟩ := (hscale.exact_compact _ _ _).mp hcount
      refine ⟨⟨hlength, hvalid⟩, ?_⟩
      rw [hscale.vec_encode codec items hlength, List.append_assoc]

/-- A bounded vector over an exact codec is exact, up to bounds of 32 bits. -/
theorem exact_boundedVec (hscale : WideScale.Strict scale) {α : Type} {codec : Codec α}
    {valid : α → Prop} (hexact : Exact codec valid) {bound : ℕ} (hbound : bound < 2 ^ 32) :
    Exact (scale.boundedVec codec bound) (fun items ↦ ∀ a ∈ items.1, valid a) := by
  have hvec := hscale.exact_vec hexact
  refine Exact.of_reads ?_ ?_
  · rintro ⟨items, hle⟩ hvalid rest
    rw [hscale.boundedVec_encode]
    exact hscale.boundedVec_decode codec bound _ items rest hle
      (hvec.reads ⟨hle.trans_lt hbound, hvalid⟩ rest)
  · rintro bytes items rest hdecode
    cases hitems : (scale.vec codec).decode bytes with
    | none =>
      rw [hscale.boundedVec_decode_none codec bound bytes hitems] at hdecode
      contradiction
    | some found =>
      obtain ⟨read, left⟩ := found
      rcases le_or_gt read.length bound with hle | hlong
      · rw [hscale.boundedVec_decode codec bound bytes read left hle hitems, Option.some.injEq,
          Prod.mk.injEq] at hdecode
        obtain ⟨rfl, rfl⟩ := hdecode
        obtain ⟨⟨-, hvalid⟩, hbytes⟩ := (hvec _ _ _).mp hitems
        rw [hscale.boundedVec_encode]
        exact ⟨hvalid, hbytes⟩
      · rw [hscale.boundedVec_decode_long codec bound bytes read left hlong hitems] at hdecode
        contradiction

/-- An encoded bounded vector is at most as long as announced, up to bounds of 32 bits. -/
theorem length_boundedVec_le (hscale : WideScale.Strict scale) {α : Type} {codec : Codec α}
    {itemLen : ℕ} (hitem : ∀ a, (codec.encode a).length ≤ itemLen) {bound : ℕ}
    (hbound : bound < 2 ^ 32) (items : { items : List α // items.length ≤ bound }) :
    ((scale.boundedVec codec bound).encode items).length ≤
      scale.boundedVecMaxEncodedLen itemLen bound := by
  obtain ⟨items, hle⟩ := items
  have hcount : (scale.compact.encode items.length).length ≤
      (scale.compact.encode bound).length := by
    have hdocumented := hscale.toDocumented
    rw [length_compact hdocumented (by omega), length_compact hdocumented (by omega)]
    exact compactLength_mono hle
  have hitems : (items.flatMap codec.encode).length ≤ bound * itemLen := by
    rw [List.length_flatMap]
    calc (items.map fun a ↦ (codec.encode a).length).sum
        ≤ (items.map fun a ↦ (codec.encode a).length).length • itemLen :=
          List.sum_le_card_nsmul _ _ (by simpa using fun a _ ↦ hitem a)
      _ = items.length * itemLen := by
        rw [List.length_map]
        rfl
      _ ≤ bound * itemLen := Nat.mul_le_mul_right itemLen hle
  rw [hscale.boundedVec_encode, hscale.vec_encode codec items (hle.trans_lt hbound),
    hscale.boundedVec_maxEncodedLen, List.length_append]
  exact Nat.add_le_add hcount hitems

end WideScale.Strict

/-! ### An implementation that satisfies the laws -/

theorem referenceScale_strict : Scale.Strict referenceScale where
  toDocumented := referenceScale_documented
  decode_nil := rfl
  decode_two_short := by
    intro tag rest htag hshort
    change compactDecode (tag :: rest) = none
    simp only [compactDecode, htag]
    exact if_neg (by omega)
  decode_four_short := by
    intro tag rest htag hshort
    change compactDecode (tag :: rest) = none
    simp only [compactDecode, htag]
    exact if_neg (by omega)
  decode_big_short := by
    intro tag rest htag hshort
    change compactDecode (tag :: rest) = none
    simp only [compactDecode, htag]
    split_ifs with hover
    · rfl
    · exact if_neg (by omega)
  option_decode_nil := fun _ ↦ rfl
  option_decode_other := by
    intro α codec tag rest hnone hsome
    change optionDecode codec (tag :: rest) = none
    rw [optionDecode, if_neg hnone, if_neg hsome]
  fixedBytes_decode_short := fun count bytes hshort ↦ dif_neg (by omega)

/-- The decoding of a boolean. -/
def boolDecode : Decoder Bool
  | [] => none
  | tag :: rest =>
    if tag = 0 then some (false, rest) else if tag = 1 then some (true, rest) else none

/-- The decoding of a number of 128 bits. -/
def u128Decode : Decoder ℕ := fun bytes ↦
  if 16 ≤ bytes.length then some (leValue (bytes.take 16), bytes.drop 16) else none

/-- The decoding of a vector. -/
def vecDecode {α : Type} (codec : Codec α) : Decoder (List α) := fun bytes ↦
  match compactDecode bytes with
  | none => none
  | some (count, left) => if count < 2 ^ 32 then decodeItems codec count left else none

/-- The encoding of a vector. -/
def vecEncode {α : Type} (codec : Codec α) (items : List α) : Bytes :=
  compactEncode items.length ++ items.flatMap codec.encode

/-- The decoding of a bounded vector. -/
def boundedVecDecode {α : Type} (codec : Codec α) (bound : ℕ) :
    Decoder { items : List α // items.length ≤ bound } := fun bytes ↦
  match vecDecode codec bytes with
  | none => none
  | some (items, rest) => if hle : items.length ≤ bound then some (⟨items, hle⟩, rest) else none

/-- The implementation that does what is documented. -/
def referenceWideScale : WideScale where
  toScale := referenceScale
  bool := ⟨fun b ↦ [if b then 1 else 0], boolDecode⟩
  u128 := ⟨leBytes 16, u128Decode⟩
  vec := fun codec ↦ ⟨vecEncode codec, vecDecode codec⟩
  boundedVec := fun codec bound ↦
    ⟨fun items ↦ vecEncode codec items.1, boundedVecDecode codec bound⟩
  boolMaxEncodedLen := 1
  u128MaxEncodedLen := 16
  boundedVecMaxEncodedLen := fun itemLen bound ↦ (compactEncode bound).length + bound * itemLen

theorem referenceWideScale_strict : WideScale.Strict referenceWideScale where
  toStrict := referenceScale_strict
  bool_encode := fun _ ↦ rfl
  bool_decode_nil := rfl
  bool_decode_false := fun _ ↦ rfl
  bool_decode_true := fun _ ↦ rfl
  bool_decode_other := by
    intro tag rest hfalse htrue
    change boolDecode (tag :: rest) = none
    rw [boolDecode, if_neg hfalse, if_neg htrue]
  u128_encode := fun _ _ ↦ rfl
  u128_decode := by
    intro body rest hbody
    change u128Decode (body ++ rest) = _
    rw [u128Decode, if_pos (by simp [hbody]), List.take_left' hbody, List.drop_left' hbody]
  u128_decode_short := fun bytes hshort ↦ if_neg (by omega)
  vec_encode := fun _ _ _ ↦ rfl
  vec_decode := by
    intro α codec bytes count left hcount
    change compactDecode bytes = _ at hcount
    change vecDecode codec bytes = _
    simp only [vecDecode, hcount]
  vec_decode_none := by
    intro α codec bytes hcount
    change compactDecode bytes = _ at hcount
    change vecDecode codec bytes = _
    simp only [vecDecode, hcount]
  boundedVec_encode := fun _ _ _ ↦ rfl
  boundedVec_decode := by
    intro α codec bound bytes items rest hle hitems
    change vecDecode codec bytes = _ at hitems
    change boundedVecDecode codec bound bytes = _
    simp only [boundedVecDecode, hitems, dif_pos hle]
  boundedVec_decode_long := by
    intro α codec bound bytes items rest hlong hitems
    change vecDecode codec bytes = _ at hitems
    change boundedVecDecode codec bound bytes = _
    simp only [boundedVecDecode, hitems, dif_neg (not_le.mpr hlong)]
  boundedVec_decode_none := by
    intro α codec bound bytes hitems
    change vecDecode codec bytes = _ at hitems
    change boundedVecDecode codec bound bytes = _
    simp only [boundedVecDecode, hitems]
  bool_maxEncodedLen := rfl
  u128_maxEncodedLen := rfl
  boundedVec_maxEncodedLen := fun _ _ ↦ rfl

end SponsoredTx.Foundation.StrictScale
