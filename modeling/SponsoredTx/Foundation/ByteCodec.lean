import Mathlib.Algebra.GroupWithZero.Nat
import Mathlib.Data.Nat.Digits.Defs
import Mathlib.Tactic.Common

/-!
# Decoders that read an encoding and leave the rest

A decoder consumes bytes from the front of its input and leaves the rest for whoever decodes next,
so it is a computation on the remaining bytes that may fail (`Decoder`). `Reads decoder bytes a`
says that a decoder finds exactly the value `a` in `bytes` and touches nothing behind them, whatever
follows. The predicate composes along the decoder (`Reads.bind`, `Reads.pure`), and one decoder
never reads two values from two byte strings of which one continues the other
(`Reads.eq_of_isPrefix`).

`leBytes` and `leValue` are the little-endian bytes of a number and the number of such bytes, and
`FixedBytes` is a byte string of a fixed length.
-/

set_option autoImplicit false
set_option relaxedAutoImplicit false

namespace SponsoredTx.Foundation.ByteCodec

/-! ### Decoders -/

/-- A byte string. -/
abbrev Bytes : Type := List UInt8

/-- A computation that consumes bytes from the front of its input. -/
abbrev Decoder (α : Type) : Type := StateT Bytes Option α

/-- An encoder with a decoder for the same type. -/
structure Codec (α : Type) where
  encode : α → Bytes
  decode : Decoder α

/-- Append the encoding of a value to a buffer. -/
def Codec.encodeTo {α : Type} (codec : Codec α) (a : α) (buffer : Bytes) : Bytes :=
  buffer ++ codec.encode a

/-- The decoder finds the value in the bytes and leaves what follows them. -/
def Reads {α : Type} (decoder : Decoder α) (bytes : Bytes) (a : α) : Prop :=
  ∀ rest, decoder (bytes ++ rest) = some (a, rest)

namespace Reads

variable {α β : Type}

/-- Returning a value reads nothing. -/
protected theorem pure (a : α) : Reads (pure a) [] a :=
  fun _ ↦ rfl

/-- Two decoders one after the other read two encodings one after the other. -/
protected theorem bind {decoder : Decoder α} {next : α → Decoder β} {bytes bytes' : Bytes} {a : α}
    {b : β} (hfirst : Reads decoder bytes a) (hnext : Reads (next a) bytes' b) :
    Reads (decoder >>= next) (bytes ++ bytes') b := by
  intro rest
  have hrun : (decoder >>= next) (bytes ++ (bytes' ++ rest)) = next a (bytes' ++ rest) := by
    change (decoder (bytes ++ (bytes' ++ rest))).bind (fun found ↦ next found.1 found.2) = _
    rw [hfirst]
    rfl
  rw [List.append_assoc, hrun]
  exact hnext rest

/-- A decoder that reads one value from a byte string and one from a continuation of it reads the
same value. -/
theorem eq_of_isPrefix {decoder : Decoder α} {bytes bytes' : Bytes} {a a' : α}
    (hreads : Reads decoder bytes a) (hreads' : Reads decoder bytes' a') (hle : bytes <+: bytes') :
    a = a' := by
  obtain ⟨tail, rfl⟩ := hle
  have hlong := hreads' []
  rw [List.append_nil, hreads tail] at hlong
  exact congrArg Prod.fst (Option.some.inj hlong)

end Reads

/-! ### Little-endian numbers -/

/-- The lowest bytes of a number, lowest first. -/
def leBytes : ℕ → ℕ → Bytes
  | 0, _ => []
  | count + 1, n => UInt8.ofNat n :: leBytes count (n / 256)

/-- The number whose bytes are given, lowest first. -/
def leValue (bytes : Bytes) : ℕ :=
  Nat.ofDigits 256 (bytes.map UInt8.toNat)

@[simp] theorem length_leBytes (count n : ℕ) : (leBytes count n).length = count := by
  induction count generalizing n with
  | zero => rfl
  | succ count ih => simp [leBytes, ih]

/-- The lowest byte comes first. -/
theorem leValue_cons (byte : UInt8) (bytes : Bytes) :
    leValue (byte :: bytes) = byte.toNat + 256 * leValue bytes := by
  simp [leValue, Nat.ofDigits_cons]

/-- Writing a number to a given count of bytes and reading it back keeps what fits. -/
theorem leValue_leBytes_mod (count n : ℕ) : leValue (leBytes count n) = n % 256 ^ count := by
  induction count generalizing n with
  | zero => simp [leBytes, leValue, Nat.mod_one]
  | succ count ih =>
    have hbyte : (UInt8.ofNat n).toNat = n % 256 := UInt8.toNat_ofNat'
    rw [leBytes, leValue_cons, ih, hbyte, pow_succ', Nat.mod_mul]

/-- A number that fits is read back whole. -/
theorem leValue_leBytes {count n : ℕ} (hn : n < 256 ^ count) : leValue (leBytes count n) = n := by
  rw [leValue_leBytes_mod, Nat.mod_eq_of_lt hn]

/-! ### Byte strings of a fixed length -/

/-- A byte string that carries the proof of its length. -/
@[ext] structure FixedBytes (count : ℕ) where
  bytes : Bytes
  length_eq : bytes.length = count
  deriving DecidableEq

end SponsoredTx.Foundation.ByteCodec
