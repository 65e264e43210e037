import Mathlib.Algebra.GroupWithZero.Nat
import Mathlib.Order.Lattice
import Mathlib.Tactic.Common

/-!
# Two-dimensional weights with saturating 64-bit arithmetic

A weight has a computation part and a proof-size part, each an unsigned 64-bit number, and all its
arithmetic saturates. The saturating operations are given on `UInt64` with their value as a natural
number (`toNat_satAdd`, `toNat_satSub`, `toNat_satMul`); `Weight` applies them to both parts, and
`RuntimeDbWeight.readsWrites` is the price of a number of storage reads and writes. Weights are
compared part by part.
-/

set_option autoImplicit false
set_option relaxedAutoImplicit false

namespace SponsoredTx.Foundation.SaturatingWeight

/-! ### Saturating arithmetic on 64 bits -/

/-- The largest unsigned 64-bit number. -/
def u64Max : ℕ := 2 ^ 64 - 1

theorem toNat_le_u64Max (a : UInt64) : a.toNat ≤ u64Max :=
  Nat.le_sub_one_of_lt a.toNat_lt

/-- A natural number clamped to 64 bits. -/
def clamp (n : ℕ) : UInt64 :=
  UInt64.ofNat (min n u64Max)

@[simp] theorem toNat_clamp (n : ℕ) : (clamp n).toNat = min n u64Max := by
  have hlt : min n u64Max < 2 ^ 64 := by
    have hle : min n u64Max ≤ u64Max := min_le_right _ _
    unfold u64Max at hle ⊢
    omega
  rw [clamp, UInt64.toNat_ofNat', Nat.mod_eq_of_lt hlt]

/-- `u64::saturating_add`. -/
def satAdd (a b : UInt64) : UInt64 :=
  clamp (a.toNat + b.toNat)

/-- `u64::saturating_sub`. -/
def satSub (a b : UInt64) : UInt64 :=
  clamp (a.toNat - b.toNat)

/-- `u64::saturating_mul`. -/
def satMul (a b : UInt64) : UInt64 :=
  clamp (a.toNat * b.toNat)

@[simp] theorem toNat_satAdd (a b : UInt64) :
    (satAdd a b).toNat = min (a.toNat + b.toNat) u64Max :=
  toNat_clamp _

@[simp] theorem toNat_satSub (a b : UInt64) : (satSub a b).toNat = a.toNat - b.toNat := by
  have hbound := toNat_le_u64Max a
  rw [satSub, toNat_clamp]
  exact min_eq_left (by omega)

@[simp] theorem toNat_satMul (a b : UInt64) :
    (satMul a b).toNat = min (a.toNat * b.toNat) u64Max :=
  toNat_clamp _

/-! ### Weights -/

/-- A weight: computation time and proof size. -/
@[ext] structure Weight where
  refTime : UInt64
  proofSize : UInt64
  deriving DecidableEq, Repr

namespace Weight

/-- The weight that costs nothing. -/
def zero : Weight where
  refTime := 0
  proofSize := 0

/-- `Weight::saturating_add`. -/
def saturatingAdd (a b : Weight) : Weight where
  refTime := satAdd a.refTime b.refTime
  proofSize := satAdd a.proofSize b.proofSize

/-- `Weight::saturating_sub`. -/
def saturatingSub (a b : Weight) : Weight where
  refTime := satSub a.refTime b.refTime
  proofSize := satSub a.proofSize b.proofSize

/-- `Weight::min`: the smaller value of each part. -/
def min (a b : Weight) : Weight where
  refTime := if a.refTime ≤ b.refTime then a.refTime else b.refTime
  proofSize := if a.proofSize ≤ b.proofSize then a.proofSize else b.proofSize

/-- `Weight::all_lte`: neither part exceeds the other weight's. -/
def AllLte (a b : Weight) : Prop :=
  a.refTime ≤ b.refTime ∧ a.proofSize ≤ b.proofSize

instance (a b : Weight) : Decidable (a.AllLte b) :=
  inferInstanceAs (Decidable (_ ∧ _))

/-- The minimum of two weights is below the second. -/
theorem min_allLte_right (a b : Weight) : (a.min b).AllLte b := by
  constructor
  · change (if a.refTime ≤ b.refTime then a.refTime else b.refTime) ≤ b.refTime
    split_ifs with hle
    · exact hle
    · exact UInt64.le_refl _
  · change (if a.proofSize ≤ b.proofSize then a.proofSize else b.proofSize) ≤ b.proofSize
    split_ifs with hle
    · exact hle
    · exact UInt64.le_refl _

theorem AllLte.refl (a : Weight) : a.AllLte a :=
  ⟨UInt64.le_refl _, UInt64.le_refl _⟩

/-- Adding the zero weight changes nothing. -/
@[simp] theorem saturatingAdd_zero (a : Weight) : a.saturatingAdd zero = a := by
  have hpart : ∀ n : UInt64, satAdd n 0 = n := by
    intro n
    apply UInt64.toNat_inj.mp
    rw [toNat_satAdd, UInt64.toNat_zero, Nat.add_zero]
    exact min_eq_left (toNat_le_u64Max n)
  ext1
  · exact hpart a.refTime
  · exact hpart a.proofSize

end Weight

/-- The price of one storage read and of one storage write. -/
structure RuntimeDbWeight where
  read : UInt64
  write : UInt64
  deriving DecidableEq, Repr

/-- `RuntimeDbWeight::reads_writes`: storage accesses cost computation time only. -/
def RuntimeDbWeight.readsWrites (price : RuntimeDbWeight) (reads writes : UInt64) : Weight where
  refTime := satAdd (satMul price.read reads) (satMul price.write writes)
  proofSize := 0

end SponsoredTx.Foundation.SaturatingWeight
