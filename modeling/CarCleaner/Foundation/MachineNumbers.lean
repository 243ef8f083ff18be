import Mathlib.Algebra.Order.Floor.Ring
import Mathlib.Algebra.Order.Group.MinMax
import Mathlib.Order.Monotone.Basic
import Mathlib.Tactic.Linarith

/-!
# Numbers as a C program computes them

Signed 32-bit arithmetic is exact as long as the result fits; an overflow is
undefined behaviour and ends the run with a fault.  Conversions to unsigned
values wrap, division and conversion of fractions to integers round towards
zero, and limits are applied by two comparisons.
-/

namespace CarCleaner
namespace Foundation

universe u v

/-!
# Signed and unsigned 32-bit values
-/

/-- Values of type `int32_t`. -/
def InInt32 (x : Int) : Prop :=
  -2147483648 ≤ x ∧ x ≤ 2147483647

instance (x : Int) : Decidable (InInt32 x) :=
  inferInstanceAs (Decidable (-2147483648 ≤ x ∧ x ≤ 2147483647))

def int32 {fault : Type u} (overflow : fault) (x : Int) : Except fault Int :=
  if InInt32 x then .ok x else .error overflow

theorem int32_eq_ok {fault : Type u} (overflow : fault) {x : Int}
    (hlow : -2147483648 ≤ x) (hhigh : x ≤ 2147483647) :
    int32 overflow x = .ok x := by
  rw [int32, if_pos ⟨hlow, hhigh⟩]

def uint32OfInt (x : Int) : Nat :=
  (x % 4294967296).toNat

theorem uint32OfInt_natCast {n : Nat} (h : n < 4294967296) :
    uint32OfInt (n : Int) = n := by
  unfold uint32OfInt
  omega

/-!
# Numbers from two bytes
-/

/-- `(high << 8) | low`. -/
def bigEndian (high low : UInt8) : Nat :=
  high.toNat <<< 8 ||| low.toNat

theorem bigEndian_eq (high low : UInt8) :
    bigEndian high low = 256 * high.toNat + low.toNat := by
  have hlow : low.toNat < 2 ^ 8 := low.toNat_lt
  rw [bigEndian, <- Nat.shiftLeft_add_eq_or_of_lt hlow, Nat.shiftLeft_eq]
  omega

/-- Conversion to `int16_t`. -/
def int16OfInt (x : Int) : Int :=
  x.bmod 65536

theorem int16OfInt_mem (x : Int) : -32768 ≤ int16OfInt x ∧ int16OfInt x ≤ 32767 := by
  have hlow := Int.le_bmod (x := x) (m := 65536) (by decide)
  have hhigh := Int.bmod_lt (x := x) (m := 65536) (by decide)
  unfold int16OfInt
  omega

/-!
# Rounding towards zero
-/

/-- A truncated quotient exceeds `k` exactly when `k + 1` divisors fit. -/
theorem lt_tdiv_iff {x k d : Int} (hd : 0 < d) (hk : 0 ≤ k) :
    k < x.tdiv d <-> (k + 1) * d ≤ x := by
  rcases Int.le_total 0 x with hx | hx
  · rw [Int.tdiv_eq_ediv_of_nonneg hx, ← Int.add_one_le_iff,
      Int.le_ediv_iff_mul_le hd]
  · have hquot : x.tdiv d ≤ 0 := by
      have h := Int.tdiv_le_tdiv hd hx
      rwa [Int.zero_tdiv] at h
    have hprod : 0 < (k + 1) * d := Int.mul_pos (by omega) hd
    constructor
    · intro h
      omega
    · intro h
      omega

section Truncate

variable {num : Type u} [Ring num] [LinearOrder num] [FloorRing num]

/-- Conversion of a fraction to an integer type. -/
def truncate (x : num) : Int :=
  if 0 ≤ x then ⌊x⌋ else ⌈x⌉

theorem truncate_nonneg {x : num} (h : 0 ≤ x) : 0 ≤ truncate x := by
  rw [truncate, if_pos h]
  exact Int.floor_nonneg.mpr h

theorem truncate_nonpos {x : num} (h : ¬ 0 ≤ x) : truncate x ≤ 0 := by
  rw [truncate, if_neg h]
  exact Int.ceil_le.mpr (by simpa using (not_le.mp h).le)

theorem truncate_mono {x y : num} (hxy : x ≤ y) : truncate x ≤ truncate y := by
  by_cases hx : 0 ≤ x
  · have hy : 0 ≤ y := hx.trans hxy
    rw [truncate, truncate, if_pos hx, if_pos hy]
    exact Int.floor_mono hxy
  · by_cases hy : 0 ≤ y
    · exact (truncate_nonpos hx).trans (truncate_nonneg hy)
    · rw [truncate, truncate, if_neg hx, if_neg hy]
      exact Int.ceil_mono hxy

variable [IsStrictOrderedRing num]

theorem truncate_intCast (k : Int) : truncate (k : num) = k := by
  unfold truncate
  split
  · exact Int.floor_intCast k
  · exact Int.ceil_intCast k

theorem truncate_mem {x : num} {low high : Int} (hlow : (low : num) ≤ x)
    (hhigh : x ≤ (high : num)) :
    low ≤ truncate x ∧ truncate x ≤ high := by
  constructor
  · have hmono := truncate_mono hlow
    rwa [truncate_intCast] at hmono
  · have hmono := truncate_mono hhigh
    rwa [truncate_intCast] at hmono

end Truncate

/-!
# Limits applied by two comparisons
-/

section Saturate

variable {val : Type v} [LinearOrder val]

/-- `if (x > high) x = high; else if (x < low) x = low;` -/
def saturate (low high x : val) : val :=
  if x > high then high else if x < low then low else x

theorem saturate_eq_max_min {low high : val} (h : low ≤ high) (x : val) :
    saturate low high x = max low (min high x) := by
  unfold saturate
  split
  · next hx => rw [min_eq_left hx.le, max_eq_right h]
  · next hx =>
      rw [min_eq_right (not_lt.mp hx)]
      split
      · next hlow => rw [max_eq_left hlow.le]
      · next hlow => rw [max_eq_right (not_lt.mp hlow)]

theorem saturate_mem {low high : val} (h : low ≤ high) (x : val) :
    low ≤ saturate low high x ∧ saturate low high x ≤ high := by
  rw [saturate_eq_max_min h]
  exact ⟨le_max_left _ _, max_le h (min_le_left _ _)⟩

theorem saturate_of_high_le {low high x : val} (h : low ≤ high) (hx : high ≤ x) :
    saturate low high x = high := by
  rw [saturate_eq_max_min h, min_eq_left hx, max_eq_right h]

theorem saturate_of_le_low {low high x : val} (h : low ≤ high) (hx : x ≤ low) :
    saturate low high x = low := by
  rw [saturate_eq_max_min h, max_eq_left ((min_le_right _ _).trans hx)]

/-- Wider limits make no difference in front of narrower ones. -/
theorem saturate_saturate {low low' high high' : val} (h : low ≤ high) (hlow : low' ≤ low)
    (hhigh : high ≤ high') (x : val) :
    saturate low high (saturate low' high' x) = saturate low high x := by
  have hwide : low' ≤ high' := hlow.trans (h.trans hhigh)
  rcases le_total high' x with habove | hbelow
  · rw [saturate_of_high_le hwide habove, saturate_of_high_le h hhigh,
      saturate_of_high_le h (hhigh.trans habove)]
  · rcases le_total x low' with hunder | hover
    · rw [saturate_of_le_low hwide hunder, saturate_of_le_low h hlow,
        saturate_of_le_low h (hunder.trans hlow)]
    · rw [saturate_eq_max_min hwide, min_eq_right hbelow, max_eq_right hover]

theorem saturate_mono {low high : val} (h : low ≤ high) :
    Monotone (saturate low high) := by
  intro x y hxy
  rw [saturate_eq_max_min h, saturate_eq_max_min h]
  exact max_le_max le_rfl (min_le_min le_rfl hxy)

/-- Limits bring values closer together. -/
theorem abs_saturate_sub_le [AddCommGroup val] [IsOrderedAddMonoid val] {low high : val}
    (h : low ≤ high) (x y : val) :
    |saturate low high x - saturate low high y| ≤ |x - y| := by
  have hmin := abs_min_sub_min_le_max high x high y
  rw [sub_self, abs_zero, max_eq_right (abs_nonneg _)] at hmin
  rw [saturate_eq_max_min h, saturate_eq_max_min h, max_comm, max_comm low]
  exact (abs_max_sub_max_le_abs _ _ low).trans hmin

end Saturate

end Foundation
end CarCleaner
