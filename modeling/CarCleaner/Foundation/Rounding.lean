import Mathlib.Algebra.Order.Floor.Ring
import Mathlib.Data.Int.Log
import Mathlib.Tactic.FieldSimp
import Mathlib.Tactic.Linarith
import Mathlib.Tactic.Positivity
import Mathlib.Tactic.Ring

/-!
# Rounding to nearest

Printed numbers and floating-point numbers are rounded to the nearest candidate, and
to the even one of two equally near ones.  A floating-point number keeps a fixed
number of significant bits, so its error is relative to the number.
-/

namespace CarCleaner
namespace Foundation

universe u

variable {num : Type u} [Field num] [LinearOrder num] [IsStrictOrderedRing num]
  [FloorRing num]

/-- The nearest integer, the even one half way between two of them. -/
def roundHalfEven (x : num) : Int :=
  if x - ⌊x⌋ < 1 / 2 then ⌊x⌋
  else if 1 / 2 < x - ⌊x⌋ then ⌊x⌋ + 1
  else if ⌊x⌋ % 2 = 0 then ⌊x⌋
  else ⌊x⌋ + 1

theorem abs_roundHalfEven_sub_le (x : num) : |(roundHalfEven x : num) - x| ≤ 1 / 2 := by
  have hlow := Int.floor_le x
  have hhigh := Int.lt_floor_add_one x
  rw [abs_le]
  unfold roundHalfEven
  split
  · constructor
    · linarith
    · linarith
  · split
    · push_cast
      constructor
      · linarith
      · linarith
    · split
      · constructor
        · linarith
        · linarith
      · push_cast
        constructor
        · linarith
        · linarith

theorem roundHalfEven_eq {x : num} {n : Int} (h : |x - n| < 1 / 2) :
    roundHalfEven x = n := by
  have hnear := abs_le.mp (abs_roundHalfEven_sub_le x)
  have hx := abs_lt.mp h
  have hlow : ((n - 1 : Int) : num) < roundHalfEven x := by
    push_cast
    linarith
  have hhigh : (roundHalfEven x : num) < ((n + 1 : Int) : num) := by
    push_cast
    linarith
  have hlow' := Int.cast_lt.mp hlow
  have hhigh' := Int.cast_lt.mp hhigh
  omega

theorem roundHalfEven_zero : roundHalfEven (0 : num) = 0 :=
  roundHalfEven_eq (by norm_num)

/-!
# Significant bits
-/

/-- A number in a binary format with `bits` significant bits and unbounded exponents. -/
def toPrecision (bits : Nat) (x : num) : num :=
  let ulp : num := 2 ^ (Int.log 2 |x| + 1 - bits)
  roundHalfEven (x / ulp) * ulp

theorem abs_toPrecision_sub_le (bits : Nat) (x : num) :
    |toPrecision bits x - x| ≤ |x| / 2 ^ bits := by
  rcases eq_or_ne x 0 with rfl | hx
  · simp [toPrecision, roundHalfEven_zero]
  · have hulp : (0 : num) < 2 ^ (Int.log 2 |x| + 1 - bits) :=
      zpow_pos two_pos _
    have hlog : (2 : num) ^ Int.log 2 |x| ≤ |x| := by
      have h := Int.zpow_log_le_self (b := 2) (by norm_num) (abs_pos.mpr hx)
      exact_mod_cast h
    have hhalf : (2 : num) ^ (Int.log 2 |x| + 1 - bits) = 2 * (2 ^ Int.log 2 |x| / 2 ^ bits) := by
      rw [zpow_sub₀ two_ne_zero, zpow_add_one₀ two_ne_zero, zpow_natCast]
      ring
    have hround := abs_roundHalfEven_sub_le (x / 2 ^ (Int.log 2 |x| + 1 - bits))
    have hscaled : toPrecision bits x - x =
        (roundHalfEven (x / 2 ^ (Int.log 2 |x| + 1 - bits)) -
          x / 2 ^ (Int.log 2 |x| + 1 - bits)) * 2 ^ (Int.log 2 |x| + 1 - bits) := by
      rw [sub_mul, div_mul_cancel₀ _ hulp.ne']
      rfl
    calc
      |toPrecision bits x - x|
          ≤ 1 / 2 * 2 ^ (Int.log 2 |x| + 1 - bits) := by
        rw [hscaled, abs_mul, abs_of_pos hulp]
        exact mul_le_mul_of_nonneg_right hround hulp.le
      _ = 2 ^ Int.log 2 |x| / 2 ^ bits := by
        rw [hhalf]
        ring
      _ ≤ |x| / 2 ^ bits := by
        gcongr

end Foundation
end CarCleaner
