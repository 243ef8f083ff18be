import Mathlib.Algebra.Order.Floor.Ring
import Mathlib.Tactic.FieldSimp
import Mathlib.Tactic.Linarith
import Mathlib.Tactic.Ring

/-!
# Distances on a circle

Positions on a circle are numbers modulo its period.  Numbers that are less than a
period apart have the shorter of two arcs between them, so a linear pull of one
number towards another brings the positions closer only when it does not start on
the far side of the circle.
-/

namespace CarCleaner
namespace Foundation

universe u

variable {num : Type u} [Field num] [LinearOrder num] [IsStrictOrderedRing num]
  [FloorRing num]

/-- Length of the shorter arc between two positions. -/
def circularDistance (period x y : num) : num :=
  let arc := x - y - period * ⌊(x - y) / period⌋
  min arc (period - arc)

theorem circularDistance_eq {period x y : num} (h : |x - y| < period) :
    circularDistance period x y = min |x - y| (period - |x - y|) := by
  have hperiod : 0 < period := (abs_nonneg _).trans_lt h
  rcases abs_lt.mp h with ⟨hlow, hhigh⟩
  simp only [circularDistance]
  rcases le_or_gt 0 (x - y) with hpos | hneg
  · have hfloor : ⌊(x - y) / period⌋ = 0 := by
      rw [Int.floor_eq_zero_iff, Set.mem_Ico, div_lt_one hperiod]
      exact ⟨div_nonneg hpos hperiod.le, hhigh⟩
    rw [hfloor, abs_of_nonneg hpos, Int.cast_zero, mul_zero, sub_zero]
  · have hfloor : ⌊(x - y) / period⌋ = -1 := by
      rw [Int.floor_eq_iff, le_div_iff₀ hperiod, div_lt_iff₀ hperiod]
      push_cast
      constructor
      · linarith
      · linarith
    have harc : x - y - period * ((-1 : Int) : num) = period - |x - y| := by
      rw [abs_of_neg hneg]
      push_cast
      ring
    rw [hfloor, harc, sub_sub_cancel, min_comm]

/-- A pull that keeps the share `gain` of the difference. -/
theorem circularDistance_pull_le_iff {period gain x y : num} (hgain : 0 ≤ gain)
    (hlt : gain < 1) (h : |x - y| < period) :
    circularDistance period (gain * x + (1 - gain) * y) y ≤ circularDistance period x y <->
      (1 + gain) * |x - y| ≤ period := by
  have hnonneg := abs_nonneg (x - y)
  have hpull : |gain * x + (1 - gain) * y - y| = gain * |x - y| := by
    rw [<- abs_of_nonneg hgain, <- abs_mul, abs_of_nonneg hgain]
    congr 1
    ring
  have hle : gain * |x - y| ≤ |x - y| := mul_le_of_le_one_left hnonneg hlt.le
  rw [circularDistance_eq h, circularDistance_eq (by rw [hpull]; exact hle.trans_lt h), hpull]
  constructor
  · intro hmin
    by_contra hfar
    have hpos : 0 < |x - y| := by
      rcases hnonneg.eq_or_lt with hzero | hpos
      · rw [<- hzero, mul_zero] at hfar
        linarith
      · exact hpos
    have hkeep : gain * |x - y| < |x - y| := mul_lt_of_lt_one_left hpos hlt
    have harc := hmin.trans (min_le_right _ _)
    rcases min_le_iff.mp harc with hnear | hother
    · linarith
    · linarith
  · intro hnear
    apply (min_le_left _ _).trans
    apply le_min
    · exact hle
    · linarith

end Foundation
end CarCleaner
