import Mathlib.Algebra.Order.Field.Basic
import Mathlib.Tactic.Linarith
import Mathlib.Tactic.Ring

/-!
# First-order recursive filters

A recursive filter keeps the share `gain` of its memory and adds a kick.  A
bound on the memory survives a turn when the kick is at most the part of the
bound that the gain gives up, so the worst kick divided by `1 - gain` bounds the
memory forever.
-/

namespace CarCleaner
namespace Foundation

universe u

variable {num : Type u} [Field num] [LinearOrder num] [IsStrictOrderedRing num]

/-- One turn of a filter that keeps the share `gain` of its memory. -/
def filterStep (gain kick memory : num) : num :=
  gain * memory + kick

theorem abs_filterStep_le {gain kick memory bound : num} (hgain : 0 ≤ gain)
    (hkick : |kick| ≤ (1 - gain) * bound) (hmemory : |memory| ≤ bound) :
    |filterStep gain kick memory| ≤ bound := by
  have hkeep : |gain * memory| ≤ gain * bound := by
    rw [abs_mul, abs_of_nonneg hgain]
    exact mul_le_mul_of_nonneg_left hmemory hgain
  calc
    |filterStep gain kick memory| ≤ |gain * memory| + |kick| := abs_add_le _ _
    _ ≤ gain * bound + (1 - gain) * bound := add_le_add hkeep hkick
    _ = bound := by ring

/--
A filter that follows a moving target: what the kick misses is bounded forever, and a lag
from earlier dies out with the gain.
-/
theorem abs_filterStep_sub_le {gain kick memory target target' bound lag : num}
    (hgain : 0 ≤ gain) (hkick : |kick - (target' - gain * target)| ≤ (1 - gain) * bound)
    (hmemory : |memory - target| ≤ bound + lag) :
    |filterStep gain kick memory - target'| ≤ bound + gain * lag := by
  have hkeep : |gain * (memory - target)| ≤ gain * (bound + lag) := by
    rw [abs_mul, abs_of_nonneg hgain]
    exact mul_le_mul_of_nonneg_left hmemory hgain
  calc
    |filterStep gain kick memory - target'|
        = |gain * (memory - target) + (kick - (target' - gain * target))| := by
      rw [filterStep]
      ring_nf
    _ ≤ |gain * (memory - target)| + |kick - (target' - gain * target)| := abs_add_le _ _
    _ ≤ gain * (bound + lag) + (1 - gain) * bound := add_le_add hkeep hkick
    _ = bound + gain * lag := by ring

theorem filterStep_mono (gain memory : num) :
    Monotone fun kick => filterStep gain kick memory :=
  fun _ _ h => add_le_add le_rfl h

end Foundation
end CarCleaner
