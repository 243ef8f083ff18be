import CarCleaner.Angles.Task
import CarCleaner.Foundation.Circle
import Mathlib.Data.Set.Operations
import Mathlib.Order.Interval.Set.Defs

/-!
# Fusion of angles

The filter pulls the estimate towards the angle of the accelerometer by linear
arithmetic, which keeps 98 percent of the difference.  On the circle this is a pull
along the shorter arc, or a short way along the longer one, as long as the two numbers
differ by at most `2000 / 11` degrees.
-/

namespace CarCleaner
namespace Angles

open Foundation

theorem fuse_zero_rate (estimate dt accelAngle : Rat) :
    fuse estimate 0 dt accelAngle = alpha * estimate + (1 - alpha) * accelAngle := by
  rw [fuse, zero_mul, add_zero]

/-- Two angles of one turn differ by less than a turn. -/
theorem abs_sub_lt_turn {x a : Rat} (hx : x ∈ Set.Ioc (-180) 180)
    (ha : a ∈ Set.Ioc (-180) 180) : |x - a| < 360 := by
  rw [abs_lt]
  constructor
  · linarith [hx.1, ha.2]
  · linarith [hx.2, ha.1]

theorem circularDistance_fuse_le_iff {x a : Rat} (hx : x ∈ Set.Ioc (-180) 180)
    (ha : a ∈ Set.Ioc (-180) 180) (dt : Rat) :
    circularDistance 360 (fuse x 0 dt a) a ≤ circularDistance 360 x a <->
      |x - a| ≤ 2000 / 11 := by
  have hnear : (1 + alpha) * |x - a| ≤ 360 <-> |x - a| ≤ 2000 / 11 := by
    rw [alpha, <- le_div_iff₀' (by norm_num)]
    norm_num
  rw [fuse_zero_rate, <- hnear]
  exact circularDistance_pull_le_iff (by norm_num [alpha]) (by norm_num [alpha])
    (abs_sub_lt_turn hx ha)

theorem circularDistance_self (a : Rat) : circularDistance 360 a a = 0 := by
  norm_num [circularDistance]

theorem circularDistance_nonneg {x a : Rat} (hx : x ∈ Set.Ioc (-180) 180)
    (ha : a ∈ Set.Ioc (-180) 180) : 0 ≤ circularDistance 360 x a := by
  have h := abs_sub_lt_turn hx ha
  rw [circularDistance_eq h]
  exact le_min (abs_nonneg _) (by linarith)

/-- The first step replaces the estimate by the angle of the accelerometer. -/
theorem circularDistance_first_le {x a : Rat} (hx : x ∈ Set.Ioc (-180) 180)
    (ha : a ∈ Set.Ioc (-180) 180) (dt : Rat) :
    circularDistance 360 (fuse a 0 dt a) a ≤ circularDistance 360 x a := by
  have hfuse : fuse a 0 dt a = a := by
    rw [fuse_zero_rate]
    ring
  rw [hfuse, circularDistance_self]
  exact circularDistance_nonneg hx ha

/-- One step from the estimate `x`, the first one or a later one. -/
theorem circularDistance_step_le_iff {x a : Rat} (hx : x ∈ Set.Ioc (-180) 180)
    (ha : a ∈ Set.Ioc (-180) 180) (firstRun : Bool) (dt : Rat) :
    circularDistance 360 (fuse (if firstRun then a else x) 0 dt a) a ≤
        circularDistance 360 x a <->
      firstRun = true ∨ |x - a| ≤ 2000 / 11 := by
  cases firstRun with
  | false =>
      simpa using circularDistance_fuse_le_iff hx ha dt
  | true =>
      simpa using circularDistance_first_le hx ha dt

/-- Without rotation the roll and the pitch do not move away from near measurements. -/
theorem fusion_not_farther_iff (atan2f : Rat -> Rat -> Rat) (s : AnglesTask)
    (rxBuf : Vector UInt8 14) (now : Int) :
    (rateX rxBuf = 0 -> s.realX ∈ Set.Ioc (-180) 180 ->
      rollOf atan2f rxBuf ∈ Set.Ioc (-180) 180 ->
      (circularDistance 360 (anglesLoop atan2f s (.read rxBuf now)).realX
          (rollOf atan2f rxBuf) ≤ circularDistance 360 s.realX (rollOf atan2f rxBuf) <->
        s.firstRun = true ∨ |s.realX - rollOf atan2f rxBuf| ≤ 2000 / 11)) ∧
    (rateY rxBuf = 0 -> s.realY ∈ Set.Ioc (-180) 180 ->
      pitchOf atan2f rxBuf ∈ Set.Ioc (-180) 180 ->
      (circularDistance 360 (anglesLoop atan2f s (.read rxBuf now)).realY
          (pitchOf atan2f rxBuf) ≤ circularDistance 360 s.realY (pitchOf atan2f rxBuf) <->
        s.firstRun = true ∨ |s.realY - pitchOf atan2f rxBuf| ≤ 2000 / 11)) := by
  constructor
  · intro hrate hx ha
    rw [realX_read, hrate]
    exact circularDistance_step_le_iff hx ha _ _
  · intro hrate hy ha
    rw [realY_read, hrate]
    exact circularDistance_step_le_iff hy ha _ _

/-- A task whose estimate of the roll is 179 degrees. -/
def nearCut : AnglesTask :=
  { AnglesTask.calibrated (Vector.replicate calibrationSamples .failed) 0 with
    realX := 179
    firstRun := false }

/-- Gravity as a car sees it that is upside down and one degree off. -/
def upsideDownFrame : Vector UInt8 14 :=
  #v[0, 0, 0xfe, 0xe2, 0xc0, 0, 0, 0, 0, 0, 0, 0, 0, 0]

/-- The measurement is 2 degrees away across the cut, and the step moves the other way. -/
theorem fusion_across_cut :
    exists atan2f, rateX upsideDownFrame = 0 ∧ rollOf atan2f upsideDownFrame = -179 ∧
      circularDistance 360 nearCut.realX (rollOf atan2f upsideDownFrame) = 2 ∧
      circularDistance 360 (anglesLoop atan2f nearCut (.read upsideDownFrame 0)).realX
        (rollOf atan2f upsideDownFrame) = 229 / 25 := by
  refine ⟨fun _ _ => -179 / radToDeg, ?_, ?_, ?_, ?_⟩
  · decide +kernel
  · decide +kernel
  · decide +kernel
  · decide +kernel

end Angles
end CarCleaner
