import CarCleaner.Angles.FailedReads
import CarCleaner.Foundation.LinearFilter

/-!
# Bounded roll and pitch

The complementary filter keeps 98 percent of its memory.  Its kick is bounded when the
time between two successful reads is, since a rate fits into 16 bits and the angle of
the accelerometer into half a turn.
-/

namespace CarCleaner
namespace Angles

open Foundation

/-- A successful read comes at most `limit` seconds after the one in front of it. -/
def ReadWithin (limit : Rat) (start : Int) (past : List Attempt) : Attempt -> Prop
  | .failed _ => True
  | .read _ now =>
      0 ≤ secondsBetween (lastTime start (reads past)) now ∧
        secondsBetween (lastTime start (reads past)) now ≤ limit

def ReadsWithin (limit : Rat) (start : Int) (attempts : List Attempt) : Prop :=
  EveryInput (ReadWithin limit start) attempts

instance (limit : Rat) (start : Int) (past : List Attempt) :
    DecidablePred (ReadWithin limit start past)
  | .failed _ => inferInstanceAs (Decidable True)
  | .read _ _ => inferInstanceAs (Decidable (_ ∧ _))

instance (limit : Rat) (start : Int) (attempts : List Attempt) :
    Decidable (ReadsWithin limit start attempts) :=
  inferInstanceAs (Decidable (EveryInput _ attempts))

/-- The degrees that `atan2f` stands for are those of half a turn either way. -/
def ReturnsAngles (atan2f : Rat -> Rat -> Rat) : Prop :=
  forall y x, |atan2f y x * radToDeg| ≤ 180

def tiltBound (limit : Rat) : Rat :=
  180 + 49 * limit * (32768 / 131)

/-!
# One step
-/

theorem abs_filterGyro_le (rate : Rat) : |filterGyro rate| ≤ |rate| := by
  unfold filterGyro
  split
  · rw [abs_zero]
    exact abs_nonneg rate
  · exact le_rfl

theorem abs_rate_le {raw : Int} (h : -32768 ≤ raw ∧ raw ≤ 32767) :
    |filterGyro ((raw : Rat) / 131)| ≤ 32768 / 131 := by
  have hraw : |(raw : Rat)| ≤ 32768 := by
    rw [abs_le]
    constructor
    · exact_mod_cast h.1
    · exact_mod_cast h.2.trans (by decide)
  apply (abs_filterGyro_le _).trans
  rw [abs_div]
  norm_num
  linarith

theorem abs_rateX_le (rxBuf : Vector UInt8 14) : |rateX rxBuf| ≤ 32768 / 131 := by
  apply abs_rate_le
  simp only [Mpu6050Data.ofBytes]
  exact int16OfInt_mem _

theorem abs_rateY_le (rxBuf : Vector UInt8 14) : |rateY rxBuf| ≤ 32768 / 131 := by
  apply abs_rate_le
  simp only [Mpu6050Data.ofBytes]
  exact int16OfInt_mem _

theorem fuse_eq_filterStep (estimate rate dt accelAngle : Rat) :
    fuse estimate rate dt accelAngle =
      filterStep (98 / 100) (98 / 100 * (rate * dt) + 2 / 100 * accelAngle) estimate := by
  rw [fuse, filterStep, alpha]
  ring

/-- The bound is what the worst kick and the loss of 2 percent balance at. -/
theorem abs_fuse_le {estimate rate dt accelAngle limit : Rat}
    (hestimate : |estimate| ≤ tiltBound limit) (hrate : |rate| ≤ 32768 / 131)
    (hdt : 0 ≤ dt ∧ dt ≤ limit) (hangle : |accelAngle| ≤ 180) :
    |fuse estimate rate dt accelAngle| ≤ tiltBound limit := by
  have hturn : |rate * dt| ≤ 32768 / 131 * limit := by
    rw [abs_mul, abs_of_nonneg hdt.1]
    exact mul_le_mul hrate hdt.2 hdt.1 (by norm_num)
  have hkick : |98 / 100 * (rate * dt) + 2 / 100 * accelAngle| ≤
      (1 - 98 / 100) * tiltBound limit := by
    have hsum := abs_add_le (98 / 100 * (rate * dt)) (2 / 100 * accelAngle)
    have hgyro : |98 / 100 * (rate * dt)| = 98 / 100 * |rate * dt| := by
      rw [abs_mul, abs_of_pos (by norm_num)]
    have haccel : |2 / 100 * accelAngle| = 2 / 100 * |accelAngle| := by
      rw [abs_mul, abs_of_pos (by norm_num)]
    rw [hgyro, haccel] at hsum
    unfold tiltBound
    linarith
  rw [fuse_eq_filterStep]
  exact abs_filterStep_le (by norm_num) hkick hestimate

/-!
# Whole runs
-/

structure Tilted (limit : Rat) (s : AnglesTask) : Prop where
  realX_le : |s.realX| ≤ tiltBound limit
  realY_le : |s.realY| ≤ tiltBound limit

theorem half_turn_le_tiltBound {limit : Rat} (hlimit : 0 ≤ limit) :
    180 ≤ tiltBound limit := by
  unfold tiltBound
  linarith

theorem Tilted.read {limit : Rat} {s : AnglesTask} (h : Tilted limit s)
    (hlimit : 0 ≤ limit) {atan2f : Rat -> Rat -> Rat} (hatan : ReturnsAngles atan2f)
    (rxBuf : Vector UInt8 14) {now : Int}
    (hdt : 0 ≤ secondsBetween s.integrationTimePrev now ∧
      secondsBetween s.integrationTimePrev now ≤ limit) :
    Tilted limit (anglesLoop atan2f s (.read rxBuf now)) := by
  have hroll : |rollOf atan2f rxBuf| ≤ 180 := hatan _ _
  have hpitch : |pitchOf atan2f rxBuf| ≤ 180 := hatan _ _
  have hbound := half_turn_le_tiltBound hlimit
  constructor
  · rw [realX_read]
    refine abs_fuse_le ?_ (abs_rateX_le rxBuf) hdt hroll
    split
    · exact hroll.trans hbound
    · exact h.realX_le
  · rw [realY_read]
    refine abs_fuse_le ?_ (abs_rateY_le rxBuf) hdt hpitch
    split
    · exact hpitch.trans hbound
    · exact h.realY_le

/-- Roll and pitch stay within the fixed point of the filter. -/
theorem tilt_bounded {limit : Rat} (hlimit : 0 ≤ limit) {atan2f : Rat -> Rat -> Rat}
    (hatan : ReturnsAngles atan2f)
    (samples : Vector CalibrationSample calibrationSamples) {start : Int}
    {attempts : List Attempt} (hreads : ReadsWithin limit start attempts) :
    |(anglesAfter atan2f (.calibrated samples start) attempts).realX| ≤
        180 + 49 * limit * (32768 / 131) ∧
      |(anglesAfter atan2f (.calibrated samples start) attempts).realY| ≤
        180 + 49 * limit * (32768 / 131) := by
  have htilted : Tilted limit (anglesAfter atan2f (.calibrated samples start) attempts) := by
    have hbound := half_turn_le_tiltBound hlimit
    refine hreads.induction
      (fun attempts =>
        Tilted limit (anglesAfter atan2f (.calibrated samples start) attempts)) ?_ ?_
    · constructor
      · change |(0 : Rat)| ≤ tiltBound limit
        rw [abs_zero]
        linarith
      · change |(0 : Rat)| ≤ tiltBound limit
        rw [abs_zero]
        linarith
    · intro past attempt _ hattempt ih
      rw [anglesAfter, stateAfter_snoc, <- anglesAfter]
      cases attempt with
      | failed rxBuf =>
          exact ⟨ih.realX_le, ih.realY_le⟩
      | read rxBuf now =>
          apply ih.read hlimit hatan
          rw [integrationTimePrev_anglesAfter]
          exact hattempt
  exact ⟨htilted.realX_le, htilted.realY_le⟩

/-- A level car and three reads a second apart, with a failure and a full rotation. -/
def spinningAttempts : List Attempt :=
  [.read #v[0, 0, 0, 0, 0x40, 0, 0, 0, 0, 0, 0, 0, 0, 0] 1000000,
    .failed (Vector.replicate 14 0xff),
    .read #v[0, 0, 0, 0, 0x40, 0, 0, 0, 0x80, 0, 0x7f, 0xff, 0, 0] 2000000,
    .read #v[0, 0, 0, 0, 0x40, 0, 0, 0, 0x80, 0, 0x7f, 0xff, 0, 0] 2500000]

theorem tilt_bounded_spinning :
    |(anglesAfter (fun _ _ => 0) (.calibrated (Vector.replicate 200 .failed) 0)
        spinningAttempts).realX| ≤ 180 + 49 * 1 * (32768 / 131) ∧
      |(anglesAfter (fun _ _ => 0) (.calibrated (Vector.replicate 200 .failed) 0)
        spinningAttempts).realY| ≤ 180 + 49 * 1 * (32768 / 131) := by
  have hatan : ReturnsAngles fun _ _ => 0 := by
    intro y x
    norm_num
  exact tilt_bounded (by norm_num) hatan (Vector.replicate 200 .failed)
    (by decide +kernel : ReadsWithin 1 0 spinningAttempts)

end Angles
end CarCleaner
