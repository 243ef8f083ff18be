import CarCleaner.Angles.Bound

/-!
# How well the angles follow the car

The accelerometer keeps the roll and the pitch from drifting: their error stays within the
one of the accelerometer plus 49 times what the gyroscope misses between two successful
reads, however long the car drives.  The first read counts the rotation since the
calibration a second time, and the filter forgets it by 2 percent a read.  The yaw has no
accelerometer, so its error may grow with every read.
-/

namespace CarCleaner
namespace Angles

open Foundation

/-- An angle that the filter estimates from both sensors. -/
structure Axis (atan2f : Rat -> Rat -> Rat) where
  estimate : AnglesTask -> Rat
  accelAngle : Vector UInt8 14 -> Rat
  rate : Vector UInt8 14 -> Rat
  failed_eq : forall s rxBuf, estimate (anglesLoop atan2f s (.failed rxBuf)) = estimate s
  read_eq : forall s rxBuf now,
    estimate (anglesLoop atan2f s (.read rxBuf now)) =
      fuse (if s.firstRun then accelAngle rxBuf else estimate s) (rate rxBuf)
        (secondsBetween s.integrationTimePrev now) (accelAngle rxBuf)

def rollAxis (atan2f : Rat -> Rat -> Rat) : Axis atan2f where
  estimate := AnglesTask.realX
  accelAngle := rollOf atan2f
  rate := rateX
  failed_eq _ _ := rfl
  read_eq := realX_read atan2f

def pitchAxis (atan2f : Rat -> Rat -> Rat) : Axis atan2f where
  estimate := AnglesTask.realY
  accelAngle := pitchOf atan2f
  rate := rateY
  failed_eq _ _ := rfl
  read_eq := realY_read atan2f

/-- Rates of the gyroscope that miss the true angle by at most `gyroError` a read. -/
def Turns (rate : Vector UInt8 14 -> Rat) (angle : Int -> Rat) (gyroError : Rat) (start : Int)
    (past : List Attempt) : Attempt -> Prop
  | .failed _ => True
  | .read rxBuf now =>
      |rate rxBuf * secondsBetween (lastTime start (reads past)) now -
          (angle now - angle (lastTime start (reads past)))| ≤ gyroError

/--
The accelerometer misses the true angle by at most `accelError`, and the car turns by at
most `firstTurn` between the calibration and the first read.
-/
def Leans (accelAngle : Vector UInt8 14 -> Rat) (angle : Int -> Rat)
    (accelError firstTurn : Rat) (start : Int) (past : List Attempt) : Attempt -> Prop
  | .failed _ => True
  | .read rxBuf now =>
      |accelAngle rxBuf - angle now| ≤ accelError ∧
        (reads past = [] -> |angle now - angle start| ≤ firstTurn)

instance (rate : Vector UInt8 14 -> Rat) (angle : Int -> Rat) (gyroError : Rat) (start : Int)
    (past : List Attempt) : DecidablePred (Turns rate angle gyroError start past)
  | .failed _ => inferInstanceAs (Decidable True)
  | .read _ _ => inferInstanceAs (Decidable (_ ≤ _))

instance (accelAngle : Vector UInt8 14 -> Rat) (angle : Int -> Rat)
    (accelError firstTurn : Rat) (start : Int) (past : List Attempt) :
    DecidablePred (Leans accelAngle angle accelError firstTurn start past)
  | .failed _ => inferInstanceAs (Decidable True)
  | .read _ _ => inferInstanceAs (Decidable (_ ∧ (_ -> _)))

variable {atan2f : Rat -> Rat -> Rat}

/-!
# One read
-/

/-- The filter with an angle that moves from `before` to `after`. -/
theorem abs_fuse_sub_le {estimate rate dt accelAngle before after accelError gyroError lag : Rat}
    (hgyro : |rate * dt - (after - before)| ≤ gyroError)
    (haccel : |accelAngle - after| ≤ accelError)
    (hestimate : |estimate - before| ≤ accelError + 49 * gyroError + lag) :
    |fuse estimate rate dt accelAngle - after| ≤
      accelError + 49 * gyroError + 98 / 100 * lag := by
  rw [fuse_eq_filterStep]
  refine abs_filterStep_sub_le (by norm_num) ?_ hestimate
  calc
    |98 / 100 * (rate * dt) + 2 / 100 * accelAngle - (after - 98 / 100 * before)|
        = |98 / 100 * (rate * dt - (after - before)) + 2 / 100 * (accelAngle - after)| := by
      ring_nf
    _ ≤ |98 / 100 * (rate * dt - (after - before))| + |2 / 100 * (accelAngle - after)| :=
      abs_add_le _ _
    _ = 98 / 100 * |rate * dt - (after - before)| + 2 / 100 * |accelAngle - after| := by
      have hkeep : |(98 / 100 : Rat)| = 98 / 100 := abs_of_pos (by norm_num)
      have hnew : |(2 / 100 : Rat)| = 2 / 100 := abs_of_pos (by norm_num)
      rw [abs_mul, abs_mul, hkeep, hnew]
    _ ≤ (1 - 98 / 100) * (accelError + 49 * gyroError) := by linarith

/-!
# Runs
-/

theorem firstRun_anglesAfter (atan2f : Rat -> Rat -> Rat)
    (samples : Vector CalibrationSample calibrationSamples) (start : Int)
    (attempts : List Attempt) :
    (anglesAfter atan2f (.calibrated samples start) attempts).firstRun = true <->
      reads attempts = [] := by
  refine stateAfter_invariant
    (fun attempts (s : AnglesTask) => s.firstRun = true <-> reads attempts = [])
    (iff_of_true rfl rfl) ?_ attempts
  intro past attempt ih
  rw [reads_snoc]
  cases attempt with
  | failed rxBuf =>
      rw [Attempt.frame?, Option.toList_none, List.append_nil]
      exact ih
  | read rxBuf now => exact iff_of_false Bool.false_ne_true (by simp [Attempt.frame?])

section

variable (axis : Axis atan2f) {angle : Int -> Rat} {accelError gyroError firstTurn : Rat}
  {samples : Vector CalibrationSample calibrationSamples} {start : Int}

/-- Behind the first read the error is the bound and what is left of the first turn. -/
def Axis.Tracks (samples : Vector CalibrationSample calibrationSamples) (start : Int)
    (angle : Int -> Rat) (accelError gyroError firstTurn : Rat)
    (attempts : List Attempt) : Prop :=
  reads attempts ≠ [] ->
    |axis.estimate (anglesAfter atan2f (.calibrated samples start) attempts) -
        angle (lastTime start (reads attempts))| ≤
      accelError + 49 * gyroError + (98 / 100) ^ (reads attempts).length * firstTurn

theorem Axis.tracks_read (hgyro : 0 ≤ gyroError) {past : List Attempt}
    (h : axis.Tracks samples start angle accelError gyroError firstTurn past)
    {rxBuf : Vector UInt8 14} {now : Int}
    (hturns : Turns axis.rate angle gyroError start past (.read rxBuf now))
    (hleans : Leans axis.accelAngle angle accelError firstTurn start past (.read rxBuf now)) :
    axis.Tracks samples start angle accelError gyroError firstTurn
      (past ++ [.read rxBuf now]) := by
  intro _
  have hprev := integrationTimePrev_anglesAfter atan2f (.calibrated samples start) past
  have hfirst := firstRun_anglesAfter atan2f samples start past
  rw [anglesAfter, stateAfter_snoc, <- anglesAfter, axis.read_eq, reads_snoc, Attempt.frame?,
    Option.toList_some, lastTime_snoc, List.length_append, List.length_singleton, pow_succ',
    mul_assoc, hprev]
  refine abs_fuse_sub_le hturns hleans.1 ?_
  by_cases hempty : reads past = []
  · rw [if_pos (hfirst.mpr hempty), hempty]
    have hturned := hleans.2 hempty
    calc
      |axis.accelAngle rxBuf - angle start|
          = |(axis.accelAngle rxBuf - angle now) + (angle now - angle start)| := by
        ring_nf
      _ ≤ |axis.accelAngle rxBuf - angle now| + |angle now - angle start| := abs_add_le _ _
      _ ≤ accelError + 49 * gyroError + (98 / 100) ^ 0 * firstTurn := by
        linarith [hleans.1]
  · rw [if_neg fun hrun => hempty (hfirst.mp hrun)]
    exact h hempty

theorem Axis.tracks_of_run (hgyro : 0 ≤ gyroError) {attempts : List Attempt}
    (hturns : EveryInput (Turns axis.rate angle gyroError start) attempts)
    (hleans : EveryInput (Leans axis.accelAngle angle accelError firstTurn start) attempts) :
    axis.Tracks samples start angle accelError gyroError firstTurn attempts := by
  induction attempts using List.reverseRecOn with
  | nil => exact fun h => absurd rfl h
  | append_singleton past attempt ih =>
      rcases everyInput_snoc.mp hturns with ⟨hturns, hturn⟩
      rcases everyInput_snoc.mp hleans with ⟨hleans, hlean⟩
      have htracks := ih hturns hleans
      cases attempt with
      | failed rxBuf =>
          unfold Axis.Tracks at htracks ⊢
          rw [anglesAfter, stateAfter_snoc, <- anglesAfter, axis.failed_eq, reads_snoc,
            Attempt.frame?, Option.toList_none, List.append_nil]
          exact htracks
      | read rxBuf now => exact axis.tracks_read hgyro htracks hturn hlean

end

/-- Two errors in a row add up at worst. -/
theorem abs_add_sub_le_succ {estimate turn start before after error : Rat} {count : Nat}
    (hestimate : |estimate - (before - start)| ≤ count * error)
    (hturn : |turn - (after - before)| ≤ error) :
    |estimate + turn - (after - start)| ≤ ((count + 1 : Nat) : Rat) * error := by
  calc
    |estimate + turn - (after - start)|
        = |(estimate - (before - start)) + (turn - (after - before))| := by
      ring_nf
    _ ≤ |estimate - (before - start)| + |turn - (after - before)| := abs_add_le _ _
    _ ≤ count * error + error := add_le_add hestimate hturn
    _ = ((count + 1 : Nat) : Rat) * error := by
      push_cast
      ring

/-- The error of the yaw grows by at most that of the gyroscope with every read. -/
theorem yaw_drifts {yaw : Int -> Rat} {gyroError : Rat}
    (samples : Vector CalibrationSample calibrationSamples) {start : Int}
    {attempts : List Attempt}
    (hturns : EveryInput (Turns (rateZ (gZErrorOf samples)) yaw gyroError start) attempts) :
    |(anglesAfter atan2f (.calibrated samples start) attempts).realZ -
        (yaw (lastTime start (reads attempts)) - yaw start)| ≤
      (reads attempts).length * gyroError := by
  induction attempts using List.reverseRecOn with
  | nil =>
      change |0 - (yaw start - yaw start)| ≤ ((0 : Nat) : Rat) * gyroError
      norm_num
  | append_singleton past attempt ih =>
      rcases everyInput_snoc.mp hturns with ⟨hturns, hturn⟩
      have herror := ih hturns
      have hprev := integrationTimePrev_anglesAfter atan2f (.calibrated samples start) past
      have hcalibration := gZError_anglesAfter atan2f (.calibrated samples start) past
      cases attempt with
      | failed rxBuf =>
          rw [anglesAfter, stateAfter_snoc, <- anglesAfter, reads_snoc, Attempt.frame?,
            Option.toList_none, List.append_nil]
          exact herror
      | read rxBuf now =>
          rw [anglesAfter, stateAfter_snoc, <- anglesAfter, realZ_read, reads_snoc,
            Attempt.frame?, Option.toList_some, lastTime_snoc, hprev, hcalibration,
            List.length_append, List.length_singleton]
          have hturned : |rateZ (gZErrorOf samples) rxBuf *
              secondsBetween (lastTime start (reads past)) now -
                (yaw now - yaw (lastTime start (reads past)))| ≤ gyroError := hturn
          exact abs_add_sub_le_succ herror hturned

/-!
# All angles
-/

/-- Both sensors are right up to their errors, whatever the true angles are. -/
structure SensorsRight (atan2f : Rat -> Rat -> Rat)
    (samples : Vector CalibrationSample calibrationSamples) (start : Int)
    (roll pitch yaw : Int -> Rat) (accelError gyroError firstTurn : Rat)
    (attempts : List Attempt) : Prop where
  gyroError_nonneg : 0 ≤ gyroError
  roll_turns : EveryInput (Turns rateX roll gyroError start) attempts
  roll_leans : EveryInput (Leans (rollOf atan2f) roll accelError firstTurn start) attempts
  pitch_turns : EveryInput (Turns rateY pitch gyroError start) attempts
  pitch_leans : EveryInput (Leans (pitchOf atan2f) pitch accelError firstTurn start) attempts
  yaw_turns : EveryInput (Turns (rateZ (gZErrorOf samples)) yaw gyroError start) attempts

/-- Roll and pitch are followed for ever, and the yaw drifts at most linearly. -/
theorem angles_tracked {samples : Vector CalibrationSample calibrationSamples} {start : Int}
    {roll pitch yaw : Int -> Rat} {accelError gyroError firstTurn : Rat}
    {attempts : List Attempt}
    (h : SensorsRight atan2f samples start roll pitch yaw accelError gyroError firstTurn attempts)
    (hread : reads attempts ≠ []) :
    |(anglesAfter atan2f (.calibrated samples start) attempts).realX -
          roll (lastTime start (reads attempts))| ≤
        accelError + 49 * gyroError + (98 / 100) ^ (reads attempts).length * firstTurn ∧
      |(anglesAfter atan2f (.calibrated samples start) attempts).realY -
          pitch (lastTime start (reads attempts))| ≤
        accelError + 49 * gyroError + (98 / 100) ^ (reads attempts).length * firstTurn ∧
      |(anglesAfter atan2f (.calibrated samples start) attempts).realZ -
          (yaw (lastTime start (reads attempts)) - yaw start)| ≤
        (reads attempts).length * gyroError := by
  refine ⟨?_, ?_, yaw_drifts samples h.yaw_turns⟩
  · exact (rollAxis atan2f).tracks_of_run h.gyroError_nonneg h.roll_turns h.roll_leans hread
  · exact (pitchAxis atan2f).tracks_of_run h.gyroError_nonneg h.pitch_turns h.pitch_leans hread

/-- A car that turns at a degree per second behind a read that failed. -/
def turningAttempts : List Attempt :=
  [.read #v[0, 0, 0, 0, 0x40, 0, 0, 0, 0, 0, 0, 0, 0, 131] 1000000,
    .failed (Vector.replicate 14 0xff),
    .read #v[0, 0, 0, 0, 0x40, 0, 0, 0, 0, 0, 0, 0, 0, 131] 3000000]

theorem angles_tracked_turning :
    |(anglesAfter (fun _ _ => 0) (.calibrated (Vector.replicate 200 .failed) 0)
          turningAttempts).realX - 1| ≤ 1 + 49 * (1 / 10) + (98 / 100) ^ 2 * 0 ∧
      |(anglesAfter (fun _ _ => 0) (.calibrated (Vector.replicate 200 .failed) 0)
          turningAttempts).realY - 1| ≤ 1 + 49 * (1 / 10) + (98 / 100) ^ 2 * 0 ∧
      |(anglesAfter (fun _ _ => 0) (.calibrated (Vector.replicate 200 .failed) 0)
          turningAttempts).realZ - (3 - 0)| ≤ 2 * (1 / 10) := by
  have hright : SensorsRight (fun _ _ => 0) (Vector.replicate 200 .failed) 0
      (fun _ => 1) (fun _ => 1) (fun t => t / 1000000) 1 (1 / 10) 0 turningAttempts := by
    constructor
    · norm_num
    all_goals decide +kernel
  have htracked := angles_tracked hright (by decide)
  have htime : lastTime 0 (reads turningAttempts) = 3000000 := rfl
  have hcount : (reads turningAttempts).length = 2 := rfl
  rw [htime, hcount] at htracked
  norm_num at htracked ⊢
  exact htracked

end Angles
end CarCleaner
