import CarCleaner.Angles.Task

/-!
# Failed reads

A failed read of the sensor changes the receive buffer only, which the next
successful one overwrites before it is used.  The estimate depends on the successful
reads alone, and the yaw is the sum of the rotations between them.
-/

namespace CarCleaner
namespace Angles

open Foundation

/-!
# Deleting the failed attempts
-/

/-- What one pass of the loop takes over from the one in front of it. -/
structure Estimate where
  realX : Rat
  realY : Rat
  realZ : Rat
  gZError : Rat
  integrationTimePrev : Int
  firstRun : Bool
deriving DecidableEq, Repr

def AnglesTask.estimate (s : AnglesTask) : Estimate where
  realX := s.realX
  realY := s.realY
  realZ := s.realZ
  gZError := s.gZError
  integrationTimePrev := s.integrationTimePrev
  firstRun := s.firstRun

def Attempt.isRead : Attempt -> Bool
  | .failed _ => false
  | .read _ _ => true

variable (atan2f : Rat -> Rat -> Rat)

theorem estimate_failed (s : AnglesTask) {attempt : Attempt} (h : attempt.isRead = false) :
    (anglesLoop atan2f s attempt).estimate = s.estimate := by
  cases attempt with
  | failed rxBuf => rfl
  | read rxBuf now => cases h

/-- The estimate behind a pass depends on the estimate in front of it. -/
theorem estimate_anglesLoop (s t : AnglesTask) (attempt : Attempt)
    (h : s.estimate = t.estimate) :
    (anglesLoop atan2f s attempt).estimate = (anglesLoop atan2f t attempt).estimate := by
  rcases s with ⟨_, _, x, y, z, error, _, prev, first, _⟩
  rcases t with ⟨_, _, x', y', z', error', _, prev', first', _⟩
  cases h
  cases attempt with
  | failed rxBuf => rfl
  | read rxBuf now => rfl

theorem estimate_anglesAfter (start : AnglesTask) (attempts : List Attempt) :
    (anglesAfter atan2f start attempts).estimate =
      (anglesAfter atan2f start (attempts.filter Attempt.isRead)).estimate := by
  refine view_stateAfter_filter ?_ ?_ attempts start
  · intro s attempt h
    exact estimate_failed atan2f s h
  · exact estimate_anglesLoop atan2f

/-!
# The yaw as a sum
-/

def Attempt.frame? : Attempt -> Option (Vector UInt8 14 × Int)
  | .failed _ => none
  | .read rxBuf now => some (rxBuf, now)

/-- The frames of the successful reads with the time of each, oldest first. -/
def reads (attempts : List Attempt) : List (Vector UInt8 14 × Int) :=
  attempts.filterMap Attempt.frame?

/-- The time of the last of the reads, or `start` in front of the first one. -/
def lastTime (start : Int) (frames : List (Vector UInt8 14 × Int)) : Int :=
  stateAfter (fun _ frame => frame.2) start frames

/-- Sum of rate times duration over the reads; `start` is in front of the first one. -/
def rotation (gZError : Rat) (start : Int) : List (Vector UInt8 14 × Int) -> Rat
  | [] => 0
  | (rxBuf, now) :: later =>
      rateZ gZError rxBuf * secondsBetween start now + rotation gZError now later

theorem lastTime_snoc (start : Int) (frames : List (Vector UInt8 14 × Int))
    (frame : Vector UInt8 14 × Int) : lastTime start (frames ++ [frame]) = frame.2 :=
  stateAfter_snoc _ _ _ _

theorem rotation_snoc (gZError : Rat) (start : Int) (frames : List (Vector UInt8 14 × Int))
    (rxBuf : Vector UInt8 14) (now : Int) :
    rotation gZError start (frames ++ [(rxBuf, now)]) =
      rotation gZError start frames +
        rateZ gZError rxBuf * secondsBetween (lastTime start frames) now := by
  induction frames generalizing start with
  | nil =>
      rw [List.nil_append, rotation, rotation, add_comm]
      rfl
  | cons frame frames ih =>
      rw [List.cons_append, rotation, ih, rotation, add_assoc]
      rfl

theorem secondsBetween_add (first second third : Int) :
    secondsBetween first second + secondsBetween second third =
      secondsBetween first third := by
  unfold secondsBetween
  push_cast
  ring

/-- At a constant rate the durations add up to the whole time. -/
theorem rotation_of_constant {gZError rate : Rat} {frames : List (Vector UInt8 14 × Int)}
    (hrate : forall frame, frame ∈ frames -> rateZ gZError frame.1 = rate) (start : Int) :
    rotation gZError start frames = rate * secondsBetween start (lastTime start frames) := by
  induction frames using List.reverseRecOn with
  | nil =>
      simp [rotation, lastTime, stateAfter, secondsBetween]
  | append_singleton past frame ih =>
      have hpast := ih fun other hother => hrate other (List.mem_append_left _ hother)
      have hlast := hrate frame List.mem_concat_self
      rw [rotation_snoc, hpast, hlast, lastTime_snoc, <- mul_add, secondsBetween_add]

theorem reads_snoc (past : List Attempt) (attempt : Attempt) :
    reads (past ++ [attempt]) = reads past ++ attempt.frame?.toList :=
  filterMap_snoc Attempt.frame? past attempt

theorem integrationTimePrev_anglesAfter (start : AnglesTask) (attempts : List Attempt) :
    (anglesAfter atan2f start attempts).integrationTimePrev =
      lastTime start.integrationTimePrev (reads attempts) := by
  refine stateAfter_invariant
    (fun attempts (s : AnglesTask) =>
      s.integrationTimePrev = lastTime start.integrationTimePrev (reads attempts))
    rfl ?_ attempts
  intro past attempt ih
  rw [reads_snoc]
  cases attempt with
  | failed rxBuf =>
      exact ih.trans (by simp [Attempt.frame?])
  | read rxBuf now =>
      rw [Attempt.frame?, Option.toList_some, lastTime_snoc]
      rfl

theorem realZ_anglesAfter (start : AnglesTask) (attempts : List Attempt) :
    (anglesAfter atan2f start attempts).realZ =
      start.realZ +
        rotation start.gZError start.integrationTimePrev (reads attempts) := by
  induction attempts using List.reverseRecOn with
  | nil =>
      exact (add_zero _).symm
  | append_singleton past attempt ih =>
      rw [anglesAfter, stateAfter_snoc, <- anglesAfter, reads_snoc]
      cases attempt with
      | failed rxBuf =>
          exact ih.trans (by simp [Attempt.frame?])
      | read rxBuf now =>
          rw [realZ_read, ih, gZError_anglesAfter, integrationTimePrev_anglesAfter,
            Attempt.frame?, Option.toList_some, rotation_snoc, add_assoc]

/-- Failed reads lose no rotation and leave the estimate as it is. -/
theorem failed_reads_harmless (samples : Vector CalibrationSample calibrationSamples)
    (start : Int) (attempts : List Attempt) :
    (anglesAfter atan2f (.calibrated samples start) attempts).estimate =
        (anglesAfter atan2f (.calibrated samples start)
          (attempts.filter Attempt.isRead)).estimate ∧
      (anglesAfter atan2f (.calibrated samples start) attempts).realZ =
        rotation (gZErrorOf samples) start (reads attempts) ∧
      forall rate, (forall frame, frame ∈ reads attempts ->
          rateZ (gZErrorOf samples) frame.1 = rate) ->
        (anglesAfter atan2f (.calibrated samples start) attempts).realZ =
          rate * secondsBetween start (lastTime start (reads attempts)) := by
  have hsum : (anglesAfter atan2f (.calibrated samples start) attempts).realZ =
      rotation (gZErrorOf samples) start (reads attempts) :=
    (realZ_anglesAfter atan2f _ attempts).trans (zero_add _)
  refine ⟨estimate_anglesAfter atan2f _ attempts, hsum, ?_⟩
  intro rate hrate
  rw [hsum]
  exact rotation_of_constant hrate start

end Angles
end CarCleaner
