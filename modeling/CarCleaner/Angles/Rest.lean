import CarCleaner.Angles.FailedReads

/-!
# A car at rest

The calibration divides the sum of the samples that could be read by 200, however
many these were.  After failed samples the offset is too small by the share of the
failures, and what is left of the bias counts as a rotation when it reaches half a
degree per second.
-/

namespace CarCleaner
namespace Angles

open Foundation

/-- Every sample that could be read shows the same raw value. -/
def SamplesAt (b : Int) (samples : Vector CalibrationSample calibrationSamples) : Prop :=
  forall gZByte, .read gZByte ∈ samples.toList -> gyroZOf gZByte = b

/-- Every frame that could be read shows the same raw value. -/
def FramesAt (b : Int) (attempts : List Attempt) : Prop :=
  forall frame, frame ∈ reads attempts -> (Mpu6050Data.ofBytes frame.1).gyroZ = b

/-- The yaw is 0 in every state of the run. -/
def YawStaysZero (atan2f : Rat -> Rat -> Rat) (start : AnglesTask)
    (attempts : List Attempt) : Prop :=
  forall past, past <+: attempts -> (anglesAfter atan2f start past).realZ = 0

def failures (samples : Vector CalibrationSample calibrationSamples) : Nat :=
  samples.toList.count .failed

/-!
# The calibration error
-/

theorem sum_of_constant {b : Int} {samples : List CalibrationSample}
    (h : forall gZByte, .read gZByte ∈ samples -> gyroZOf gZByte = b) :
    stateAfter addSample 0 samples = b * (samples.length - samples.count .failed : Int) := by
  induction samples using List.reverseRecOn with
  | nil =>
      simp [stateAfter]
  | append_singleton past sample ih =>
      have hpast := ih fun gZByte hmem => h gZByte (List.mem_append_left _ hmem)
      rw [stateAfter_snoc, hpast, List.length_append, List.count_append]
      cases sample with
      | failed =>
          simp [addSample]
      | read gZByte =>
          have hlast := h gZByte List.mem_concat_self
          simp [addSample, hlast]
          ring

theorem gZErrorOf_constant {b : Int} {samples : Vector CalibrationSample calibrationSamples}
    (h : SamplesAt b samples) : gZErrorOf samples = b - b * failures samples / 200 := by
  have hlength : samples.toList.length = 200 := samples.length_toList
  have hcount : (calibrationSamples : Rat) = 200 := by
    norm_num [calibrationSamples]
  rw [gZErrorOf, sum_of_constant h, hlength, hcount, failures]
  push_cast
  ring

/-- The rate that a car at rest seems to have. -/
def restRate (b : Int) (samples : Vector CalibrationSample calibrationSamples) : Rat :=
  filterGyro (b * failures samples / 26200)

theorem rateZ_at_rest {b : Int} {samples : Vector CalibrationSample calibrationSamples}
    (hsamples : SamplesAt b samples) {rxBuf : Vector UInt8 14}
    (hframe : (Mpu6050Data.ofBytes rxBuf).gyroZ = b) :
    rateZ (gZErrorOf samples) rxBuf = restRate b samples := by
  have hrate : ((b : Rat) - (b - b * failures samples / 200)) / 131 =
      b * failures samples / 26200 := by
    ring
  rw [rateZ, hframe, gZErrorOf_constant hsamples, hrate, restRate]

theorem restRate_eq_zero_iff (b : Int)
    (samples : Vector CalibrationSample calibrationSamples) :
    restRate b samples = 0 <-> |b| * failures samples < 13100 := by
  have hrate : |(b * failures samples / 26200 : Rat)| = (|b| * failures samples : Int) / 26200 := by
    rw [abs_div, abs_mul, Nat.abs_cast]
    push_cast
    norm_num
  have hlimit : |(b * failures samples / 26200 : Rat)| < 1 / 2 <->
      |b| * failures samples < 13100 := by
    rw [hrate, div_lt_iff₀ (by norm_num)]
    norm_num
    exact_mod_cast Iff.rfl
  rw [restRate, filterGyro, <- hlimit]
  constructor
  · intro h
    by_contra hbig
    rw [if_neg hbig] at h
    rw [h, abs_zero] at hbig
    norm_num at hbig
  · exact fun h => if_pos h

/-!
# The yaw of a car at rest
-/

theorem FramesAt.of_past {b : Int} {past attempts : List Attempt}
    (h : FramesAt b attempts) (hpast : past <+: attempts) : FramesAt b past :=
  fun frame hframe => h frame ((hpast.filterMap Attempt.frame?).subset hframe)

theorem realZ_at_rest {b : Int} {samples : Vector CalibrationSample calibrationSamples}
    {attempts : List Attempt} (hsamples : SamplesAt b samples)
    (hframes : FramesAt b attempts) (atan2f : Rat -> Rat -> Rat) (start : Int) :
    (anglesAfter atan2f (.calibrated samples start) attempts).realZ =
      restRate b samples * secondsBetween start (lastTime start (reads attempts)) := by
  have hrate : forall frame, frame ∈ reads attempts ->
      rateZ (gZErrorOf samples) frame.1 = restRate b samples :=
    fun frame hframe => rateZ_at_rest hsamples (hframes frame hframe)
  rw [realZ_anglesAfter, <- rotation_of_constant hrate]
  exact zero_add _

theorem secondsBetween_eq_zero_iff {first second : Int} :
    secondsBetween first second = 0 <-> second = first := by
  rw [secondsBetween, div_eq_zero_iff, Int.cast_eq_zero, sub_eq_zero]
  norm_num

theorem lastTime_of_constant {start : Int} {frames : List (Vector UInt8 14 × Int)}
    (h : forall frame, frame ∈ frames -> frame.2 = start) : lastTime start frames = start := by
  induction frames using List.reverseRecOn with
  | nil =>
      rfl
  | append_singleton past frame _ =>
      rw [lastTime_snoc]
      exact h frame List.mem_concat_self

/-- A read is the last one of some prefix of the run. -/
theorem exists_past_of_mem_reads {attempts : List Attempt}
    {frame : Vector UInt8 14 × Int} (h : frame ∈ reads attempts) (start : Int) :
    exists past, past <+: attempts ∧ lastTime start (reads past) = frame.2 := by
  induction attempts using List.reverseRecOn with
  | nil =>
      cases h
  | append_singleton past attempt ih =>
      rw [reads_snoc] at h
      rcases List.mem_append.mp h with hold | hnew
      · rcases ih hold with ⟨older, hprefix, hlast⟩
        exact ⟨older, hprefix.trans (List.prefix_append _ _), hlast⟩
      · refine ⟨past ++ [attempt], List.prefix_refl _, ?_⟩
        rw [reads_snoc, Option.mem_toList.mp hnew, Option.toList_some, lastTime_snoc]

/-- The estimate of a car at rest stays 0 unless the failures leave too much of the bias. -/
theorem yaw_at_rest_iff {b : Int} {samples : Vector CalibrationSample calibrationSamples}
    {attempts : List Attempt} (hsamples : SamplesAt b samples)
    (hframes : FramesAt b attempts) (atan2f : Rat -> Rat -> Rat) (start : Int) :
    YawStaysZero atan2f (.calibrated samples start) attempts <->
      |b| * failures samples < 13100 ∨
        forall frame, frame ∈ reads attempts -> frame.2 = start := by
  rw [<- restRate_eq_zero_iff b samples]
  constructor
  · intro h
    by_cases hrate : restRate b samples = 0
    · exact Or.inl hrate
    · refine Or.inr ?_
      intro frame hframe
      rcases exists_past_of_mem_reads hframe start with ⟨past, hpast, hlast⟩
      have hzero := h past hpast
      rw [realZ_at_rest hsamples (hframes.of_past hpast), hlast] at hzero
      exact secondsBetween_eq_zero_iff.mp ((mul_eq_zero.mp hzero).resolve_left hrate)
  · intro hrest past hpast
    rcases hrest with hrate | htimes
    · rw [realZ_at_rest hsamples (hframes.of_past hpast), hrate, zero_mul]
    · have hlast : lastTime start (reads past) = start :=
        lastTime_of_constant fun frame hframe =>
          htimes frame ((hpast.filterMap Attempt.frame?).subset hframe)
      rw [realZ_at_rest hsamples (hframes.of_past hpast), hlast,
        secondsBetween_eq_zero_iff.mpr rfl, mul_zero]

/-- 100 failed samples and 100 samples with the bytes `high` and `low`. -/
def halfFailed (high low : UInt8) : Vector CalibrationSample calibrationSamples where
  toArray :=
    (List.replicate 100 CalibrationSample.failed ++
      List.replicate 100 (CalibrationSample.read #v[high, low])).toArray
  size_toArray := by
    rw [List.size_toArray, List.length_append, List.length_replicate,
      List.length_replicate]
    rfl

/-- A frame of a level car at rest. -/
def restFrame (high low : UInt8) : Vector UInt8 14 :=
  #v[0, 0, 0, 0, 64, 0, 0, 0, 0, 0, 0, 0, high, low]

theorem samplesAt_halfFailed {b : Int} {high low : UInt8}
    (hb : gyroZOf #v[high, low] = b) : SamplesAt b (halfFailed high low) := by
  intro gZByte hmem
  rcases List.mem_append.mp hmem with hfailed | hread
  · cases List.eq_of_mem_replicate hfailed
  · cases List.eq_of_mem_replicate hread
    exact hb

theorem framesAt_restFrame {b : Int} {high low : UInt8}
    (hb : gyroZOf #v[high, low] = b) (now : Int) :
    FramesAt b [.read (restFrame high low) now] := by
  intro frame hmem
  have hframe : frame = (restFrame high low, now) := List.mem_singleton.mp hmem
  rw [hframe, <- hb]
  simp [Mpu6050Data.ofBytes, restFrame, gyroZOf]

/-- A bias of 262 and 100 failures: the yaw shows a degree after a second. -/
theorem halfFailed_drifts :
    SamplesAt 262 (halfFailed 1 6) ∧ failures (halfFailed 1 6) = 100 ∧
      FramesAt 262 [.read (restFrame 1 6) 1000000] ∧
      ¬ YawStaysZero (fun _ _ => 0) (.calibrated (halfFailed 1 6) 0)
          [.read (restFrame 1 6) 1000000] := by
  have hb : gyroZOf #v[1, 6] = 262 := by
    decide +kernel
  refine ⟨samplesAt_halfFailed hb, by decide +kernel, framesAt_restFrame hb 1000000, ?_⟩
  intro h
  have hzero := h _ (List.prefix_refl _)
  exact absurd hzero (by decide +kernel)

theorem yaw_at_rest_halfFailed :
    YawStaysZero (fun _ _ => 0) (.calibrated (halfFailed 0 100) 0)
      [.read (restFrame 0 100) 1000000] := by
  have hb : gyroZOf #v[0, 100] = 100 := by
    decide +kernel
  exact (yaw_at_rest_iff (samplesAt_halfFailed hb) (framesAt_restFrame hb 1000000) _ 0).mpr
    (Or.inl (by decide +kernel))

end Angles
end CarCleaner
